import Modelsmith.Text.Blank

/-! Texts with named slots.

A slot is a name between double braces, with or without white space around it; any other brace is
plain text. A text is first cut into pieces, and values are put in afterwards, so what looks like a
slot inside a value stays as it is.
-/

set_option autoImplicit false

namespace Modelsmith.Template

inductive Piece where
  | char (c : Char)
  | slot (name : String)
  deriving DecidableEq

def isNameStart (c : Char) : Bool := c.isAlpha || c = '_'

def isNamePart (c : Char) : Bool := c.isAlphanum || c = '_'

def isName : List Char → Bool
  | [] => false
  | first :: rest => isNameStart first && rest.all isNamePart

def closing? : List Char → Option (List Char × List Char)
  | [] => none
  | '}' :: '}' :: rest => some ([], rest)
  | c :: rest => (closing? rest).map fun (inner, rest) => (c :: inner, rest)

def slot? : List Char → Option (String × List Char)
  | '{' :: '{' :: rest =>
    match closing? rest with
    | some (inner, rest) =>
      if isName (Text.trim inner) then some (String.ofList (Text.trim inner), rest) else none
    | none => none
  | _ => none

/-- The pieces of a text. Each step uses up a character, so its length is fuel enough. -/
def piecesWithin : (fuel : Nat) → List Char → List Piece
  | 0, _ => []
  | _, [] => []
  | fuel + 1, c :: rest =>
    match slot? (c :: rest) with
    | some (name, rest) => .slot name :: piecesWithin fuel rest
    | none => .char c :: piecesWithin fuel rest

def pieces (text : List Char) : List Piece := piecesWithin text.length text

/-- Values by slot name; the first one with a name counts. -/
abbrev Bindings := List (String × String)

/-- The text with every slot replaced, or the name of the first slot without a value. -/
def expand (bindings : Bindings) : List Piece → Except String (List Char)
  | [] => .ok []
  | .char c :: rest => (expand bindings rest).map (c :: ·)
  | .slot name :: rest =>
    match bindings.lookup name with
    | none => .error name
    | some value => (expand bindings rest).map (value.toList ++ ·)

def fill (text : String) (bindings : Bindings) : Except String String :=
  (expand bindings (pieces text.toList)).map String.ofList

end Modelsmith.Template
