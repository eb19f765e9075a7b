import Modelsmith.Text.Utf8

/-! Scripts: the words and commands of a command language. All texts are octets. -/

set_option autoImplicit false

namespace Modelsmith.Shell

/-- How the value of a parameter is adjusted. With `empty`, an empty value counts as unset. -/
inductive Form where
  | plain
  | orDefault (empty : Bool)
  | orAssign (empty : Bool)
  | orFail (empty : Bool)
  | alternative (empty : Bool)
  | dropFront (longest : Bool)
  | dropBack (longest : Bool)
  | length
  | faulty
  deriving DecidableEq

inductive Opening where
  | reading
  | writing
  | overwriting
  | appending
  | both
  deriving DecidableEq

mutual

/-- A part of a word before expansion. What is quoted is neither split nor a pattern. -/
inductive Piece where
  | literal (quoted : Bool) (text : Octets)
  | parameter (quoted : Bool) (name : Octets) (form : Form) (argument : List Piece)
  | output (quoted : Bool) (body : Command)
  | arithmetic (quoted : Bool) (expression : List Piece)

inductive Redirection where
  | file (descriptor : Nat) (opening : Opening) (target : List Piece)
  | duplicate (descriptor : Nat) (target : List Piece)
  | document (descriptor : Nat) (index : Nat)

inductive Command where
  | nothing
  | simple (line : Nat) (assignments words : List (List Piece)) (redirections : List Redirection)
  | sequence (first second : Command)
  | and (first second : Command)
  | or (first second : Command)
  | not (body : Command)
  | pipeline (commands : List Command)
  | background (body : Command) (redirections : List Redirection)
  | subshell (line : Nat) (body : Command) (redirections : List Redirection)
  | redirected (line : Nat) (body : Command) (redirections : List Redirection)
  | choice (test body otherwise : Command)
  | loop (inverted : Bool) (test body : Command)
  | each (line : Nat) (name : Octets) (words : List (List Piece)) (body : Command)
  | select (line : Nat) (word : List Piece) (arms : List (List (List Piece) × Command))
  | define (name : Octets) (body : Command)

end

abbrev Word := List Piece

namespace Word

def plain? : Word → Option Octets
  | [] => some []
  | .literal false text :: rest => (plain? rest).map (text ++ ·)
  | _ => none

def text : Word → Octets
  | [] => []
  | .literal _ octets :: rest => octets ++ text rest
  | _ :: rest => text rest

def isQuoted (word : Word) : Bool :=
  word.any fun piece =>
    match piece with
    | .literal quoted _ => quoted
    | .parameter quoted _ _ _ => quoted
    | .output quoted _ => quoted
    | .arithmetic quoted _ => quoted

def allArguments : Word := [.parameter true ['@'] .plain []]

end Word

def isNameStart (c : Char) : Bool := c.isAlpha || c = '_'

def isNameChar (c : Char) : Bool := c.isAlphanum || c = '_'

def isName (text : Octets) : Bool :=
  match text with
  | [] => false
  | c :: rest => isNameStart c && rest.all isNameChar

def isSpecialName (c : Char) : Bool := c.isDigit || "*@#?$!-".toList.contains c

def assignment? (word : Word) : Option (Octets × Word) :=
  match word with
  | .literal false text :: rest =>
    let name := text.takeWhile (· ≠ '=')
    if isName name && name.length < text.length then
      some (name, .literal false (text.drop (name.length + 1)) :: rest)
    else none
  | _ => none

end Modelsmith.Shell
