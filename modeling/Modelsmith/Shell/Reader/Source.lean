import Modelsmith.Shell.Script

/-! The text of a script while it is being read. -/

set_option autoImplicit false

namespace Modelsmith.Shell

inductive Token where
  | finish
  | newline
  | semicolon
  | background
  | and
  | or
  | pipe
  | open
  | close
  | endArm
  | file (descriptor : Option Nat) (opening : Opening)
  | duplicate (descriptor : Option Nat) (output : Bool)
  | document (descriptor : Option Nat) (stripped : Bool)
  | word (word : Word)
  | keyword (name : String)

namespace Token

def keywords : List String :=
  ["!", "case", "do", "done", "elif", "else", "esac", "fi", "for", "if", "in", "then", "until",
    "while", "\x7b", "\x7d"]

def describe : Token → String
  | .finish => "end of file"
  | .newline => "newline"
  | .semicolon => "\";\""
  | .background => "\"&\""
  | .and => "\"&&\""
  | .or => "\"||\""
  | .pipe => "\"|\""
  | .open => "\"(\""
  | .close => "\")\""
  | .endArm => "\";;\""
  | .file _ _ | .duplicate _ _ | .document _ _ => "redirection"
  | .word _ => "word"
  | .keyword name => "\"" ++ name ++ "\""

def isKeyword (token : Token) (name : String) : Bool :=
  match token with
  | .keyword other => other = name
  | _ => false

def endsList : Token → Bool
  | .finish | .close | .endArm => true
  | .keyword name => ["do", "done", "elif", "else", "esac", "fi", "then", "\x7d"].contains name
  | _ => false

end Token

structure ReadFault where
  line : Nat
  message : String

structure Waiting where
  index : Nat
  delimiter : Octets
  verbatim : Bool
  stripped : Bool

structure Source where
  rest : Octets
  line : Nat := 1
  latest : Token := .newline
  again : Bool := false
  waiting : List Waiting := []
  documents : Array Word := #[]
  aliases : List (Octets × Octets) := []
  expanding : List (Octets × Nat) := []

abbrev Reading := StateT Source (Except ReadFault)

namespace Reading

def fail {α : Type} (message : String) : Reading α := do
  throw ⟨(← get).line, "Syntax error: " ++ message⟩

def unexpected {α : Type} : Reading α := do fail ((← get).latest.describe ++ " unexpected")

def expected {α : Type} (wanted : Token) : Reading α := do
  fail ((← get).latest.describe ++ " unexpected (expecting " ++ wanted.describe ++ ")")

def joined : Octets → Nat → Octets × Nat
  | '\\' :: '\n' :: rest, line => joined rest (line + 1)
  | rest, line => (rest, line)

def peekRaw : Reading (Option Char) := do return (← get).rest.head?

def peek : Reading (Option Char) := do
  let source ← get
  match source.rest with
  | '\\' :: '\n' :: _ =>
    let (rest, line) := joined source.rest source.line
    set { source with rest, line }
    return rest.head?
  | rest => return rest.head?

def skip : Reading Unit :=
  modify fun source =>
    match source.rest with
    | '\n' :: rest => { source with rest, line := source.line + 1 }
    | _ :: rest => { source with rest }
    | [] => source

def skipIf (c : Char) : Reading Bool := do
  if (← peek) = some c then
    skip
    return true
  else return false

def chunk (stops : Char → Bool) : Reading Octets := do
  let source ← get
  let text := source.rest.takeWhile fun c => !stops c
  set { source with
    rest := source.rest.drop text.length
    line := source.line + text.count '\n' }
  return text

def nameChars (accepts : Char → Bool) : (fuel : Nat) → Reading Octets
  | 0 => return []
  | fuel + 1 => do
    match ← peek with
    | some c =>
      if accepts c then
        skip
        return c :: (← nameChars accepts fuel)
      else return []
    | none => return []

def pushBack : Reading Unit := modify fun source => { source with again := true }

def take (token : Token) : Reading Token := do
  modify fun source => { source with latest := token, again := false }
  return token

def expandAlias (name : Octets) : Reading Bool := do
  let source ← get
  match source.aliases.lookup name with
  | none => return false
  | some text =>
    let left := source.rest.length
    let expanding := source.expanding.filter fun (_, length) => length < left
    if expanding.any fun (other, _) => other = name then return false
    set { source with rest := text ++ source.rest, expanding := (name, left) :: expanding }
    return true

def splitLines : Octets → List Octets
  | [] => [[]]
  | c :: rest =>
    if c = '\n' then [] :: splitLines rest
    else
      match splitLines rest with
      | line :: lines => (c :: line) :: lines
      | [] => [[c]]

def takesBack (line : Octets) : Bool := (line.reverse.takeWhile (· = '\\')).length % 2 = 1

def documentLines (waiting : Waiting) (inside : Bool) : List Octets → Octets × List Octets
  | [] => ([], [])
  | line :: rest =>
    let line := if waiting.stripped then line.dropWhile (· = '\t') else line
    if line = waiting.delimiter && !inside then ([], rest)
    else
      match rest with
      | [] => (line, [])
      | _ =>
        let (text, after) := documentLines waiting (!waiting.verbatim && takesBack line) rest
        (line ++ '\n' :: text, after)

def joinLines : List Octets → Octets
  | [] => []
  | [line] => line
  | line :: rest => line ++ '\n' :: joinLines rest

def backquoted (double : Bool) : Octets → Option (Octets × Octets)
  | [] => none
  | '\x60' :: rest => some ([], rest)
  | '\\' :: '\n' :: rest => backquoted double rest
  | '\\' :: c :: rest =>
    (backquoted double rest).map fun (text, rest) =>
      if c = '\\' || c = '\x60' || c = '$' || (double && c = '"') then (c :: text, rest)
      else ('\\' :: c :: text, rest)
  | c :: rest => (backquoted double rest).map fun (text, rest) => (c :: text, rest)

end Reading

end Modelsmith.Shell
