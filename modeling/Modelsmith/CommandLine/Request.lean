import Modelsmith.CommandLine.Arguments
import Modelsmith.Instances
import Modelsmith.Target

/-! What the command line is asked for. -/

set_option autoImplicit false

namespace Modelsmith.CommandLine

structure Choices where
  language : Option Language
  packaging : Option Packaging
  method : Option Method
  className : Option String
  precision : Option Nat

inductive Task where
  | report (language : Option Language)
  | generate (model : String) (choices : Choices) (output : String)
  | predict (model rows : String) (choices : Choices) (workers : Option Nat) (keepFiles : Bool)
  | score (model rows : String) (choices : Choices) (expected : Option String) (raw : Bool)

structure Request where
  config : Option String
  task : Task

/-- A whole number below 2^64, with or without a plus sign. -/
def natural? (text : String) : Option Nat :=
  let digits := match text.toList with
    | '+' :: rest => rest
    | digits => digits
  let value := digits.foldl (fun value c => 10 * value + (c.toNat - 48)) 0
  if digits.isEmpty || !digits.all Char.isDigit || 2 ^ 64 ≤ value then none else some value

def isPath (text : String) : Bool := text ≠ ""

def language? (text : String) : Option Language := (Language.parse text).toOption

def packaging? (text : String) : Option Packaging := (Packaging.parse text).toOption

def method? (text : String) : Option Method := (Method.parse text).toOption

def configFlag : Flag := { long := "config", accepts := some isPath }

def languageFlag : Flag :=
  { long := "language", short := some 'l', accepts := some fun text => (language? text).isSome }

def choiceFlags : List Flag := [
  languageFlag,
  { long := "mode", short := some 'm', accepts := some fun text => (packaging? text).isSome },
  { long := "method", accepts := some fun text => (method? text).isSome },
  { long := "class-name", accepts := some fun _ => true },
  { long := "precision", accepts := some fun text => (natural? text).isSome }]

def choices (given : Given) : Choices where
  language := (given.value? "language").bind language?
  packaging := (given.value? "mode").bind packaging?
  method := (given.value? "method").bind method?
  className := given.value? "class-name"
  precision := (given.value? "precision").bind natural?

def formOf : String → Option (List Flag × Nat)
  | "show" => some ([languageFlag], 0)
  | "port" => some (choiceFlags ++ [
    { long := "output", short := some 'o', accepts := some isPath }], 1)
  | "predict" => some (choiceFlags ++ [
    { long := "workers", accepts := some fun text => (natural? text).isSome },
    { long := "keep-files" }], 2)
  | "score" => some (choiceFlags ++ [
    { long := "expected", accepts := some isPath },
    { long := "raw" }], 2)
  | _ => none

def task? (command : String) (given : Given) : Option Task :=
  match command, given.operands with
  | "show", [] => some (.report ((given.value? "language").bind language?))
  | "port", [model] => some (.generate model (choices given) ((given.value? "output").getD "."))
  | "predict", [model, rows] =>
    some (.predict model rows (choices given) ((given.value? "workers").bind natural?)
      (given.has "keep-files"))
  | "score", [model, rows] =>
    some (.score model rows (choices given) (given.value? "expected") (given.has "raw"))
  | _, _ => none

def helpRequest : List String → Stop
  | [] => .help
  | [command] => if (formOf command).isSome || command = "help" then .help else .usage
  | _ => .usage

/-- The configuration may be named before the command or after it; the later one counts. -/
def Request.read (arguments : List String) : Except Stop Request := do
  let (before, command, rest) ←
    readCommand [configFlag, helpFlag, versionFlag] arguments.length arguments {}
  if command = "help" then throw (helpRequest rest)
  let some (flags, operands) := formOf command | throw .usage
  let given ← readAll (flags ++ [configFlag, helpFlag]) operands rest.length false rest {}
  let some task := task? command given | throw .usage
  return ⟨(given.value? "config").or (before.value? "config"), task⟩

end Modelsmith.CommandLine
