import Modelsmith.Files.System
import Modelsmith.Text.Blank

/-! Shells: what runs command lines. -/

set_option autoImplicit false

namespace Modelsmith

structure Output where
  success : Bool
  stdout : String
  stderr : String
  deriving DecidableEq

def Output.both (output : Output) : String :=
  let stdout := Text.trimEnd output.stdout.toList
  let stderr := Text.trimEnd output.stderr.toList
  String.ofList <|
    if stdout.isEmpty then stderr
    else if stderr.isEmpty then stdout
    else stdout ++ '\n' :: stderr

abbrev Answer := Except String Output

/-- A shell answers a command from a state of its own, and may change files. -/
structure Shell (State : Type) where
  run : State → Files → String → Answer × State × Files

namespace Shell

def quoteChars : List Char → List Char
  | [] => []
  | c :: rest => if c = '\x27' then "'\\''" ++ quoteChars rest else c :: quoteChars rest

def quote (text : String) : String := String.ofList ('\x27' :: (quoteChars text ++ ['\x27']))

/-- What a shell was asked, newest command first, and the files when the first one came. -/
structure Log where
  commands : List String := []
  filesAtStart : Option (List String) := none

def logged {State : Type} (shell : Shell State) : Shell (State × Log) where
  run := fun (state, log) files command =>
    let log := {
      commands := command :: log.commands
      filesAtStart := some (log.filesAtStart.getD files.listing) : Log }
    let (answer, state, files) := shell.run state files command
    (answer, (state, log), files)

end Shell

end Modelsmith
