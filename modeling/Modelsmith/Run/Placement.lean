import Modelsmith.Config.Toolchain
import Modelsmith.Program.Basic
import Modelsmith.Shell.Basic

/-! Where a program lies, and the commands that compile and run it there. -/

set_option autoImplicit false

namespace Modelsmith

structure Placement where
  directory : String
  className : String
  source : String
  data : Option String
  /-- Entries of the class path; none when nothing is compiled. -/
  classPath : List String

namespace Placement

def ofProgram (program : Program) (directory : String) : Placement where
  directory := directory
  className := program.className
  source := Path.join directory program.sourceFile
  data := program.dataFile.map (Path.join directory)
  classPath := []

def binary (placement : Placement) : String := Path.withoutExtension placement.source

/-- The class path as an argument, empty without entries. A colon would split an entry. -/
def classPathArgument (placement : Placement) : Except Failure String :=
  if placement.classPath.isEmpty then .ok ""
  else if placement.classPath.any fun entry => entry.toList.contains ':' then
    .error (.input .classPath)
  else .ok ("-cp " ++ Shell.quote (":".intercalate placement.classPath))

def render (placement : Placement) (command : String) : Except Failure String := do
  let classPath ← placement.classPathArgument
  let bindings : Template.Bindings := [
    ("src_path", Shell.quote placement.source),
    ("dest_path", Shell.quote placement.binary),
    ("dest_dir", Shell.quote placement.directory),
    ("class_name", placement.className),
    ("class_path", classPath)]
  match Template.fill command bindings with
  | .ok text => return text
  | .error slot => throw (.input (.unknownSlot command slot))

def runCommand (placement : Placement) (toolchain : Toolchain) : Except Failure String := do
  let command ← placement.render toolchain.execute
  return match placement.data with
    | some data => command ++ " " ++ Shell.quote data
    | none => command

end Placement

end Modelsmith
