import Modelsmith.Files.System

/-! What a run has created and removes in the end. -/

set_option autoImplicit false

namespace Modelsmith

structure Traces where
  files : List String := []
  directories : List String := []

namespace Traces

/-- A path counts once, however it is spelled. -/
def add (traces : Traces) (path : String) : Traces :=
  if traces.files.any (Path.same path) then traces
  else { traces with files := traces.files ++ [path] }

/-- A directory goes with everything left inside it. -/
def addDirectory (traces : Traces) (path : String) : Traces :=
  { traces with directories := traces.directories ++ [path] }

/-- Whether a compiler writes this file for a class or for one nested in it. -/
def isClassFile (className name : String) : Bool :=
  name = className ++ ".class" ||
    ((className ++ "$").toList.isPrefixOf name.toList && ".class".toList.isSuffixOf name.toList)

def addClassFiles (traces : Traces) (files : Files) (directory className : String) : Traces :=
  match files.names? directory with
  | none => traces
  | some names =>
    (names.filter (isClassFile className)).foldl
      (fun traces name => traces.add (Path.join directory name)) traces

/-- Removes the files, then the directories, the last one first. What is not there is passed
over. -/
def sweep (traces : Traces) (files : Files) : Files :=
  traces.directories.reverse.foldl Files.removeDirectory
    (traces.files.foldl Files.removeFile files)

end Traces

end Modelsmith
