import Modelsmith.CommandLine.Answer

/-! The program. What it may read is loaded into a value, the request is carried out on that
value, and what changed is written back. -/

set_option autoImplicit false

namespace Modelsmith.Main

def octetsOf? (path : IO.FS.DirEntry) : IO (Option Octets) := do
  match ← (IO.FS.readBinFile path.path).toBaseIO with
  | .ok bytes => return some (bytes.toList.map fun byte => Char.ofNat byte.toNat)
  | .error _ => return none

/-- Adds an entry of a directory with all it holds. What cannot be read is left out. -/
partial def loadEntry (location : Files.Location) (files : Files) (entry : IO.FS.DirEntry) :
    IO Files := do
  let here := location ++ [entry.fileName]
  match (← entry.path.symlinkMetadata).type with
  | .dir =>
    (← entry.path.readDir).toList.foldlM (loadEntry here) (files.create here .directory 0o777)
  | _ =>
    match ← octetsOf? entry with
    | some content => return files.create here (.file content) 0o666
    | none => return files

def loadFile (files : Files) (path : String) : IO Files := do
  match ← (IO.FS.readFile path).toBaseIO with
  | .ok content => return files.place path content
  | .error _ => return files

def above (location : Files.Location) : List Files.Location :=
  (List.range location.length).map fun length => location.take (length + 1)

def pathOf (location : Files.Location) : String := "/" ++ "/".intercalate location

/-- The working directory, configurations above it, and files that arguments name. -/
def load (arguments : List String) : IO Files := do
  let directory ← IO.currentDir
  let current := Path.names directory.toString
  let files := Host.installed (Files.withDirectories current (above current))
  let files ← (above current).foldlM
    (fun files location => loadFile files (Path.join (pathOf location) Config.fileName)) files
  let files ← (arguments.filter Path.isAbsolute).foldlM loadFile files
  (← directory.readDir).toList.foldlM (loadEntry current) files

def store (before after : Files) : IO Unit := do
  for (location, _) in after.names.reverse do
    let node? := after.get? location
    if before.get? location ≠ node? then
      match node?.map Files.Node.kind with
      | some .directory => IO.FS.createDirAll (pathOf location)
      | some (.file content) =>
        let bytes := content.map fun octet => UInt8.ofNat octet.toNat
        IO.FS.writeBinFile (pathOf location) ⟨bytes.toArray⟩
      | _ => pure ()
  for (location, _) in before.names do
    if (after.get? location).isNone && (before.get? location).any Files.Node.isFile then
      IO.FS.removeFile (pathOf location)

def environment : IO (List (String × String)) := do
  let names := ["HOME", "PATH", Library.gson.pathVariable, Library.gson.urlVariable]
  names.filterMapM fun name => do return (← IO.getEnv name).map ((name, ·))

def finish (exit : CommandLine.Exit) : IO UInt32 := do
  IO.print exit.stdout
  IO.eprint exit.stderr
  return exit.code.toUInt32

end Modelsmith.Main

open Modelsmith in
def main (arguments : List String) : IO UInt32 := do
  match CommandLine.Request.read arguments with
  | .error stop => Main.finish stop.exit
  | .ok request =>
    let files ← Main.load arguments
    let host := { Host.standard with environment := ← Main.environment }
    let answer := request.carryOut host files
    Main.store files answer.files
    Main.finish answer.exit
