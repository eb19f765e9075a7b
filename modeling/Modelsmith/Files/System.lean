import Modelsmith.Files.Fault
import Modelsmith.Files.Node
import Modelsmith.Files.Path

/-! Files and directories as a value, and the operations a run needs on them.

Names lead to nodes by number, so one node can have several names, and stays when it has lost the
last one. What a location holds is told by `Files.get?`.
-/

set_option autoImplicit false

namespace Modelsmith

namespace Files

/-- The names that lead from the root to a node, no link among them. -/
abbrev Location := List String

inductive Last where
  | root
  | here
  | above
  | named (name : String)
  deriving DecidableEq

/-- Where a path leads: a directory that is there, and a last step from it. -/
structure Spot where
  base : Location
  last : Last
  slash : Bool

def Spot.location (spot : Spot) : Location :=
  match spot.last with
  | .root => []
  | .here => spot.base
  | .above => spot.base.dropLast
  | .named name => spot.base ++ [name]

end Files

structure Files where
  /-- The numbers of the nodes below the root. -/
  names : List (Files.Location × Nat)
  nodes : Array Files.Node
  current : Files.Location
  mask : Nat := 0o022
  now : Int := 0

namespace Files

/-! Nodes. -/

def root : Node where
  kind := .directory
  mode := 0o755
  owned := false

def number? (files : Files) (location : Location) : Option Nat := files.names.lookup location

def get? (files : Files) (location : Location) : Option Node :=
  if location = [] then some root
  else (files.number? location).bind fun number => files.nodes[number]?

def attach (files : Files) (location : Location) (number : Nat) : Files :=
  { files with
    names := (location, number) :: files.names.filter fun (other, _) => other ≠ location }

def put (files : Files) (location : Location) (node : Node) : Files :=
  { files with nodes := files.nodes.push node }.attach location files.nodes.size

def create (files : Files) (location : Location) (kind : Kind) (mode : Nat) : Files :=
  files.put location {
    kind
    mode := mode &&& (0o7777 - files.mask % 0o1000)
    time := files.now }

def change (files : Files) (number : Nat) (update : Node → Node) : Files :=
  { files with nodes := files.nodes.modify number update }

def setContent (files : Files) (number : Nat) (kind : Kind) : Files :=
  files.change number fun node => { node with kind, time := files.now }

def drop (files : Files) (location : Location) : Files :=
  { files with names := files.names.filter fun (other, _) => !location.isPrefixOf other }

def move (files : Files) (source target : Location) : Files :=
  let moved := files.names.filterMap fun (other, number) =>
    if source.isPrefixOf other then some (target ++ other.drop source.length, number) else none
  let left := (files.drop source).drop target
  { left with names := moved ++ left.names }

def namesAt (files : Files) (location : Location) : List String :=
  files.names.filterMap fun (other, _) =>
    match other.getLast? with
    | some name => if other.dropLast = location then some name else none
    | none => none

/-! Paths. -/

def nameLimit : Nat := 255

def pathLimit : Nat := 4096

def linkLimit : Nat := 40

def canSearch (files : Files) (location : Location) : Bool :=
  (files.get? location).any (·.allows .search)

def linkStart (location : Location) (target : String) : Location :=
  if Path.isAbsolute target then [] else location

/-- Follows names from a directory up to the last one, which need not exist. At a link, `jump`
goes on with what stands in its place; at the end only if `follow`. -/
def followWith (files : Files) (jump : (slash : Bool) → Location → List String →
    Except FileFault Spot) (follow slash : Bool) :
    Location → List String → Except FileFault Spot
  | location, [] => .ok ⟨location, .root, slash⟩
  | location, [name] =>
    if !files.canSearch location then .error .denied
    else if name = "." then .ok ⟨location, .here, slash⟩
    else if name = ".." then .ok ⟨location, .above, slash⟩
    else if nameLimit < name.utf8ByteSize then .error .nameTooLong
    else
      match (files.get? (location ++ [name])).map Node.kind with
      | some (.link target) =>
        if follow then
          jump (slash || Path.endsInSlash target) (linkStart location target) (Path.names target)
        else .ok ⟨location, .named name, slash⟩
      | _ => .ok ⟨location, .named name, slash⟩
  | location, name :: next :: rest =>
    if !files.canSearch location then .error .denied
    else if name = "." then files.followWith jump follow slash location (next :: rest)
    else if name = ".." then files.followWith jump follow slash location.dropLast (next :: rest)
    else if nameLimit < name.utf8ByteSize then .error .nameTooLong
    else
      match (files.get? (location ++ [name])).map Node.kind with
      | some .directory => files.followWith jump follow slash (location ++ [name]) (next :: rest)
      | some (.link target) =>
        jump slash (linkStart location target) (Path.names target ++ next :: rest)
      | some _ => .error .notDirectory
      | none => .error .notFound

def follow (files : Files) (last : Bool) :
    (links : Nat) → (slash : Bool) → Location → List String → Except FileFault Spot
  | 0, slash => files.followWith (fun _ _ _ => .error .linkLoop) last slash
  | links + 1, slash => files.followWith (files.follow last links) last slash

def start (files : Files) (path : String) : Location :=
  if Path.isAbsolute path then [] else files.current

/-- Where a path leads; a link at its end is followed only if `last`. -/
def spot (files : Files) (last : Bool) (path : String) : Except FileFault Spot := do
  if path.toList.contains '\x00' then throw .nulInPath
  if path = "" then throw .notFound
  if pathLimit ≤ path.utf8ByteSize then throw .nameTooLong
  files.follow last linkLimit (Path.endsInSlash path) (files.start path) (Path.names path)

def atSpot (files : Files) (spot : Spot) : Except FileFault (Location × Node) :=
  match files.get? spot.location with
  | none => .error .notFound
  | some node =>
    if spot.slash && !node.isDirectory then .error .notDirectory
    else .ok (spot.location, node)

def find (files : Files) (path : String) : Except FileFault (Location × Node) := do
  files.atSpot (← files.spot true path)

/-- What is at a path, be it a link. A path that ends in a slash goes through a link. -/
def findLink (files : Files) (path : String) : Except FileFault (Location × Node) := do
  files.atSpot (← files.spot (Path.endsInSlash path) path)

def lookup (files : Files) (path : String) : Except FileFault Node := (files.find path).map Prod.snd

def «exists» (files : Files) (path : String) : Bool := (files.lookup path).toOption.isSome

def isFile (files : Files) (path : String) : Bool := (files.lookup path).toOption.any Node.isFile

def isDirectory (files : Files) (path : String) : Bool :=
  (files.lookup path).toOption.any Node.isDirectory

def directory (files : Files) (path : String) : Except FileFault Location := do
  let (location, node) ← files.find path
  if !node.isDirectory then throw .notDirectory
  if node.allows .search then return location else throw .denied

/-! Reading and writing. -/

def read (files : Files) (path : String) : Except FileFault Octets := do
  let node ← files.lookup path
  if !node.allows .read then throw .denied
  match node.kind with
  | .file content => return content
  | .directory => throw .isDirectory
  | .device .terminal => throw .noDevice
  | .device _ => return []
  | .pipe content => return content
  | .link _ => throw .linkLoop

def readText (files : Files) (path : String) : Except FileFault String := do
  match Text.Utf8.decode? (← files.read path) with
  | some text => return String.ofList text
  | none => throw .notText

def requireWritable (files : Files) (location : Location) : Except FileFault Unit :=
  match files.get? location with
  | none => .error .notFound
  | some node =>
    if !node.isDirectory then .error .notDirectory
    else if node.allows .write && node.allows .search then .ok ()
    else .error .denied

/-- The node at a path that is to be written, by its number. A file is created where there is
nothing. -/
def openToWrite (files : Files) (path : String) : Except FileFault (Nat × Node × Files) := do
  let spot ← files.spot true path
  match spot.last with
  | .named _ =>
    if spot.slash then throw .isDirectory
    match files.number? spot.location, files.get? spot.location with
    | some number, some node =>
      if node.isDirectory then throw .isDirectory
      if !node.allows .write then throw .denied
      if node.kind = .device .terminal then throw .noDevice
      return (number, node, files)
    | _, _ =>
      files.requireWritable spot.base
      let created := files.create spot.location (.file []) 0o666
      match created.number? spot.location, created.get? spot.location with
      | some number, some node => return (number, node, created)
      | _, _ => throw .notFound
  | _ => throw .isDirectory

def write (files : Files) (path : String) (content : Octets) : Except FileFault Files := do
  let (number, node, files) ← files.openToWrite path
  match node.kind with
  | .file _ => return files.setContent number (.file content)
  | .pipe before => return files.setContent number (.pipe (before ++ content))
  | .device .full => if content.isEmpty then return files else throw .noSpace
  | _ => return files

def writeText (files : Files) (path text : String) : Except FileFault Files :=
  files.write path (Text.octets text)

/-! Making. -/

def newSpot (files : Files) (path : String) : Except FileFault Location := do
  let spot ← files.spot false path
  match spot.last, files.get? spot.location with
  | .named _, none =>
    files.requireWritable spot.base
    return spot.location
  | _, _ => throw .alreadyExists

def createDirectory (files : Files) (path : String) : Except FileFault Files := do
  return files.create (← files.newSpot path) .directory 0o777

def ensureDirectory (files : Files) (path : String) : Except FileFault Files :=
  match files.createDirectory path with
  | .ok files => .ok files
  | .error fault => if files.isDirectory path then .ok files else .error fault

/-- Creates a directory and those above it; those that were created stay when one cannot be. A
directory is tried before those above it, and again after them. -/
def createUpTo (files : Files) : (fuel : Nat) → String → Except FileFault Unit × Files
  | 0, _ => (.error .notFound, files)
  | fuel + 1, path =>
    if path = "" then (.ok (), files)
    else
      match files.ensureDirectory path with
      | .ok files => (.ok (), files)
      | .error .notFound =>
        match Path.parent? path with
        | none => (.error .notFound, files)
        | some parent =>
          match files.createUpTo fuel parent with
          | (.error fault, files) => (.error fault, files)
          | (.ok _, files) =>
            match files.ensureDirectory path with
            | .ok files => (.ok (), files)
            | .error fault => (.error fault, files)
      | .error fault => (.error fault, files)

def createDirectories (files : Files) (path : String) : Except FileFault Unit × Files :=
  files.createUpTo (path.length + 1) path

/-- Creates a file, or for a path that ends in a slash a directory, and the directories above it.
What cannot be created is left out. -/
def place (files : Files) (path content : String) : Files :=
  if Path.endsInSlash path then (files.createDirectories path).2
  else
    let above := match Path.parent? path with
      | some parent => (files.createDirectories parent).2
      | none => files
    (above.writeText path content).toOption.getD above

def createLink (files : Files) (target path : String) : Except FileFault Files := do
  if target = "" then throw .notFound
  let location ← files.newSpot path
  if Path.endsInSlash path then throw .notFound
  return files.put location { kind := .link target, mode := 0o777, time := files.now }

def addName (files : Files) (source : Location) (path : String) : Except FileFault Files := do
  let location ← files.newSpot path
  if Path.endsInSlash path then throw .notFound
  match files.number? source, files.get? source with
  | some number, some node =>
    if node.isDirectory || !node.owned then throw .notPermitted
    return files.attach location number
  | _, _ => throw .notFound

/-! Removing. -/

def unlink (files : Files) (path : String) : Except FileFault Files := do
  let spot ← files.spot false path
  match spot.last, files.get? spot.location with
  | .named _, none => throw .notFound
  | .named _, some node =>
    if spot.slash && !node.isDirectory then throw .notDirectory
    files.requireWritable spot.base
    if node.isDirectory then throw .isDirectory
    return files.drop spot.location
  | _, _ => throw .isDirectory

def removeFile (files : Files) (path : String) : Files := (files.unlink path).toOption.getD files

/-- Removes an empty directory. It cannot be named by dots. -/
def removeEmpty (files : Files) (path : String) : Except FileFault Files := do
  let spot ← files.spot false path
  match spot.last with
  | .root => throw .busy
  | .here => throw .invalid
  | .above => throw .notEmpty
  | .named _ =>
    match files.get? spot.location with
    | none => throw .notFound
    | some node =>
      files.requireWritable spot.base
      if !node.isDirectory then throw .notDirectory
      if (files.namesAt spot.location).isEmpty then return files.drop spot.location
      else throw .notEmpty

/-- Without what a directory holds, as far as it can be removed. Directories are nested at most as
deep as there are names. -/
def emptied (files : Files) : (fuel : Nat) → Location → Files
  | 0, _ => files
  | fuel + 1, location =>
    match files.get? location with
    | none => files
    | some node =>
      if !(node.allows .read && node.allows .write && node.allows .search) then files
      else
        (files.namesAt location).foldl
          (fun files name =>
            let inner := location ++ [name]
            if (files.get? inner).any Node.isDirectory then
              let files := files.emptied fuel inner
              if (files.namesAt inner).isEmpty then files.drop inner else files
            else files.drop inner)
          files

/-- Without the directory at a path and all it holds, if there is one. It is emptied first; where
the path then leads nowhere, or ends in dots, it stays. Of a link only the link goes. -/
def removeDirectory (files : Files) (path : String) : Files :=
  match files.findLink path with
  | .error _ => files
  | .ok (location, node) =>
    if node.isLink then files.removeFile path
    else if node.isDirectory then
      let emptied := files.emptied (files.names.length + 1) location
      (emptied.removeEmpty path).toOption.getD emptied
    else files

/-! Listing. -/

def namesIn (files : Files) (path : String) : Except FileFault (List String) := do
  let (location, node) ← files.find path
  if !node.isDirectory then throw .notDirectory
  if !node.allows .read then throw .denied
  return files.namesAt location

def names? (files : Files) (path : String) : Option (List String) := (files.namesIn path).toOption

/-- Everything below a path, by its path; directories end in a slash. Links are followed, so the
same may come more than once. -/
def pathsBelow (files : Files) : (fuel : Nat) → (path : String) → List String
  | 0, _ => []
  | fuel + 1, path =>
    ((files.names? (if path = "" then "." else path)).getD []).flatMap fun name =>
      let inner := Path.join path name
      if files.isDirectory inner then (inner ++ "/") :: files.pathsBelow fuel inner else [inner]

def listing (files : Files) : List String :=
  (files.pathsBelow (files.names.length + linkLimit + 1) "").mergeSort fun left right =>
    decide (left ≤ right)

def withDirectories (current : Location) (directories : List Location) : Files :=
  directories.foldl (fun files location => files.create location .directory 0o777)
    { names := [], nodes := #[], current }

end Files

end Modelsmith
