import Modelsmith.Shell.Expansion

/-! Opening files, and the redirections of commands. -/

set_option autoImplicit false

namespace Modelsmith.Shell.Redirecting

def descriptor? (spot : Files.Spot) : Option Nat :=
  match spot.base, spot.last with
  | ["proc", "self", "fd"], .named name =>
    let digits := name.toList
    if digits.all Char.isDigit then some (Expansion.number digits) else none
  | _, _ => none

def openNode (number : Nat) (node : Files.Node) (opening : Opening) :
    Step (Except FileFault Nat) := do
  let reads := opening = .reading || opening = .both
  let fresh (target : Stream.Target) : Step (Except FileFault Nat) := do
    return .ok (← Step.addStream ⟨target, reads, opening ≠ .reading⟩)
  match node.kind with
  | .directory => fresh .directory
  | .link _ => return .error .linkLoop
  | .device .null => fresh .nowhere
  | .device .zero => fresh .zeros
  | .device .full => fresh .full
  | .device _ => return .error .noDevice
  | .pipe _ => fresh (.channel number)
  | .file _ =>
    if opening = .writing || opening = .overwriting then
      Step.setFiles ((← Step.files).setContent number (.file []))
    fresh (.file number 0 (opening = .appending))

def reopen (descriptor : Nat) (opening : Opening) : Step (Except FileFault Nat) := do
  match ← Step.stream? descriptor with
  | none => return .error .notFound
  | some (index, stream) =>
    match stream.target with
    | .file number _ _ =>
      match (← Step.files).nodes[number]? with
      | some node => openNode number node opening
      | none => return .error .notFound
    | _ => return .ok index

def openFile (path : Octets) (opening : Opening) : Step (Except FileFault Nat) := do
  let files ← Step.files
  let name := Text.ofOctets path
  match files.spot true name with
  | .error fault => return .error fault
  | .ok spot =>
    let keeps := opening = .writing && (← Step.process).switches.keepFiles
    if keeps && !(files.find name).toOption.isSome && (files.findLink name).toOption.isSome then
      return .error .alreadyExists
    match descriptor? spot, files.atSpot spot with
    | some descriptor, _ => reopen descriptor opening
    | none, .ok (location, node) =>
      if keeps && node.isFile then return .error .alreadyExists
      if opening ≠ .reading && node.isDirectory then return .error .isDirectory
      if opening ≠ .reading && !node.allows .write then return .error .denied
      if (opening = .reading || opening = .both) && !node.allows .read then return .error .denied
      openNode ((files.number? location).getD files.nodes.size) node opening
    | none, .error fault =>
      if opening = .reading then return .error fault
      match files.openToWrite name with
      | .error fault => return .error fault
      | .ok (number, node, files) =>
        Step.setFiles files
        openNode number node opening

inductive Prepared where
  | file (descriptor : Nat) (opening : Opening) (path : Octets)
  | duplicate (descriptor : Nat) (source : Option Nat)
  | document (descriptor : Nat) (word : Word)

def prepare (substitute : Expansion.Substitute) : Redirection → Step Prepared
  | .file descriptor opening target => do
    return .file descriptor opening (← Expansion.wordText substitute target)
  | .duplicate descriptor target => do
    match ← Expansion.wordText substitute target with
    | ['-'] => return .duplicate descriptor none
    | [c] =>
      if c.isDigit then return .duplicate descriptor (some (c.toNat - '0'.toNat))
      else Step.refuse "Syntax error: Bad fd number"
    | _ => Step.refuse "Syntax error: Bad fd number"
  | .document descriptor index => do
    return .document descriptor ((← Step.process).documents[index]?.getD [])

def Prepared.waits (files : Files) : Prepared → Bool
  | .file _ .reading path => (files.lookup (Text.ofOctets path)).toOption.any Files.Node.isPipe
  | _ => false

def reason (opening : Opening) : FileFault → String
  | .notFound | .notDirectory =>
    if opening = .reading then "No such file" else "Directory nonexistent"
  | fault => fault.reason

def apply (substitute : Expansion.Substitute) : Prepared → Step Unit
  | .file descriptor opening path => do
    match ← openFile path opening with
    | .ok index => Step.setDescriptor descriptor (some index)
    | .error fault =>
      let verb := if opening = .reading then "cannot open " else "cannot create "
      Step.refuse (verb ++ path ++ ": " ++ (reason opening fault).toList)
  | .duplicate descriptor none => Step.setDescriptor descriptor none
  | .duplicate descriptor (some source) => do
    match (← Step.process).descriptors.lookup source with
    | some index => Step.setDescriptor descriptor (some index)
    | none => Step.refuse (toString source ++ ": Bad file descriptor").toList
  | .document descriptor word => do
    let text ← Expansion.documentText substitute word
    let index ← Step.addStream ⟨.memory text [] text.length .pipe, true, false⟩
    Step.setDescriptor descriptor (some index)

def applyAll (substitute : Expansion.Substitute) (targets : List Prepared) : Step Bool :=
  tryCatch
    (do
      targets.forM (apply substitute)
      return true)
    fun stop => if stop = .fault then return false else throw stop

end Modelsmith.Shell.Redirecting
