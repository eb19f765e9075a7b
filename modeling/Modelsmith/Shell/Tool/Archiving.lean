import Modelsmith.Archive.Tape
import Modelsmith.Shell.Tool.Calendar
import Modelsmith.Shell.Tool.Making

/-! Archives of files. -/

set_option autoImplicit false

namespace Modelsmith.Shell.Tool

open Archive (TapeEntry TapeKind)

/-! Reading files. -/

def gatherMembers : (fuel : Nat) → Octets → Step (List TapeEntry × Bool)
  | 0, _ => return ([], false)
  | fuel + 1, path => do
    let files ← Step.files
    let name := Text.ofOctets path
    let fail (words : String) (reason : String) : Step (List TapeEntry × Bool) := do
      complain (shown path ++ (": Cannot " ++ words ++ ": " ++ reason).toList)
      return ([], false)
    match files.findLink name with
    | .error fault => fail "stat" fault.reason
    | .ok (_, node) =>
      let member (name : Octets) (kind : TapeKind) : TapeEntry :=
        { name, kind, mode := node.mode, time := node.time / 1000000 + startSecond }
      match node.kind with
      | .directory =>
        let slashed := if path.getLast? = some '/' then path else path ++ ['/']
        match files.namesIn name with
        | .error fault => fail "open" fault.reason
        | .ok names =>
          let mut members := [member slashed .directory]
          let mut whole := true
          for inner in names do
            let (later, all) ← gatherMembers fuel (slashed ++ Text.octets inner)
            members := members ++ later
            whole := whole && all
          return (members, whole)
      | .link target => return ([member path (.link (Text.octets target))], true)
      | .pipe _ | .device _ => return ([], true)
      | .file content =>
        if node.allows .read then return ([member path (.file content)], true)
        else fail "open" "Permission denied"

/-! Writing files. -/

def finishNode (member : TapeEntry) (path : String) : Step Unit := do
  let files ← Step.files
  let mode := member.mode - (member.mode &&& files.mask)
  match (files.findLink path).toOption.bind fun (location, _) => files.number? location with
  | some number =>
    Step.setFiles (files.change number fun node =>
      { node with mode, time := timeOf member.time })
  | none => return

def placeMember (member : TapeEntry) (name : Octets) : Step Bool := do
  let path := Text.ofOctets (if name.getLast? = some '/' then name.dropLast else name)
  let fail (verb : String) (fault : FileFault) : Step Bool := do
    complain (shown name ++ (": Cannot " ++ verb ++ ": ").toList ++ fault.reason)
    return false
  if let some parent := Path.parent? path then
    if parent ≠ "" then Step.setFiles ((← Step.files).createDirectories parent).2
  let files ← Step.files
  let there := (files.findLink path).toOption.map Prod.snd
  let occupied := there.any fun node => !node.isDirectory
  match member.kind with
  | .directory =>
    if there.any Files.Node.isDirectory then return true
    match files.createDirectory path with
    | .ok files =>
      Step.setFiles files
      finishNode member path
      return true
    | .error fault => fail "mkdir" fault
  | kind =>
    let files := if occupied then files.removeFile path else files
    match kind with
    | .file content =>
      match files.write path content with
      | .ok files =>
        Step.setFiles files
        finishNode member path
        return true
      | .error fault => fail "open" fault
    | .link target =>
      match files.createLink (Text.ofOctets target) path with
      | .ok files =>
        Step.setFiles files
        return true
      | .error fault =>
        complain (shown name ++ ": Cannot create symlink to " ++ cited target ++
          ": " ++ fault.reason)
        return false
    | .directory => return true

/-! The program. -/

def bundled (arguments : List Octets) : List Octets :=
  match arguments with
  | letters :: rest =>
    if letters.head?.any fun c => c ≠ '-' && c.isAlpha then
      let (options, rest) := letters.foldl (fun (options, rest) c =>
        if "fC".toList.contains c then
          match rest with
          | argument :: others => (options ++ [['-', c], argument], others)
          | [] => (options ++ [['-', c]], [])
        else (options ++ [['-', c]], rest)) (([] : List Octets), rest)
      options ++ rest
    else arguments
  | [] => []

def isMeant (operand name : Octets) : Bool :=
  let operand := (operand.reverse.dropWhile (· = '/')).reverse
  name = operand || (operand ++ ['/']).isPrefixOf name

def unrecoverable (path : Octets) (reason : String) : Step Nat := do
  complain (shown path ++ ": Cannot open: " ++ reason)
  complain "Error is not recoverable: exiting now"
  return 2

def endingStatus (failed : Bool) : Step Nat := do
  if failed then
    complain "Exiting with failure status due to previous errors"
    return 2
  return 0

def createArchive (path : Octets) (tell : Octets → Step Unit) (enter : Step Unit)
    (operands : List Octets) : Step Nat := do
  let start := (← Step.process).directory
  enter
  let mut members := []
  let mut whole := true
  for operand in operands do
    let (later, all) ← gatherMembers 200 operand
    members := members ++ later
    whole := whole && all
  for member in members do tell member.name
  Step.modifyProcess fun process => { process with directory := start }
  let octets := Archive.Tape.archive members
  if path = ['-'] then
    Step.print octets
    endingStatus !whole
  else
    match (← Step.files).write (Text.ofOctets path) octets with
    | .ok files =>
      Step.setFiles files
      endingStatus !whole
    | .error fault => unrecoverable path fault.reason

def visitMembers (visit : TapeEntry → Step Bool) (operands : List Octets)
    (members : List TapeEntry) : Step Nat := do
  let mut failed := false
  for member in members do
    if operands.isEmpty || operands.any (isMeant · member.name) then
      if !(← visit member) then failed := true
  for operand in operands do
    if !(members.any fun member => isMeant operand member.name) then
      complain (shown operand ++ ": Not found in archive")
      failed := true
  endingStatus failed

def tar : Tool := fun arguments => do
  let refuse (words : Octets) : Step Nat := do
    complain words
    Step.report "Try 'tar --help' or 'tar --usage' for more information."
    return 2
  let spec : Options := ⟨"ctxv", "fC", [("create", 'c'), ("list", 't'), ("extract", 'x'),
    ("get", 'x'), ("file", 'f'), ("directory", 'C'), ("verbose", 'v')]⟩
  match parse spec false (bundled arguments) with
  | .error words => refuse words
  | .ok found =>
    let path := (found.value? 'f').getD ['-']
    let operands := found.operands
    let tell (name : Octets) : Step Unit := do if found.has 'v' then Step.printLine name
    let enter : Step Unit := do
      if let some inner := found.value? 'C' then
        if let .ok directory := (← Step.files).directory (Text.ofOctets inner) then
          Step.modifyProcess fun process => { process with directory }
    if found.has 'c' then
      if operands.isEmpty then return ← refuse "Cowardly refusing to create an empty archive"
      createArchive path tell enter operands
    else if found.has 't' || found.has 'x' then
      match ← content path with
      | .error reason => unrecoverable path reason
      | .ok text =>
        match Archive.Tape.members? text with
        | none =>
          complain "This does not look like a tar archive"
          endingStatus true
        | some (members, _) =>
          enter
          let list (member : TapeEntry) : Step Bool := do
            Step.printLine member.name
            return true
          let extract (member : TapeEntry) : Step Bool := do
            tell member.name
            placeMember member (member.name.dropWhile (· = '/'))
          visitMembers (if found.has 't' then list else extract) operands members
    else refuse "You must specify one of the '-Acdtrux', '--delete' or '--test-label' options"

end Modelsmith.Shell.Tool
