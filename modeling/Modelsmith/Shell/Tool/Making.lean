import Modelsmith.Files.Mode
import Modelsmith.Shell.Tool.Basic

/-! Programs that make files, directories and links, and remove them. -/

set_option autoImplicit false

namespace Modelsmith.Shell.Tool

def complainOf (words : String) (path : Octets) (fault : FileFault) : Step Unit :=
  complain (words ++ ' ' :: quoted path ++ ": " ++ fault.reason)

def eachChange (paths : List Octets) (change : Files → String → Except FileFault Files)
    (words : String) : Step Nat := do
  let mut status := 0
  for path in paths do
    match change (← Step.files) (Text.ofOctets path) with
    | .ok files => Step.setFiles files
    | .error fault =>
      complainOf words path fault
      status := 1
  return status

def missingOperand : Step Nat := do
  usage "missing operand"
  return 1

def missingAfter (operand : Octets) : Step Nat := do
  usage ("missing operand after " ++ cited operand)
  return 1

def extraOperand (operand : Octets) : Step Nat := do
  usage ("extra operand " ++ cited operand)
  return 1

def lastName (path : Octets) : Octets :=
  let trimmed := (path.reverse.dropWhile (· = '/')).reverse
  (trimmed.reverse.takeWhile (· ≠ '/')).reverse

def inside (directory name : Octets) : Octets :=
  if directory.getLast? = some '/' then directory ++ name else directory ++ '/' :: name

/-! Directories. -/

def ancestors (path : Octets) : List Octets :=
  let lengths := (List.range path.length).filter fun index =>
    0 < index && path[index]? = some '/' && path[index - 1]? ≠ some '/' &&
      (path.drop index).any (· ≠ '/')
  lengths.map (fun length => path.take length) ++ [path]

def setMode (files : Files) (path : String) (mode : Nat) : Files :=
  match (files.find path).toOption.bind fun (location, _) => files.number? location with
  | some number => files.change number fun node => { node with mode }
  | none => files

def makeWithAncestors (path : Octets) : Step (Option (Octets × FileFault)) := do
  for step in ancestors path do
    let files ← Step.files
    let name := Text.ofOctets step
    if !files.isDirectory name then
      match files.createDirectory name with
      | .ok files => Step.setFiles files
      | .error fault =>
        let inTheWay := step.length < path.length && fault = .alreadyExists
        return some (step, if inTheWay then .notDirectory else fault)
  return none

def mkdir : Tool := optioned ⟨"p", "", [("parents", 'p')]⟩ 1 fun found => do
  if found.operands.isEmpty then return ← missingOperand
  if !found.has 'p' then
    return ← eachChange found.operands Files.createDirectory "cannot create directory"
  let mut status := 0
  for path in found.operands do
    if let some (path, fault) ← makeWithAncestors path then
      complainOf "cannot create directory" path fault
      status := 1
  return status

def rmdir : Tool := optioned ⟨"p", "", [("parents", 'p')]⟩ 1 fun found => do
  if found.operands.isEmpty then return ← missingOperand
  let mut status := 0
  for operand in found.operands do
    let mut going := true
    for path in if found.has 'p' then (ancestors operand).reverse else [operand] do
      if going then
        let files ← Step.files
        let name := Text.ofOctets path
        match files.removeEmpty name with
        | .ok files => Step.setFiles files
        | .error fault =>
          going := false
          let words := if path = operand then "failed to remove" else "failed to remove directory"
          if fault = .notDirectory && Path.endsInSlash name && files.isDirectory name then
            complain (words ++ ' ' :: quoted path ++ ": Symbolic link not followed")
          else complainOf words path fault
          status := 1
  return status

/-! Removing. -/

structure Removal where
  force : Bool
  recursive : Bool

def remove (how : Removal) : (fuel : Nat) → Octets → Step Bool
  | 0, _ => return false
  | fuel + 1, path => do
    let files ← Step.files
    let name := Text.ofOctets path
    let refuse (fault : FileFault) : Step Bool := do
      complainOf "cannot remove" path fault
      return false
    let finish (result : Except FileFault Files) : Step Bool := do
      match result with
      | .error fault => refuse fault
      | .ok files =>
        Step.setFiles files
        return true
    match files.findLink name with
    | .error fault =>
      if how.force && (fault = .notFound || fault = .notDirectory) then return true
      refuse fault
    | .ok (_, node) =>
      if !node.isDirectory then finish (files.unlink name)
      else if !how.recursive then refuse .isDirectory
      else
        match files.namesIn name with
        | .error fault => refuse fault
        | .ok names =>
          let mut gone := true
          for inner in names.mergeSort fun left right => decide (left ≤ right) do
            if !(← remove how fuel (inside path (Text.octets inner))) then gone := false
          if gone then finish ((← Step.files).removeEmpty name) else return false

def rm : Tool := optioned ⟨"frR", "", [("force", 'f'), ("recursive", 'r')]⟩ 1 fun found => do
  let how : Removal := ⟨found.has 'f', found.has 'r' || found.has 'R'⟩
  if found.operands.isEmpty then return ← if how.force then pure 0 else missingOperand
  let mut status := 0
  for path in found.operands do
    let last := lastName path
    let isThere := (← Step.files).isDirectory (Text.ofOctets path)
    if how.recursive && isThere && (last = ['.'] || last = ['.', '.']) then
      complain ("refusing to remove '.' or '..' directory: skipping " ++ quoted path)
      status := 1
    else if how.recursive && isThere && last.isEmpty then
      complain "it is dangerous to operate recursively on '/'"
      complain "use --no-preserve-root to override this failsafe"
      status := 1
    else if !(← remove how Files.pathLimit path) then status := 1
  return status

/-! Files. -/

def touched (creates : Bool) (time : Option Int) (files : Files) (path : String) :
    Except (String × FileFault) Files :=
  match files.find path with
  | .ok (location, node) =>
    if !node.owned && !node.allows .write then .error ("cannot touch", .denied)
    else
      match files.number? location, time with
      | some number, some time => .ok (files.change number fun node => { node with time })
      | _, _ => .ok files
  | .error fault =>
    if !creates && fault = .notFound then .ok files
    else
      match files.openToWrite path with
      | .ok (number, _, files) =>
        .ok (files.change number fun node => { node with time := time.getD node.time })
      | .error .isDirectory => .error ("setting times of", fault)
      | .error fault => .error ("cannot touch", fault)

def touch : Tool := optioned ⟨"acfhm", "", [("no-create", 'c')]⟩ 1 fun found => do
  if found.operands.isEmpty then
    usage "missing file operand"
    return 1
  let onlyAccess := found.has 'a' && !found.has 'm'
  let mut status := 0
  for path in found.operands.filter (· ≠ ['-']) do
    let files ← Step.files
    match touched (!found.has 'c') (if onlyAccess then none else some files.now) files
        (Text.ofOctets path) with
    | .ok files => Step.setFiles files
    | .error (words, fault) =>
      complainOf words path fault
      status := 1
  return status

structure Linking where
  symbolic : Bool
  force : Bool

def linkTo (how : Linking) (source path : Octets) : Step Bool := do
  let files ← Step.files
  let origin := Text.ofOctets source
  let goal := Text.ofOctets path
  let found := files.findLink origin
  let fail (words : Octets) : Step Bool := do
    complain words
    return false
  let kind := if how.symbolic then "symbolic" else "hard"
  match how.symbolic, found with
  | false, .error fault =>
    fail ("failed to access " ++ quoted source ++ ": " ++ fault.reason)
  | symbolic, found =>
    if !symbolic && found.toOption.any fun (_, node) => node.isDirectory then
      return ← fail (shown source ++ ": hard link not allowed for directory")
    let standing := files.findLink goal
    let isSame := match found, standing with
      | .ok (first, _), .ok (second, _) =>
        first = second || (!symbolic && files.number? first = files.number? second)
      | _, _ => false
    let isDirectory := standing.toOption.any fun (_, node) => node.isDirectory
    if how.force && isDirectory then
      return ← fail (shown path ++ ": cannot overwrite directory")
    if how.force && isSame then
      if symbolic || found.toOption.map Prod.fst = standing.toOption.map Prod.fst then
        return ← fail (quoted source ++ " and " ++ quoted path ++
          " are the same file")
      return true
    let files := if how.force && standing.toOption.isSome then files.removeFile goal else files
    let made := match found, symbolic with
      | .ok (location, _), false => files.addName location goal
      | _, _ => files.createLink origin goal
    match made with
    | .ok files =>
      Step.setFiles files
      return true
    | .error fault =>
      let other := if symbolic then
          if source.isEmpty then " -> " ++ quoted source else []
        else if fault = .alreadyExists then [] else " => " ++ quoted source
      fail (("failed to create " ++ kind ++ " link ").toList ++ quoted path ++ other ++
        ": " ++ fault.reason)

def ln : Tool :=
  let spec : Options := ⟨"fns", "", [("symbolic", 's'), ("force", 'f'), ("no-dereference", 'n')]⟩
  optioned spec 1 fun found => do
    let how : Linking := ⟨found.has 's', found.has 'f'⟩
    let files ← Step.files
    let isTarget (path : Octets) : Bool :=
      let name := Text.ofOctets path
      let isLink := (files.findLink name).toOption.any fun (_, node) => node.isLink
      files.isDirectory name && !(found.has 'n' && isLink)
    let into (directory : Octets) (sources : List Octets) : Step Nat := do
      let mut status := 0
      for source in sources do
        if !(← linkTo how source (inside directory (lastName source))) then status := 1
      return status
    match found.operands with
    | [] =>
      usage "missing file operand"
      return 1
    | [source] => into ['.'] [source]
    | [source, target] =>
      if isTarget target then into target [source]
      else return if ← linkTo how source target then 0 else 1
    | operands =>
      let target := operands.getLast?.getD []
      if isTarget target then into target operands.dropLast
      else
        let fault := match files.lookup (Text.ofOctets target) with
          | .ok _ => FileFault.notDirectory
          | .error fault => fault
        complainOf "target" target fault
        return 1

/-! Modes. -/

structure ModeChanging where
  changes : List Files.Mode.Change
  recursive : Bool
  quiet : Bool

def changeMode (how : ModeChanging) (operand : Bool) : (fuel : Nat) → Octets → Step Bool
  | 0, _ => return true
  | fuel + 1, path => do
    let files ← Step.files
    let name := Text.ofOctets path
    let mask := (← Step.process).mask
    match files.findLink name, files.find name with
    | .error fault, _ | .ok _, .error fault =>
      let isLink := (files.findLink name).toOption.isSome
      if isLink && !operand then return true
      if !how.quiet then
        if isLink && fault = .notFound then
          complain ("cannot operate on dangling symlink " ++ quoted path)
        else complainOf "cannot access" path fault
      return false
    | .ok (_, linked), .ok (location, node) =>
      if linked.isLink && !operand then return true
      let mode := Files.Mode.apply how.changes node.isDirectory mask node.mode
      let mut done := true
      match node.owned, files.number? location with
      | true, some number =>
        Step.setFiles (files.change number fun node => { node with mode })
      | _, _ =>
        if !how.quiet then complainOf "changing permissions of" path .notPermitted
        done := false
      if how.recursive && node.isDirectory then
        match (← Step.files).namesIn name with
        | .error fault =>
          if !how.quiet then complainOf "cannot read directory" path fault
          done := false
        | .ok names =>
          for inner in names.mergeSort fun left right => decide (left ≤ right) do
            if !(← changeMode how false fuel (inside path (Text.octets inner))) then done := false
      return done

def isRemovingMode (text : Octets) : Bool :=
  match text with
  | '-' :: c :: _ => "rwxXstugoa,+=01234567".toList.contains c
  | _ => false

def chmod : Tool := fun arguments => do
  let spec : Options := ⟨"Rf", "", [("recursive", 'R'), ("silent", 'f'), ("quiet", 'f')]⟩
  let options := arguments.takeWhile (· ≠ "--".toList)
  let removing := options.filter isRemovingMode
  let others := options.filter (!isRemovingMode ·) ++ arguments.drop options.length
  withOptions spec 1 others fun found => do
    let given := Expansion.joinWith [','] removing
    let (mode, paths) := if removing.isEmpty then (found.operands.headD [], found.operands.drop 1)
      else (given, found.operands)
    match removing, found.operands with
    | [], [] => return ← missingOperand
    | [], [mode] => return ← missingAfter mode
    | _, [] => return ← missingAfter given
    | _, _ => pure ()
    match Files.Mode.read? mode with
    | none =>
      usage ("invalid mode: " ++ cited mode)
      return 1
    | some changes =>
      let how : ModeChanging := ⟨changes, found.has 'R', found.has 'f'⟩
      let mut status := 0
      for path in paths do if !(← changeMode how true Files.pathLimit path) then status := 1
      return status

end Modelsmith.Shell.Tool
