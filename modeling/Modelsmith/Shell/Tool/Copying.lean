import Modelsmith.Shell.Tool.Making

/-! Programs that copy files and give them other places. -/

set_option autoImplicit false

namespace Modelsmith.Shell.Tool

inductive Following where
  | always
  | operands
  | never
  deriving DecidableEq

structure Copying where
  recursive : Bool := false
  following : Following := .always
  force : Bool := false
  preserves : Bool := false
  keeps : Bool := false

def between (left : Octets) (words : String) (right : Octets) : Octets :=
  quoted left ++ words ++ quoted right

def clash? (source target : Octets) (node existing : Files.Node) : Option Octets :=
  if node.isDirectory && !existing.isDirectory then
    some ("cannot overwrite non-directory " ++ between target " with directory " source)
  else if !node.isDirectory && existing.isDirectory then
    some ("cannot overwrite directory " ++ quoted target ++ " with non-directory")
  else none

def writeCopy (how : Copying) (source target : Octets) (node : Files.Node) :
    Step (Option Octets) := do
  match ← content source with
  | .error reason =>
    return some ("cannot open " ++ quoted source ++ " for reading: " ++ reason)
  | .ok text =>
    let files ← Step.files
    let goal := Text.ofOctets target
    let isLink := (files.findLink goal).toOption.any fun (_, node) => node.isLink
    let standing := files.find goal
    if isLink && standing.toOption.isNone && !Path.endsInSlash goal then
      return some ("not writing through dangling symlink " ++ quoted target)
    let words (fault : FileFault) : Octets :=
      if fault = .noSpace then
        "error writing " ++ quoted target ++ ": " ++ fault.reason
      else
        let fault := if fault = .isDirectory then .notDirectory else fault
        "cannot create regular file " ++ quoted target ++ ": " ++ fault.reason
    let (isNew, files, result) : Bool × Files × Except FileFault Files :=
      match files.write goal text with
      | .error fault =>
        if how.force && fault = .denied && standing.toOption.isSome then
          let cleared := files.removeFile goal
          (true, cleared, cleared.write goal text)
        else (false, files, .error fault)
      | .ok written => (standing.toOption.isNone, files, .ok written)
    match result with
    | .error fault =>
      Step.setFiles files
      return some (words fault)
    | .ok files =>
      let mask := (← Step.process).mask
      let mode := if how.preserves then some node.mode
        else if isNew then some (Files.Mode.without (node.mode &&& 0o777) mask) else none
      let number := (files.find goal).toOption.bind fun (location, _) => files.number? location
      match number with
      | some number =>
        Step.setFiles (files.change number fun copy =>
          match copy.kind with
          | .file _ =>
            { copy with
              mode := mode.getD copy.mode
              time := if how.preserves then node.time else copy.time }
          | _ => copy)
      | none => Step.setFiles files
      return none

def copy (how : Copying) (operand : Bool) : (fuel : Nat) → (source target : Octets) → Step Bool
  | 0, _, _ => return false
  | fuel + 1, source, target => do
    let files ← Step.files
    let name := Text.ofOctets source
    let goal := Text.ofOctets target
    let fail (words : Octets) : Step Bool := do
      complain words
      return false
    let looksThrough := how.following = .always || (how.following = .operands && operand)
    match if looksThrough then files.find name else files.findLink name with
    | .error fault =>
      fail ("cannot stat " ++ quoted source ++ ": " ++ fault.reason)
    | .ok (location, node) =>
      if node.isDirectory && !how.recursive then
        return ← fail ("-r not specified; omitting directory " ++ quoted source)
      let standing : Except FileFault (Option (Files.Location × Files.Node)) :=
        match if node.isLink then files.findLink goal else files.find goal with
        | .error .notFound => .ok none
        | .error fault => .error fault
        | .ok found => .ok (some found)
      match standing with
      | .error fault =>
        fail ("cannot stat " ++ quoted target ++ ": " ++ fault.reason)
      | .ok standing =>
        match standing with
        | some (other, existing) =>
          if files.number? other = files.number? location then
            return ← fail (between source " and " target ++ " are the same file")
          if how.keeps then return true
          if let some words := clash? source target node existing then return ← fail words
          if node.isLink then Step.setFiles (files.removeFile goal)
        | none => pure ()
        let cannotCreate (kind : String) (fault : FileFault) : Step Bool :=
          fail (("cannot create " ++ kind ++ " ").toList ++ quoted target ++ ": " ++ fault.reason)
        let files ← Step.files
        match node.kind with
        | .directory =>
          if standing.isNone then
            match files.createDirectory goal with
            | .error fault => return ← cannotCreate "directory" fault
            | .ok files => Step.setFiles files
          let place := ((← Step.files).find goal).toOption.map Prod.fst
          match files.namesIn name with
          | .error fault =>
            fail ("cannot access " ++ quoted source ++ ": " ++ fault.reason)
          | .ok names =>
            let mut done := true
            for inner in names.mergeSort fun left right => decide (left ≤ right) do
              if place ≠ some (location ++ [inner]) then
                let inner := Text.octets inner
                if !(← copy how false fuel (inside source inner) (inside target inner)) then
                  done := false
            if place.any fun place => location.isPrefixOf place then
              complain ("cannot copy a directory, " ++ between source ", into itself, " target)
              done := false
            if standing.isNone then
              let process ← Step.process
              let mask := if how.preserves then 0 else process.mask
              Step.setFiles (setMode (← Step.files) goal (Files.Mode.without node.mode mask))
            return done
        | .link path =>
          match files.createLink path goal with
          | .error fault => cannotCreate "symbolic link" fault
          | .ok files =>
            Step.setFiles files
            return true
        | _ =>
          match ← writeCopy how source target node with
          | some words => fail words
          | none => return true

def toLast (found : Found) (act : Octets → Octets → Step Bool) : Step Nat := do
  match found.operands.dropLast, found.operands.getLast? with
  | _, none =>
    usage "missing file operand"
    return 1
  | [], some only =>
    usage ("missing destination file operand after " ++ quoted only)
    return 1
  | sources, some target =>
    let files ← Step.files
    let isDirectory := files.isDirectory (Text.ofOctets target)
    if 1 < sources.length && !isDirectory then
      let fault := match files.lookup (Text.ofOctets target) with
        | .ok _ => FileFault.notDirectory
        | .error fault => fault
      complainOf "target" target fault
      return 1
    let mut status := 0
    for source in sources do
      let path := if isDirectory then inside target (lastName source) else target
      if !(← act source path) then status := 1
    return status

def cp : Tool := fun arguments =>
  let spec : Options := ⟨"adfHLnpPRr", "", [("archive", 'a'), ("force", 'f'), ("recursive", 'r'),
    ("no-clobber", 'n'), ("dereference", 'L'), ("no-dereference", 'P'), ("preserve", 'p')]⟩
  withOptions spec 1 arguments fun found =>
    let recursive := found.has 'r' || found.has 'R' || found.has 'a'
    let chosen := (found.options.reverse.find? fun (letter, _) =>
      "adHLP".toList.contains letter).map Prod.fst
    let how : Copying := {
      recursive
      following := match chosen with
        | some 'L' => .always
        | some 'H' => .operands
        | some _ => .never
        | none => if recursive then .never else .always
      force := found.has 'f'
      preserves := found.has 'p' || found.has 'a'
      keeps := found.has 'n' }
    toLast found fun source target => do
      let how := if Path.endsInSlash (Text.ofOctets source) && how.following = .never then
        { how with following := .operands } else how
      copy how true Files.pathLimit source target

def moveTo (keeps : Bool) (source target : Octets) : Step Bool := do
  let files ← Step.files
  let name := Text.ofOctets source
  let goal := Text.ofOctets target
  let fail (words : Octets) : Step Bool := do
    complain words
    return false
  match files.findLink name, files.spot false name with
  | .error fault, _ | .ok _, .error fault =>
    fail ("cannot stat " ++ quoted source ++ ": " ++ fault.reason)
  | .ok (location, node), .ok origin =>
    let refuse (fault : FileFault) : Step Bool :=
      fail ("cannot move " ++ between source " to " target ++ ": " ++
        fault.reason)
    let same : Step Bool := fail (between source " and " target ++ " are the same file")
    match files.spot false goal with
    | .error .notFound =>
      if goal.isEmpty then
        fail ("cannot overwrite directory " ++ quoted target ++ " with non-directory")
      else refuse .notFound
    | .error fault =>
      fail ("cannot stat " ++ quoted target ++ ": " ++ fault.reason)
    | .ok spot =>
      let place := spot.location
      if place = location then return ← same
      match files.get? place with
      | some existing =>
        if node.isLink && (files.find name).toOption.map Prod.fst = some place then return ← same
        if files.number? place = files.number? location then return ← same
        if keeps then return true
        if let some words := clash? source target node existing then return ← fail words
      | none => pure ()
      match origin.last, spot.last with
      | .named _, .named _ =>
        if origin.slash && origin.location ≠ location then return ← refuse .notDirectory
        if spot.slash && !node.isDirectory then return ← refuse .notDirectory
        if node.isDirectory && location.isPrefixOf place then
          return ← fail ("cannot move " ++ quoted source ++
            " to a subdirectory of itself, " ++ quoted target)
        match files.requireWritable origin.base, files.requireWritable spot.base with
        | .error fault, _ | _, .error fault => refuse fault
        | .ok _, .ok _ =>
          if node.isDirectory && origin.base ≠ spot.base && !node.allows .write then
            return ← refuse .denied
          if !(files.namesAt place).isEmpty then
            return ← fail ("cannot overwrite " ++ quoted target ++ ": " ++
              FileFault.notEmpty.reason.toList)
          Step.setFiles (files.move location place)
          return true
      | _, _ => refuse .busy

def mv : Tool := optioned ⟨"fn", "", [("force", 'f'), ("no-clobber", 'n')]⟩ 1 fun found =>
  let decisive := (found.options.reverse.find? fun (letter, _) =>
    "fn".toList.contains letter).map Prod.fst
  toLast found (moveTo (decisive = some 'n'))

end Modelsmith.Shell.Tool
