import Modelsmith.Shell.Tool.Making

/-! Programs that pass on what files hold. -/

set_option autoImplicit false

namespace Modelsmith.Shell.Tool

def numbered (skipBlank : Bool) (number : Nat) : List Octets → List Octets × Nat
  | [] => ([], number)
  | line :: rest =>
    if skipBlank && line = ['\n'] then
      let (others, last) := numbered skipBlank number rest
      (line :: others, last)
    else
      let digits := natText number
      let (others, last) := numbered skipBlank (number + 1) rest
      ((List.replicate (6 - digits.length) ' ' ++ digits ++ '\t' :: line) :: others, last)

def isOutput (path : Octets) : Step Bool := do
  match ← Step.stream? 1 with
  | some (_, ⟨.file number _ _, _, _⟩) =>
    let files ← Step.files
    let length := ((files.nodes[number]?.bind Files.Node.content?).getD []).length
    if path = ['-'] then
      match ← Step.stream? 0 with
      | some (_, ⟨.file other offset _, _, _⟩) => return other = number && offset < length
      | _ => return false
    else
      match files.find (Text.ofOctets path) with
      | .ok (location, _) => return files.number? location = some number && 0 < length
      | .error _ => return false
  | _ => return false

def cat : Tool := optioned ⟨"bnu", "", [("number-nonblank", 'b'), ("number", 'n')]⟩ 1 fun found => do
  if !found.has 'b' && !found.has 'n' then
    let mut status := 0
    for path in if found.operands.isEmpty then [['-']] else found.operands do
      if ← isOutput path then
        complain (shown path ++ ": input file is output file")
        status := 1
      else
        match ← flow false path Step.print with
        | .ok _ => pure ()
        | .error reason =>
          complain (shown path ++ ": " ++ reason)
          status := 1
    if found.operands.isEmpty || found.operands.contains ['-'] then
      if (← Step.stream? 0).isNone then
        complain "closing standard input: Bad file descriptor"
        status := 1
    return status
  else
    let mut number := 1
    let mut status := 0
    for path in if found.operands.isEmpty then [['-']] else found.operands do
      match ← contentNow true path with
      | .error reason =>
        complain (shown path ++ ": " ++ reason)
        status := 1
      | .ok (text, isCut) =>
        let (parts, next) := numbered (found.has 'b') number (lines text)
        number := next
        Step.print parts.flatten
        if isCut then throw .starved
    return status

def tee : Tool := optioned
    ⟨"aip", "", [("append", 'a'), ("ignore-interrupts", 'i')]⟩ 1 fun found => do
  let text ← match ← Step.readSome 0 with
    | .ok text => pure text
    | .error _ => pure []
  let mut status := 0
  let before := (← Step.process).descriptors
  let mut targets : List Nat := []
  for path in found.operands do
    match ← Redirecting.openFile path (if found.has 'a' then .appending else .overwriting) with
    | .ok index => targets := index :: targets
    | .error fault =>
      complain (shown path ++ ": " ++ fault.reason)
      status := 1
  if !text.isEmpty then Step.print text
  for index in targets.reverse do
    Step.setDescriptor 1000 (some index)
    let _ ← Step.write 1000 text
  Step.modifyProcess fun process => { process with descriptors := before }
  Step.reachEnd 0
  return status

/-! Sizes. -/

def unit? (text : Octets) : Option Nat :=
  match text with
  | [] => some 1
  | ['c'] => some 1
  | ['w'] => some 2
  | ['b'] => some 512
  | c :: rest =>
    let power := ("KMGTPEZY".toList.findIdx? (· = c)).map (· + 1)
    let power := if c = 'k' then some 1 else power
    match power, rest with
    | some power, [] | some power, ['i', 'B'] => some (1024 ^ power)
    | some power, ['B'] => some (1000 ^ power)
    | _, _ => none

def size? (text : Octets) : Option Nat := do
  let digits := text.takeWhile Char.isDigit
  return (← natural? digits) * (← unit? (text.drop digits.length))

def ofLength (length : Nat) (content : Octets) : Octets :=
  content.take length ++ List.replicate (length - content.length) '\x00'

def truncate : Tool := optioned ⟨"c", "s", [("no-create", 'c'), ("size", 's')]⟩ 1 fun found => do
  let given := found.value? 's'
  let sign := (given.bind List.head?).filter fun c => c = '+' || c = '-'
  let digits := (given.getD []).drop (if sign.isSome then 1 else 0)
  if given.isNone then
    usage "you must specify either '--size' or '--reference'"
    return 1
  match size? digits with
  | none =>
    complain ("Invalid number: " ++ cited digits)
    return 1
  | some value =>
    if found.operands.isEmpty then
      usage "missing file operand"
      return 1
    let mut status := 0
    for path in found.operands do
      let files ← Step.files
      let name := Text.ofOctets path
      if !(found.has 'c' && !files.exists name) then
        match files.openToWrite name with
        | .ok (number, ⟨.file content, _, _, _⟩, files) =>
          let length := match sign with
            | some '+' => content.length + value
            | some _ => content.length - value
            | none => value
          Step.setFiles (files.setContent number (.file (ofLength length content)))
        | .ok (_, ⟨.pipe _, _, _, _⟩, _) =>
          complain ("cannot open " ++ quoted path ++ " for writing: " ++
            FileFault.noDevice.reason.toList)
          status := 1
        | .ok _ =>
          complain ("failed to truncate " ++ quoted path ++ " at 0 bytes: " ++
            FileFault.invalid.reason.toList)
          status := 1
        | .error fault =>
          complain ("cannot open " ++ quoted path ++ " for writing: " ++
            fault.reason)
          status := 1
    return status

/-! Blocks. -/

structure Blocks where
  input : Option Octets := none
  output : Option Octets := none
  inputSize : Nat := 512
  outputSize : Nat := 512
  direct : Bool := false
  count : Option Nat := none
  skip : Nat := 0
  seek : Nat := 0
  conversions : List String := []
  status : String := ""

def product? (text : Octets) : Option Nat :=
  (Expansion.splitOnChar 'x' text).foldl
    (fun total part => do return (← total) * (← size? part)) (some 1)

def conversionNames : List String :=
  ["ascii", "ebcdic", "ibm", "block", "unblock", "lcase", "ucase", "sparse", "swab", "sync",
    "excl", "nocreat", "notrunc", "noerror", "fdatasync", "fsync"]

def Blocks.take (blocks : Blocks) (operand : Octets) : Except Octets Blocks :=
  let key := String.ofList (operand.takeWhile (· ≠ '='))
  let value := operand.drop (key.length + 1)
  let words := (Expansion.splitOnChar ',' value).map String.ofList
  let number (least : Nat) (use : Nat → Blocks) : Except Octets Blocks :=
    match product? value with
    | some count =>
      if least ≤ count then .ok (use count) else .error ("invalid number: " ++ cited value)
    | none => .error ("invalid number: " ++ cited value)
  if !operand.contains '=' then .error ("unrecognized operand " ++ cited operand)
  else
    match key with
    | "if" => .ok { blocks with input := some value }
    | "of" => .ok { blocks with output := some value }
    | "bs" => number 1 fun size => { blocks with inputSize := size, outputSize := size, direct := true }
    | "ibs" => number 1 fun size => { blocks with inputSize := size }
    | "obs" => number 1 fun size => { blocks with outputSize := size }
    | "cbs" => number 1 fun _ => blocks
    | "count" => number 0 fun count => { blocks with count := some count }
    | "skip" | "iseek" => number 0 fun skip => { blocks with skip }
    | "seek" | "oseek" => number 0 fun seek => { blocks with seek }
    | "conv" =>
      match words.find? fun word => !conversionNames.contains word with
      | some word => .error ("invalid conversion: " ++ cited word.toList)
      | none => .ok { blocks with conversions := blocks.conversions ++ words }
    | "status" =>
      if ["none", "noxfer", "progress"].contains (String.ofList value) then
        .ok { blocks with status := String.ofList value }
      else .error ("invalid status level: " ++ cited value)
    | _ => .error ("unrecognized operand " ++ cited operand)

def swapped : Octets → Octets
  | first :: second :: rest => second :: first :: swapped rest
  | rest => rest

def dd : Tool := fun arguments =>
  withLeadingOptions ⟨"", "", []⟩ 1 arguments fun found => do
    match found.operands.foldlM Blocks.take {} with
    | .error text =>
      complain text
      if !"invalid number".toList.isPrefixOf text then
        Step.report ("Try '" ++ (← name) ++ " --help' for more information.")
      return 1
    | .ok blocks =>
      let before := (← Step.process).descriptors
      let finish (status : Nat) : Step Nat := do
        Step.modifyProcess fun process => { process with descriptors := before }
        return status
      let mut source := 0
      match blocks.input with
      | some path =>
        match ← Redirecting.openFile path .reading with
        | .ok index =>
          Step.setDescriptor 1000 (some index)
          source := 1000
        | .error fault =>
          complainOf "failed to open" path fault
          return 1
      | none => pure ()
      let converts (word : String) : Bool := blocks.conversions.contains word
      let mut target := 1
      let seek := blocks.seek * blocks.outputSize
      match blocks.output with
      | some path =>
        match ← Redirecting.openFile path .both with
        | .ok index =>
          Step.setDescriptor 1001 (some index)
          target := 1001
          match (← get).world.streams[index]? with
          | some ⟨.file number _ appending, _, _⟩ =>
            let files ← Step.files
            let content := (files.nodes[number]?.bind Files.Node.content?).getD []
            if !converts "notrunc" then
              Step.setFiles (files.setContent number (.file (ofLength (min seek content.length)
                content)))
            Step.setTarget index (.file number seek appending)
          | _ => pure ()
        | .error fault =>
          complainOf "failed to open" path fault
          return ← finish 1
      | none => pure ()
      let skip := blocks.skip * blocks.inputSize
      let most := blocks.count.map (· * blocks.inputSize)
      match ← Step.available source (most.map (skip + ·)) with
      | .error fault =>
        complain ("error reading " ++
          quoted (blocks.input.getD "standard input") ++ ": " ++ fault.reason)
        Step.report "0+0 records in
0+0 records out"
        finish 1
      | .ok text =>
        let rest := text.drop skip
        let taken := match most with
          | some most => rest.take most
          | none => rest
        let isCut ← Step.isCut source
        if isCut && most.any (taken.length < ·) then throw .starved
        Step.consume source (min (skip + taken.length) text.length)
        if text.length < skip then
          if blocks.status ≠ "none" then
            complain (shown (blocks.input.getD "standard input") ++
              ": cannot skip to specified offset")
        let full := taken.length / blocks.inputSize
        let partly := if taken.length % blocks.inputSize = 0 then 0 else 1
        let filled := if converts "sync" then
          ofLength ((full + partly) * blocks.inputSize) taken else taken
        let changed := if converts "ucase" then filled.map Char.toUpper
          else if converts "lcase" then filled.map Char.toLower else filled
        let changed := if converts "swab" then swapped changed else changed
        let lost ← if changed.isEmpty then pure none else Step.write target changed
        if isCut && most.isNone then throw .starved
        match lost with
        | some fault =>
          complain ("error writing " ++
            quoted (blocks.output.getD "standard output") ++ ": " ++
            fault.reason)
          finish 1
        | none =>
          let outFull := changed.length / blocks.outputSize
          let outPartly := if changed.length % blocks.outputSize = 0 then 0 else 1
          if blocks.status ≠ "none" then
            Step.report s!"{full}+{partly} records in
{outFull}+{outPartly} records out"
            if blocks.status ≠ "noxfer" then
              let noun := if changed.length = 1 then "byte" else "bytes"
              Step.report s!"{changed.length} {noun} copied, 0.0001 s, 1.0 MB/s"
          finish 0

end Modelsmith.Shell.Tool
