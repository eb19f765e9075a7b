import Modelsmith.Run.Host
import Modelsmith.Shell.Reader

/-! The state in which scripts run.

Files and open streams belong to the world, which all processes share. Everything else belongs to a
process: a subshell runs on a copy of it and leaves only its status and the world behind.
-/

set_option autoImplicit false

namespace Modelsmith.Shell

inductive Stream.Keeping where
  | all
  | pipe
  | cut
  deriving DecidableEq

inductive Stream.Target where
  | nowhere
  | zeros
  | full
  | directory
  | memory (front : Octets) (back : List Octets) (length : Nat) (keeping : Stream.Keeping)
  | file (number : Nat) (offset : Nat) (appending : Bool)
  | channel (number : Nat)

structure Stream where
  target : Stream.Target
  readable : Bool
  writable : Bool

def pipeLimits : Nat × Nat := (65536, 8388608)

inductive StreamFault where
  | badDescriptor
  | isDirectory
  | noSpace

def StreamFault.reason : StreamFault → String
  | .badDescriptor => "Bad file descriptor"
  | .isDirectory => "Is a directory"
  | .noSpace => "No space left on device"

structure Variable where
  value : Option Octets
  exported : Bool := false
  constant : Bool := false
  deriving DecidableEq

structure Switches where
  exportAll : Bool := false
  keepFiles : Bool := false
  exitOnFailure : Bool := false
  literalPaths : Bool := false
  readOnly : Bool := false
  unsetFails : Bool := false
  echoLines : Bool := false
  trace : Bool := false
  idle : List Char := []

def Switches.isOn (letter : Char) (switches : Switches) : Bool :=
  match letter with
  | 'a' => switches.exportAll
  | 'C' => switches.keepFiles
  | 'e' => switches.exitOnFailure
  | 'f' => switches.literalPaths
  | 'n' => switches.readOnly
  | 'u' => switches.unsetFails
  | 'v' => switches.echoLines
  | 'x' => switches.trace
  | _ => switches.idle.contains letter

def Switches.letters (switches : Switches) : Octets :=
  "pubaCEVvxsnmiIfe".toList.filter (switches.isOn ·)

structure Slot where
  place : Nat
  number : Nat
  parts : Nat
  waited : Bool := false
  noticed : Bool := false

structure Process where
  name : Octets
  command : Option Octets := none
  arguments : List Octets := []
  settings : List (Octets × Variable) := []
  functions : List (Octets × Command) := []
  aliases : List (Octets × Octets) := []
  found : List Octets := []
  documents : Array Word := #[]
  descriptors : List (Nat × Nat) := [(0, 0), (1, 1), (2, 2)]
  directory : Files.Location
  trail : Octets
  switches : Switches := {}
  traps : List (Nat × Octets) := []
  signals : List Nat := []
  status : Nat := 0
  leaving : Option Nat := none
  substituted : Nat := 0
  line : Nat := 1
  depth : Nat := 0
  calls : Nat := 0
  deaf : List Nat := []
  loops : Nat := 0
  frames : List (List (Octets × Option Variable)) := []
  slots : List Slot := []
  latestJob : Option Nat := none
  number : Nat := 4242
  shell : Nat := 4242
  ancestors : List Nat := []
  optionOffset : Nat := 0
  mask : Nat := 18
  deadline : Option (Nat × Nat) := none
  lost : Option StreamFault := none

structure Job where
  number : Nat
  process : Process
  body : Command

inductive Outcome where
  | exited (status : Nat)
  | killed (signal : Nat)

def Outcome.status : Outcome → Nat
  | .exited status => status
  | .killed signal => 128 + signal

structure World where
  files : Files
  streams : Array Stream
  jobs : List Job := []
  finished : List (Nat × Outcome) := []
  nextNumber : Nat := 4243
  posted : List (Nat × Nat) := []
  clock : Nat := 0
  pipeLimit : Nat := pipeLimits.1

structure Machine where
  world : World
  process : Process

inductive Stop where
  | exit
  | fault
  | killed (number signal : Nat)
  | leave (loops : Nat)
  | next (loops : Nat)
  | give
  | starved
  deriving DecidableEq

abbrev Step := ExceptT Stop (StateM Machine)

namespace Step

def process : Step Process := do return (← get).process

def modifyProcess (change : Process → Process) : Step Unit :=
  modify fun machine => { machine with process := change machine.process }

def modifyWorld (change : World → World) : Step Unit :=
  modify fun machine => { machine with world := change machine.world }

def setStatus (status : Nat) : Step Unit := modifyProcess fun process => { process with status }

def files : Step Files := do
  let machine ← get
  return { machine.world.files with
    current := machine.process.directory
    mask := machine.process.mask
    now := machine.world.clock }

def setFiles (files : Files) : Step Unit := modifyWorld fun world => { world with files }

def pass (time : Nat) : Step Unit := do
  let clock := (← get).world.clock + time
  match (← process).deadline with
  | some (limit, number) =>
    if limit < clock then
      modifyWorld fun world => { world with clock := limit }
      throw (.killed number 15)
  | none => return
  modifyWorld fun world => { world with clock }

/-! Streams. -/

def stream? (descriptor : Nat) : Step (Option (Nat × Stream)) := do
  let machine ← get
  match machine.process.descriptors.lookup descriptor with
  | none => return none
  | some index => return (machine.world.streams[index]?).map (index, ·)

def setTarget (index : Nat) (target : Stream.Target) : Step Unit :=
  modifyWorld fun world =>
    { world with streams := world.streams.modify index fun stream => { stream with target } }

def addStream (stream : Stream) : Step Nat := do
  let index := (← get).world.streams.size
  modifyWorld fun world => { world with streams := world.streams.push stream }
  return index

def setDescriptor (descriptor : Nat) (index : Option Nat) : Step Unit :=
  modifyProcess fun process =>
    let others := process.descriptors.filter fun (other, _) => other ≠ descriptor
    { process with
      descriptors := match index with
        | some index => (descriptor, index) :: others
        | none => others }

def overlaid (content : Octets) (offset : Nat) (text : Octets) : Octets :=
  let before := content.take offset
  before ++ List.replicate (offset - before.length) '\x00' ++ text ++
    content.drop (offset + text.length)

def write (descriptor : Nat) (text : Octets) : Step (Option StreamFault) := do
  match ← stream? descriptor with
  | none => return some .badDescriptor
  | some (index, stream) =>
    if !stream.writable then return some .badDescriptor
    match stream.target with
    | .nowhere | .zeros => return none
    | .full => return if text.isEmpty then none else some .noSpace
    | .directory => return some .badDescriptor
    | .memory front back length keeping =>
      if keeping ≠ .all && (← get).world.pipeLimit < length then
        setTarget index (.memory front back length .cut)
        throw (.killed (← process).number 13)
      setTarget index (.memory front (text :: back) (length + text.length) keeping)
      return none
    | .file number offset appending =>
      let files ← files
      match files.nodes[number]?.bind Files.Node.content? with
      | some content =>
        let offset := if appending then content.length else offset
        setFiles (files.setContent number (.file (overlaid content offset text)))
        setTarget index (.file number (offset + text.length) appending)
      | none => pure ()
      return none
    | .channel number =>
      let files ← files
      match files.nodes[number]?.map Files.Node.kind with
      | some (.pipe content) => setFiles (files.setContent number (.pipe (content ++ text)))
      | _ => pure ()
      return none

def available (descriptor : Nat) (wanted : Option Nat := none) :
    Step (Except StreamFault Octets) := do
  match ← stream? descriptor with
  | none => return .error .badDescriptor
  | some (index, stream) =>
    if !stream.readable then return .error .badDescriptor
    match stream.target with
    | .nowhere => return .ok []
    | .zeros | .full => return .ok (List.replicate (wanted.getD (← get).world.pipeLimit) '\x00')
    | .directory => return .error .isDirectory
    | .memory front back length keeping =>
      if back.isEmpty then return .ok front
      let text := front ++ back.reverse.flatten
      setTarget index (.memory text [] length keeping)
      return .ok text
    | .file number offset _ =>
      match (← get).world.files.nodes[number]?.bind Files.Node.content? with
      | some content => return .ok (content.drop offset)
      | none => return .ok []
    | .channel number =>
      match (← get).world.files.nodes[number]?.map Files.Node.kind with
      | some (.pipe content) => return .ok content
      | _ => return .ok []

def consume (descriptor : Nat) (count : Nat) : Step Unit := do
  match ← stream? descriptor with
  | none => return
  | some (index, stream) =>
    match stream.target with
    | .memory front back length keeping =>
      setTarget index (.memory (front.drop count) back (length - count) keeping)
    | .file number offset appending => setTarget index (.file number (offset + count) appending)
    | .channel number =>
      modifyWorld fun world =>
        { world with
          files := world.files.change number fun node =>
            match node.kind with
            | .pipe content => { node with kind := .pipe (content.drop count) }
            | _ => node }
    | _ => return

def cutOff (index : Nat) : Step Unit := do
  match (← get).world.streams[index]? with
  | some ⟨.memory front back length _, _, _⟩ => setTarget index (.memory front back length .cut)
  | _ => return

def isCut (descriptor : Nat) : Step Bool := do
  match ← stream? descriptor with
  | some (_, ⟨.memory _ _ _ keeping, _, _⟩) => return keeping = .cut
  | some (_, ⟨.zeros, _, _⟩) | some (_, ⟨.full, _, _⟩) => return true
  | _ => return false

def reachEnd (descriptor : Nat) : Step Unit := do if ← isCut descriptor then throw .starved

def readSome (descriptor : Nat) : Step (Except StreamFault Octets) := do
  match ← available descriptor with
  | .error fault => return .error fault
  | .ok text =>
    consume descriptor text.length
    return .ok text

def readAll (descriptor : Nat) : Step (Except StreamFault Octets) := do
  let text ← readSome descriptor
  reachEnd descriptor
  return text

def isPipe (descriptor : Nat) : Step Bool := do
  match ← stream? descriptor with
  | some (_, stream) =>
    match stream.target with
    | .memory _ _ _ keeping => return keeping ≠ .all
    | .channel _ => return true
    | _ => return false
  | none => return false

def isFile (descriptor : Nat) : Step Bool := do
  match ← stream? descriptor with
  | some (_, ⟨.file _ _ _, _, _⟩) => return true
  | _ => return false

def print (text : Octets) : Step Unit := do
  match ← write 1 text with
  | none => return
  | some fault => modifyProcess fun process => { process with lost := some fault }

def printLine (text : Octets) : Step Unit := print (text ++ ['\n'])

def report (text : Octets) : Step Unit := do let _ ← write 2 (text ++ ['\n'])

def complain (text : Octets) : Step Unit := do
  let process ← process
  let command := match process.command with
    | some command => command ++ ": "
    | none => []
  report (process.name ++ s!": {process.line}: " ++ command ++ text)

def refuse {α : Type} (text : Octets) : Step α := do
  complain text
  setStatus 2
  throw .fault

/-! Variables. -/

def settingOf? (name : Octets) : Step (Option Variable) := do
  return (← process).settings.lookup name

def value? (name : Octets) : Step (Option Octets) := do return (← settingOf? name).bind (·.value)

def putVariable (name : Octets) (content : Option Variable) : Step Unit :=
  modifyProcess fun process =>
    let settings := process.settings
    { process with
      settings := match content with
        | none => settings.filter fun (other, _) => other ≠ name
        | some content =>
          if (settings.lookup name).isSome then replaced content settings
          else (name, content) :: settings }
where
  replaced (content : Variable) : List (Octets × Variable) → List (Octets × Variable)
    | [] => []
    | entry :: rest =>
      if entry.1 = name then (name, content) :: rest else entry :: replaced content rest

def assign (name value : Octets) : Step Unit := do
  let process ← process
  let before := process.settings.lookup name
  match before with
  | some old =>
    if old.constant then refuse (name ++ ": is read only")
    putVariable name (some { old with
      value := some value
      exported := old.exported || process.switches.exportAll })
  | none => putVariable name (some ⟨some value, process.switches.exportAll, false⟩)
  if name = "OPTIND" then modifyProcess fun process => { process with optionOffset := 0 }
  if name = "PATH" then modifyProcess fun process => { process with found := [] }

def mark (name : Octets) (change : Variable → Variable) : Step Unit := do
  putVariable name (some (change ((← settingOf? name).getD ⟨none, false, false⟩)))

def unassign (name : Octets) : Step Unit := do
  match ← settingOf? name with
  | some old =>
    if old.constant then refuse (name ++ ": is read only")
    putVariable name none
    if name = "PATH" then modifyProcess fun process => { process with found := [] }
  | none => return

def remember (name : Octets) : Step Unit := do
  let before ← settingOf? name
  modifyProcess fun process =>
    { process with
      frames := match process.frames with
        | frame :: rest =>
          (if frame.any fun (other, _) => other = name then frame else (name, before) :: frame)
            :: rest
        | [] => [] }

def framed {α : Type} (step : Step α) : Step α := do
  modifyProcess fun process => { process with frames := [] :: process.frames }
  let restore : Step Unit := do
    match (← process).frames with
    | frame :: rest =>
      for (name, before) in frame do putVariable name before
      modifyProcess fun process => { process with frames := rest }
    | [] => return
  let value ← tryCatch step fun stop => do
    restore
    throw stop
  restore
  return value

def variableRank (name : Octets) : Nat :=
  ((name.headD '\x00').toNat * 16 + (name.map Char.toNat).sum) % 39

def arrangeVariables : Step Unit :=
  modifyProcess fun process =>
    { process with
      settings := process.settings.mergeSort fun left right =>
        decide (variableRank right.1 ≤ variableRank left.1) }

def environment : Step (List (Octets × Octets)) := do
  return (← process).settings.filterMap fun (name, content) =>
    match content.exported, content.value with
    | true, some value => some (name, value)
    | _, _ => none

def dividers : Step Octets := do return (← value? "IFS").getD " \t\n"

end Step

end Modelsmith.Shell
