import Modelsmith.Shell.Builtin.Jobs

/-! Commands on the course of a script and on its surroundings. -/

set_option autoImplicit false

namespace Modelsmith.Shell.Builtin

def exit : Builtin := fun arguments => do
  match arguments with
  | [] =>
    match (← Step.process).leaving with
    | some status => Step.setStatus status
    | none => pure ()
  | text :: _ => Step.setStatus ((← number text) % 256)
  throw .exit

def giveBack : Builtin := fun arguments => do
  match arguments with
  | [] => pure ()
  | text :: _ => Step.setStatus (← number text)
  throw .give

def loopCount (arguments : List Octets) : Step Nat := do
  let count ← match arguments with
    | [] => pure 1
    | text :: _ =>
      let count ← number text
      if count = 0 then Step.refuse ("Illegal number: " ++ text)
      pure count
  return min count (← Step.process).loops

def leave : Builtin := fun arguments => do
  match ← loopCount arguments with
  | 0 => return 0
  | count =>
    Step.setStatus 0
    throw (.leave count)

def next : Builtin := fun arguments => do
  match ← loopCount arguments with
  | 0 => return 0
  | count =>
    Step.setStatus 0
    throw (.next count)

/-! Directories. -/

def isPhysical (found : List (Char × Octets)) : Bool := (found.getLast?.map Prod.fst) = some 'P'

def pwd : Builtin := fun arguments => do
  let (found, _) ← options "LP" "" arguments
  let process ← Step.process
  Step.printLine (if isPhysical found then pathText process.directory else process.trail)
  return 0

def joined (before path : Octets) : Octets :=
  let isAbsolute := path.head? = some '/'
  let whole := if isAbsolute then path else before
  let doubled := ['/', '/'].isPrefixOf whole && whole[2]? ≠ some '/'
  let start := if isAbsolute then [] else Path.names (Text.ofOctets before)
  let names := (Path.names (Text.ofOctets path)).foldl
    (fun names name =>
      if name = "." then names else if name = ".." then names.dropLast else names ++ [name])
    start
  (if doubled then ['/'] else []) ++ '/' :: Text.octets ("/".intercalate names)

def candidates (path : Octets) (search : Option Octets) : List (Octets × Bool) :=
  let dotted := path.head? = some '/' || path = ['.'] || path = ['.', '.'] ||
    ['.', '/'].isPrefixOf path || ['.', '.', '/'].isPrefixOf path
  match search with
  | some search =>
    if dotted then []
    else
      ((Text.ofOctets search).splitOn ":").map fun base =>
        (Text.octets (Path.join base (Text.ofOctets path)), base != "")
  | none => []

def cd : Builtin := fun arguments => do
  let (found, arguments) ← options "LP" "" arguments
  let (target, shown) ← match arguments with
    | [] => pure ((← Step.value? "HOME").getD [], false)
    | ['-'] :: _ => pure ((← Step.value? "OLDPWD").getD [], true)
    | path :: _ => pure (path, false)
  let path := if target.isEmpty then ['.'] else target
  let files ← Step.files
  let choices := candidates path (← Step.value? "CDPATH")
  let (path, searched) := (choices.find? fun (path, _) =>
    files.isDirectory (Text.ofOctets path)).getD (path, false)
  let before := (← Step.process).trail
  let reached := if isPhysical found then path else joined before path
  match files.directory (Text.ofOctets reached) with
  | .error _ => Step.refuse ("can't cd to " ++ target)
  | .ok directory =>
    let trail := if isPhysical found then pathText directory else reached
    Step.modifyProcess fun process => { process with directory, trail }
    Step.assign "OLDPWD" before
    Step.mark "OLDPWD" fun content => { content with exported := true }
    Step.assign "PWD" trail
    Step.mark "PWD" fun content => { content with exported := true }
    if shown || searched then Step.printLine trail
    return 0

/-! Signals. -/

def showTraps : Step Unit := do
  let traps := (← Step.process).traps.mergeSort fun (left, _) (right, _) => left ≤ right
  for (signal, action) in traps do
    Step.printLine ("trap -- " ++ quoted action ++ ' ' :: (signalName signal).toList)

def trap : Builtin := fun arguments => do
  let (_, arguments) ← options "" "" arguments
  match arguments with
  | [] =>
    showTraps
    return 0
  | first :: rest =>
    let resets := rest.isEmpty ||
      (!first.isEmpty && first.all Char.isDigit && (signal? first).isSome)
    let (action, signals) :=
      if resets then (none, arguments)
      else if first = ['-'] then (none, rest)
      else (some first, rest)
    for text in signals do
      match signal? text with
      | none =>
        Step.report ("trap: " ++ text ++ ": bad trap")
        return 1
      | some signal =>
        Step.modifyProcess fun process =>
          let others := process.traps.filter fun (other, _) => other ≠ signal
          { process with
            traps := match action with
              | some action => (signal, action) :: others
              | none => others }
    return 0

def isHarmless (signal : Nat) : Bool := [17, 18, 23, 28].contains signal

def signalSelf (signal : Nat) : Step Unit := do
  let process ← Step.process
  if signal = 0 || process.deaf.contains signal then return
  match if signal = 9 || signal = 19 then none else process.traps.lookup signal with
  | some [] => return
  | some _ =>
    Step.modifyProcess fun process => { process with signals := process.signals ++ [signal] }
  | none => if !isHarmless signal then throw (.killed process.number signal)

def childSignal : Nat := 17

def receive : Step Unit := do
  signalSelf childSignal
  noticeEnds
  let number := (← Step.process).number
  let (own, posted) := (← get).world.posted.partition fun (target, _) => target = number
  if own.isEmpty then return
  Step.modifyWorld fun world => { world with posted }
  own.forM fun (_, signal) => signalSelf signal

def signalProcess (signal : Nat) (target : Octets) : Step Nat := do
  let process ← Step.process
  let digits := if target.head? = some '-' then target.drop 1 else target
  if target.head? = some '%' then
    let _ ← jobNamed (some target)
    Step.complain "No such process\n"
    return 1
  if digits.isEmpty || !digits.all Char.isDigit then
    Step.refuse ("Illegal number: " ++ target)
  let wanted := Arithmetic.digitsValue 10 (Arithmetic.digits 10 digits).1
  let world := (← get).world
  if wanted = process.number || wanted = 0 then
    signalSelf signal
    return 0
  else if process.ancestors.contains wanted then
    if signal ≠ 0 then
      Step.modifyWorld fun world => { world with posted := world.posted ++ [(wanted, signal)] }
    return 0
  else if world.jobs.any fun job => job.number = wanted then
    if signal ≠ 0 && !isHarmless signal then
      Step.modifyWorld fun world => { world with
        jobs := world.jobs.filter fun job => job.number ≠ wanted
        finished := (wanted, .killed signal) :: world.finished }
    return 0
  else
    Step.complain "No such process\n"
    return 1

def namedSignal (text : Octets) : Step Nat :=
  match signal? text with
  | some signal => return signal
  | none => Step.refuse ("invalid signal number or name: " ++ text)

def kill : Builtin := fun arguments => do
  let usage {α : Type} : Step α :=
    Step.refuse ("Usage: kill [-s sigspec | -signum | -sigspec] [pid | job]... or\n" ++
      "kill -l [exitstatus]").toList
  let send (signal : Nat) (targets : List Octets) : Step Nat := do
    if targets.isEmpty then usage
    let mut status := 0
    for target in targets do status := max status (← signalProcess signal target)
    return status
  match arguments with
  | ['-', 'l'] :: [] =>
    Step.printLine ['0']
    for signal in List.range 64 do Step.printLine (signalName (signal + 1)).toList
    return 0
  | ['-', 'l'] :: text :: _ =>
    let value ← number text
    let signal := if 128 < value then value - 128 else value
    if signal = 0 || 64 < signal then
      Step.refuse ("invalid signal number or exit status: " ++ text)
    Step.printLine (signalName signal).toList
    return 0
  | ['-', 's'] :: text :: targets => send (← namedSignal text) targets
  | ['-', '-'] :: targets => send 15 targets
  | ('-' :: text) :: targets =>
    if text.isEmpty then usage
    match signal? text with
    | some signal =>
      send signal (if targets.head? = some ['-', '-'] then targets.drop 1 else targets)
    | none => Step.refuse ("Illegal option -" ++ text.take 1)
  | targets => send 15 targets

/-! Limits. -/

def limits : List (Char × String × String) :=
  [('t', "time(seconds)", "unlimited"), ('f', "file(blocks)", "unlimited"),
    ('d', "data(kbytes)", "unlimited"), ('s', "stack(kbytes)", "8192"),
    ('c', "coredump(blocks)", "0"), ('m', "memory(kbytes)", "unlimited"),
    ('l', "locked memory(kbytes)", "8192"), ('p', "process", "unlimited"),
    ('n', "nofiles", "1024"), ('v', "vmemory(kbytes)", "unlimited"), ('w', "locks", "unlimited"),
    ('r', "rtprio", "0")]

def ulimit : Builtin := fun arguments => do
  let (found, values) ← options ("HSa" ++ String.ofList (limits.map Prod.fst)) "" arguments
  let letters := found.map Prod.fst
  let chosen := (letters.filter fun letter => !"HSa".toList.contains letter).getLast?.getD 'f'
  let ofLimit (letter : Char) : String × String := (limits.lookup letter).getD ("", "unlimited")
  match values with
  | [] =>
    if letters.contains 'a' then
      for (_, words, value) in limits do
        Step.printLine (words ++ List.replicate (21 - words.length) ' ' ++ value)
    else Step.printLine (ofLimit chosen).2.toList
    return 0
  | [value] =>
    if letters.contains 'a' then Step.refuse "too many arguments"
    if value ≠ "unlimited" && !value.all Char.isDigit then Step.refuse "bad number"
    return 0
  | _ => Step.refuse "too many arguments"

/-! The rest. -/

def octalText (value : Nat) : Octets :=
  let digits := Nat.toDigits 8 value
  List.replicate (4 - digits.length) '0' ++ digits

def share (modes : Nat) : Char → Nat
  | 'u' => modes / 64 % 8
  | 'g' => modes / 8 % 8
  | _ => modes % 8

def modeBits? (modes : Nat) : Char → Option Nat
  | 'r' => some 4
  | 'w' => some 2
  | 'x' => some 1
  | 'X' => some (if modes &&& 73 = 0 then 0 else 1)
  | 's' => some 0
  | c => if "ugo".toList.contains c then some (share modes c) else none

def changedModes? (users : List Char) (act : Option Char) (bits modes : Nat) :
    Octets → Option Nat
  | [] => if act.isSome then some (applied users act bits modes) else none
  | c :: rest =>
    if c = '+' || c = '-' || c = '=' then
      changedModes? users (some c) 0 (applied users act bits modes) rest
    else
      match act with
      | some _ =>
        if c = ',' then
          let modes := applied users act bits modes
          if rest.isEmpty then some modes else changedModes? [] none 0 modes rest
        else
          match modeBits? modes c with
          | some more => changedModes? users act (bits ||| more) modes rest
          | none => none
      | none =>
        if c = 'a' then changedModes? "ugo" act bits modes rest
        else if "ugo".toList.contains c then changedModes? (c :: users) act bits modes rest
        else none
where
  applied (users : List Char) (act : Option Char) (bits : Nat) (modes : Nat) : Nat :=
    let changed (user : Char) : Nat :=
      let old := share modes user
      if !users.isEmpty && !users.contains user then old
      else
        match act with
        | some '+' => old ||| bits
        | some '-' => old &&& (7 - bits)
        | some _ => bits
        | none => old
    64 * changed 'u' + 8 * changed 'g' + changed 'o'

def modesText (modes : Nat) : Octets :=
  let letters (user : Char) : String :=
    let bits := share modes user
    (if bits &&& 4 = 0 then "" else "r") ++ (if bits &&& 2 = 0 then "" else "w") ++
      (if bits &&& 1 = 0 then "" else "x")
  ("u=" ++ letters 'u' ++ ",g=" ++ letters 'g' ++ ",o=" ++ letters 'o').toList

def umask : Builtin := fun arguments => do
  let (symbolic, arguments) ← options "S" "" arguments
  let mask := (← Step.process).mask
  let set (mask : Nat) : Step Nat := do
    Step.modifyProcess fun process => { process with mask }
    return 0
  match arguments with
  | [] =>
    Step.printLine (if symbolic.isEmpty then octalText mask else modesText (511 - mask))
    return 0
  | text :: _ =>
    if (text.headD ' ').isDigit then
      if text.all fun c => '0' ≤ c && c ≤ '7' then
        set (text.foldl (fun value c => 8 * value + (c.toNat - '0'.toNat)) 0 % 512)
      else Step.refuse ("Illegal number: " ++ text)
    else
      match changedModes? [] none 0 (511 - mask) text with
      | some modes => set (511 - modes)
      | none => Step.refuse ("Illegal mode: " ++ text)

def times : Builtin := fun _ => do
  Step.print "0m0.000000s 0m0.000000s\n0m0.000000s 0m0.000000s\n"
  return 0

def succeed : Builtin := fun _ => return 0

def fail : Builtin := fun _ => return 1

end Modelsmith.Shell.Builtin
