import Modelsmith.Shell.Builtin.Basic

/-! The jobs of a script, and the commands that name and show them. -/

set_option autoImplicit false

namespace Modelsmith.Shell.Builtin

def outcome? (number : Nat) : Step (Option Outcome) := do
  let world := (← get).world
  if world.jobs.any fun job => job.number = number then return none
  return world.finished.lookup number

def freePlace (finished : List (Nat × Outcome)) (slots : List Slot) : (fuel : Nat) → Nat → Nat
  | 0, place => place
  | fuel + 1, place =>
    match slots.find? fun slot => slot.place = place with
    | none => place
    | some slot =>
      if slot.waited && (finished.lookup slot.number).isSome then place
      else freePlace finished slots fuel (place + 1)

def addJob (number parts : Nat) : Step Unit := do
  let finished := (← get).world.finished
  Step.modifyProcess fun process =>
    let place := freePlace finished process.slots (process.slots.length + 1) 1
    let others := process.slots.filter fun slot => slot.place ≠ place
    { process with
      latestJob := some number
      slots := { place, number, parts } :: others }

def jobNamed (name : Option Octets) : Step Slot := do
  let slots := (← Step.process).slots
  let orRefuse (slot : Option Slot) (words : Octets) : Step Slot :=
    match slot with
    | some slot => return slot
    | none => Step.refuse words
  match name with
  | none | some ['%'] | some ['%', '%'] | some ['%', '+'] =>
    orRefuse slots.head? "No current job"
  | some ['%', '-'] => orRefuse slots[1]? "No previous job"
  | some name =>
    let digits := name.drop 1
    let wanted := if name.head? = some '%' && !digits.isEmpty && digits.all Char.isDigit then
      slots.find? fun slot => slot.place = Arithmetic.digitsValue 10 (Arithmetic.digits 10 digits).1
      else none
    orRefuse wanted ("No such job: " ++ name)

def noteWaited (number : Nat) : Step Unit :=
  Step.modifyProcess fun process =>
    { process with
      slots := process.slots.map fun slot =>
        if slot.number = number then { slot with waited := true } else slot }

def noticeEnds : Step Unit := do
  let finished := (← get).world.finished
  if finished.isEmpty then return
  Step.modifyProcess fun process =>
    { process with
      slots := process.slots.map fun slot =>
        { slot with noticed := slot.noticed || (finished.lookup slot.number).isSome } }

def outcomeText : Option Outcome → String
  | none => "Running"
  | some (.exited 0) => "Done"
  | some (.exited status) => s!"Done({status})"
  | some (.killed signal) => signalReport signal

def commandColumn : Nat := 33

def showJob (withNumber onlyNumber : Bool) (slot : Slot) : Step Unit := do
  if onlyNumber then
    Step.printLine (toString slot.number).toList
    return
  let slots := (← Step.process).slots
  let rank (index : Nat) : Bool := slots[index]?.any fun other => other.place = slot.place
  let mark := if rank 0 then '+' else if rank 1 then '-' else ' '
  let outcome ← outcome? slot.number
  let number := if withNumber then toString slot.number ++ " " else ""
  let start := s!"[{slot.place}] " ++ mark :: ' ' :: number ++
    (outcomeText outcome).toList
  let blanks := List.replicate (max 1 (commandColumn - start.length)) ' '
  Step.printLine (start ++ blanks ++ (List.replicate (slot.parts - 1) " | ".toList).flatten)
  if outcome.isSome then
    Step.modifyProcess fun process =>
      { process with slots := process.slots.filter fun other => other.place ≠ slot.place }

def jobs : Builtin := fun arguments => do
  let (found, names) ← options "lp" "" arguments
  let last := found.getLast?.map Prod.fst
  let show' := showJob (last = some 'l') (last = some 'p')
  if names.isEmpty then for slot in (← Step.process).slots do show' slot
  else for name in names do show' (← jobNamed (some name))
  return 0

def moveJob : Builtin := fun arguments => do
  let (_, names) ← options "" "" arguments
  let _ ← jobNamed names.head?
  Step.refuse ("job " ++ names.head?.getD "(null)" ++
    " not created under job control")

end Modelsmith.Shell.Builtin
