import Modelsmith.Shell.Printing
import Modelsmith.Shell.Tool.Basic

/-! Programs that print numbers or lines one after the other, perhaps without end: a reader takes
what it wants of them. -/

set_option autoImplicit false

namespace Modelsmith.Shell.Tool

/-! Decimals. -/

def decimal? (text : Octets) : Option (Int × Nat) :=
  let mantissa := text.takeWhile fun c => c ≠ 'e' && c ≠ 'E'
  match plain? mantissa, text.drop (mantissa.length + 1) with
  | none, _ => none
  | some number, exponent =>
    if mantissa.length = text.length then some number
    else
      let (negative, digits) := match exponent with
        | '-' :: digits => (true, digits)
        | '+' :: digits => (false, digits)
        | digits => (false, digits)
      if digits.isEmpty || !digits.all Char.isDigit then none
      else
        let (value, places) := number
        let shift := digitValue digits
        if negative then some (value, places + shift)
        else some (value * (10 ^ (shift - places) : Nat), places - shift)
where
  plain? (text : Octets) : Option (Int × Nat) :=
    let (negative, body) := match text with
      | '-' :: body => (true, body)
      | '+' :: body => (false, body)
      | body => (false, body)
    let whole := body.takeWhile Char.isDigit
    let rest := body.drop whole.length
    let places? : Option Octets := match rest with
      | [] => some []
      | '.' :: places => if places.all Char.isDigit then some places else none
      | _ => none
    match places? with
    | none => none
    | some places =>
      if whole.isEmpty && places.isEmpty then none
      else
        let value : Int := (digitValue (whole ++ places) : Nat)
        some (if negative then -value else value, places.length)

def decimalText (value : Int) (places : Nat) : Octets :=
  let digits := Nat.toDigits 10 value.natAbs
  let digits := List.replicate (places + 1 - digits.length) '0' ++ digits
  let whole := digits.take (digits.length - places)
  let fraction := digits.drop (digits.length - places)
  (if value < 0 then ['-'] else []) ++ whole ++ if places = 0 then [] else '.' :: fraction

/-! Sequences. -/

structure SeqBound where
  value : Int
  places : Nat
  endless : Bool := false
  width : Nat := 0

inductive SeqFault where
  | notNumber
  | unknown

def writtenWidth (text : Octets) : Int :=
  let mantissa := text.takeWhile fun c => c ≠ 'e' && c ≠ 'E'
  let exponent := text.drop (mantissa.length + 1)
  let fraction := mantissa.drop ((mantissa.takeWhile (· ≠ '.')).length + 1)
  let whole := mantissa.takeWhile (· ≠ '.')
  let pointed := whole.length < mantissa.length
  let width : Int := mantissa.length
  let width := if !pointed then width
    else if fraction.isEmpty then width - 1
    else if (whole.getLast?.any Char.isDigit) then width else width + 1
  match exponent with
  | [] => width
  | '-' :: digits => width + (if !pointed || fraction.isEmpty then 1 else 0) + digitValue digits
  | '+' :: digits | digits => width + digitValue digits

def SeqBound.read (text : Octets) : Except SeqFault SeqBound :=
  let body := (text.dropWhile Arithmetic.isSpace)
  let body := if body.head? = some '+' then body.drop 1 else body
  match decimal? body with
  | some (value, places) => .ok { value, places, width := (writtenWidth body).toNat }
  | none =>
    match Printing.doublePrefix? body with
    | some ⟨value, _, []⟩ =>
      if value.isNaN then .error .unknown
      else if !value.isFinite then
        .ok { value := if value.negative then -1 else 1, places := 0, endless := true }
      else
        -- Every double is a decimal with at most so many places.
        let places := if value.units % 2 ^ 1074 = 0 then 0 else 52
        let units : Int := (value.units * 10 ^ places / 2 ^ 1074 : Nat)
        .ok { value := if value.negative then -units else units, places }
    | _ => .error .notNumber

def numberBlock (spell : Int → Octets) (joint : Octets) (inside : Int → Bool) (step : Int) :
    (count : Nat) → Int → Octets → Octets × Option Int
  | 0, value, done => (done, some value)
  | count + 1, value, done =>
    if inside value then
      numberBlock spell joint inside step count (value + step)
        ((spell value ++ joint).reverse ++ done)
    else (done, none)

def writeNumbers (spell : Int → Octets) (joint : Octets) (inside : Int → Bool) (step : Int) :
    (fuel : Nat) → Int → Step Unit
  | 0, _ => return
  | fuel + 1, value => do
    let (block, next) := numberBlock (fun value => joint ++ spell value) [] inside step 256 value []
    if !block.isEmpty then
      match ← Step.write 1 block.reverse with
      | none => pure ()
      | some fault =>
        Step.modifyProcess fun process => { process with lost := some fault }
        return
    match next with
    | none => return
    | some value => writeNumbers spell joint inside step fuel value

def isNegative (text : Octets) : Bool :=
  match text with
  | '-' :: c :: _ => c.isDigit || c = '.' || c = 'i' || c = 'I'
  | _ => false

def seq : Tool := fun arguments => do
  let options := arguments.takeWhile fun text => text.head? = some '-' && !isNegative text
  -- An option may take the argument after it.
  let lead := match options.getLast? with
    | some last => if last = "-s" then options.length + 1 else options.length
    | none => 0
  match parse ⟨"w", "s", [("separator", 's'), ("equal-width", 'w')]⟩ true
      (arguments.take lead) with
  | .error text =>
    usage text
    return 1
  | .ok found =>
    let operands := found.operands ++ arguments.drop lead
    let refuse (words : Octets) : Step Nat := do
      usage words
      return 1
    if operands.isEmpty then return ← refuse "missing operand"
    if 3 < operands.length then
      return ← refuse ("extra operand " ++ cited (operands.getD 3 []))
    let mut bounds : List SeqBound := []
    for text in operands do
      match SeqBound.read text with
      | .ok bound => bounds := bounds ++ [bound]
      | .error .notNumber =>
        return ← refuse ("invalid floating point argument: " ++ cited text)
      | .error .unknown =>
        return ← refuse ("invalid 'not-a-number' argument: " ++ cited text)
    let one : SeqBound := { value := 1, places := 0, width := 1 }
    let (first, step, last) := match bounds with
      | [first, step, last] => (first, step, last)
      | [first, last] => (first, one, last)
      | [last] => (one, one, last)
      | _ => (one, one, one)
    if step.value = 0 then
      return ← refuse ("invalid Zero increment value: " ++ cited (operands.getD 1 []))
    if first.endless || step.endless then return 0
    let places := max first.places step.places
    let scale := max places (if last.endless then 0 else last.places)
    let units (bound : SeqBound) : Int := bound.value * (10 ^ (scale - bound.places) : Nat)
    let distance := units step
    let limit := units last
    let inside (value : Int) : Bool :=
      if last.endless then decide (0 < distance) == decide (0 < last.value)
      else if 0 < distance then value ≤ limit else limit ≤ value
    let pointed (bound : SeqBound) : Nat := if bound.places = 0 && 0 < places then 1 else 0
    let width := max (first.width + (places - first.places) + pointed first)
      (if last.endless then 0
        else last.width + places + pointed last - last.places -
          (if places = 0 && 0 < last.places then 1 else 0))
    let plain (value : Int) : Octets := decimalText (value / (10 ^ (scale - places) : Nat)) places
    let widened (text : Octets) : Octets :=
      let fill := List.replicate (width - text.length) '0'
      match text with
      | '-' :: digits => '-' :: fill ++ digits
      | digits => fill ++ digits
    let spell (value : Int) : Octets :=
      if found.has 'w' then widened (plain value) else plain value
    let start := units first
    if inside start then
      let joint := (found.value? 's').getD ['\n']
      Step.print (spell start)
      writeNumbers spell joint inside distance (10 ^ 15) (start + distance)
      Step.print ['\n']
    return 0

/-! Lines. -/

def yes : Tool := fun arguments => do
  let line := (if arguments.isEmpty then ['y'] else Expansion.joinWith [' '] arguments) ++ ['\n']
  let block := (List.replicate 1024 line).flatten
  repeatWrite block (10 ^ 15)
where
  repeatWrite (block : Octets) : (fuel : Nat) → Step Nat
    | 0 => return 1
    | fuel + 1 => do
      match ← Step.write 1 block with
      | some fault =>
        complain ("standard output: " ++ fault.reason)
        return 1
      | none => repeatWrite block fuel

end Modelsmith.Shell.Tool
