import Modelsmith.Double.Rounding

/-! Decimal numerals: the spelling of a number, kept digit for digit, and the double it denotes. -/

set_option autoImplicit false

namespace Modelsmith

def digitText (value : Nat) : List Char := Nat.toDigits 10 value

def digitValue (digits : List Char) : Nat :=
  digits.foldl (fun value digit => 10 * value + (digit.toNat - '0'.toNat)) 0

structure Numeral.Exponent where
  mark : Char
  sign : Option Char
  digits : List Char
  deriving DecidableEq

structure Numeral where
  negative : Bool
  whole : List Char
  fraction : Option (List Char)
  exponent : Option Numeral.Exponent
  deriving DecidableEq

namespace Numeral

def Exponent.text (exponent : Exponent) : List Char :=
  exponent.mark :: (exponent.sign.toList ++ exponent.digits)

def text (numeral : Numeral) : List Char :=
  (if numeral.negative then ['-'] else []) ++ numeral.whole ++
    (match numeral.fraction with
      | none => []
      | some digits => '.' :: digits) ++
    (match numeral.exponent with
      | none => []
      | some exponent => exponent.text)

def ofInt (value : Int) : Numeral := ⟨decide (value < 0), digitText value.natAbs, none, none⟩

def coefficient (numeral : Numeral) : Nat := digitValue (numeral.whole ++ numeral.fraction.getD [])

def writtenExponent (numeral : Numeral) : Int :=
  match numeral.exponent with
  | none => 0
  | some exponent =>
    if exponent.sign = some '-' then -(digitValue exponent.digits : Int)
    else digitValue exponent.digits

def scale (numeral : Numeral) : Int := numeral.writtenExponent - (numeral.fraction.getD []).length

/-- The double nearest to the number spelled; infinite when it is too large. -/
def value (numeral : Numeral) : Double :=
  Double.ofDecimal numeral.negative numeral.coefficient numeral.scale

/-- Appends digits to a word of 64 bits for as long as they fit, and tells how many did. -/
def absorb (word taken : Nat) : List Char → Nat × Nat
  | [] => (word, taken)
  | digit :: rest =>
    let next := 10 * word + (digit.toNat - '0'.toNat)
    if next < 2 ^ 64 then absorb next (taken + 1) rest else (word, taken)

def powerLimit : Nat := 308

/-- A magnitude divided by `10 ^ power`. Powers past the limit are taken off a limit at a time, and
every quotient is rounded. -/
def divided (magnitude : Double) : (fuel power : Nat) → Double
  | 0, _ => magnitude
  | fuel + 1, power =>
    let step := min power powerLimit
    let quotient := Double.ofRank false
      (Double.quotientRank magnitude (Double.ofDecimal false 1 step))
    if power ≤ powerLimit ∨ quotient.rank = 0 then quotient
    else divided quotient fuel (power - powerLimit)

/-- The magnitude by the leading digits, when it is finite: they are taken as a word of 64 bits,
rounded, and scaled by a rounded power of ten. This can miss the nearest double, and just below the
largest one it refuses some numbers that are in range. -/
def leadingMagnitude? (numeral : Numeral) : Option Double :=
  let (word, wholeTaken) := absorb 0 0 numeral.whole
  let (word, fractionTaken) := absorb word 0 (numeral.fraction.getD [])
  let power : Int :=
    numeral.writtenExponent + (numeral.whole.length - wholeTaken : Nat) - fractionTaken
  let magnitude := Double.ofNat word
  if word = 0 then some magnitude
  -- A word is below `10 ^ 20`, so four divisions leave nothing of it.
  else if power < 0 then some (divided magnitude 4 (-power).toNat)
  else if (powerLimit : Int) < power then none
  else
    let rank := Double.productRank magnitude (Double.ofDecimal false 1 power)
    if rank < Double.pastFinite then some (Double.ofRank false rank) else none

/-- The value of the numbers in a document; none when one is out of range. -/
abbrev Reading := Numeral → Option Double

def Reading.nearest : Reading := fun numeral =>
  if numeral.value.isFinite then some numeral.value else none

def Reading.leading : Reading := fun numeral =>
  numeral.leadingMagnitude?.map fun magnitude => { magnitude with negative := numeral.negative }

/-- The number, when it is spelled as an integer. A negative zero is not one. -/
def integer? (numeral : Numeral) : Option Int :=
  match numeral.fraction, numeral.exponent with
  | none, none =>
    if numeral.negative then
      if numeral.coefficient = 0 then none else some (-(numeral.coefficient : Int))
    else some numeral.coefficient
  | _, _ => none

def readDigits? (input : List Char) : Option (List Char × List Char) :=
  match input.takeWhile Char.isDigit with
  | [] => none
  | digits => some (digits, input.dropWhile Char.isDigit)

def readWhole? : List Char → Option (List Char × List Char)
  | [] => none
  | first :: rest => if first = '0' then some (['0'], rest) else readDigits? (first :: rest)

def readFraction? : List Char → Option (Option (List Char) × List Char)
  | [] => some (none, [])
  | first :: rest =>
    if first = '.' then (readDigits? rest).map fun (digits, rest) => (some digits, rest)
    else some (none, first :: rest)

def readSign : List Char → Option Char × List Char
  | [] => (none, [])
  | first :: rest => if first = '+' ∨ first = '-' then (some first, rest) else (none, first :: rest)

def readExponent? : List Char → Option (Option Exponent × List Char)
  | [] => some (none, [])
  | first :: rest =>
    if first = 'e' ∨ first = 'E' then
      let (sign, rest) := readSign rest
      (readDigits? rest).map fun (digits, rest) => (some ⟨first, sign, digits⟩, rest)
    else some (none, first :: rest)

/-- The numeral at the front of the input, by the grammar of JSON. -/
def read? (input : List Char) : Option (Numeral × List Char) := do
  let negative := input.head? = some '-'
  let (whole, rest) ← readWhole? (if negative then input.drop 1 else input)
  let (fraction, rest) ← readFraction? rest
  let (exponent, rest) ← readExponent? rest
  return (⟨negative, whole, fraction, exponent⟩, rest)

def ofText? (input : List Char) : Option Numeral :=
  match read? input with
  | some (numeral, []) => some numeral
  | _ => none

end Numeral

namespace Double

def named? (sign : Option Char) (name : List Char) : Option Double :=
  let name := name.map Char.toLower
  if name = "inf".toList ∨ name = "infinity".toList then some (Double.infinity (sign = some '-'))
  else if name = "nan".toList then some Double.nan
  else none

def ofText? (word : List Char) : Option Double :=
  let (sign, unsigned) := Numeral.readSign word
  let whole := unsigned.takeWhile Char.isDigit
  let (fraction, rest) := match unsigned.dropWhile Char.isDigit with
    | '.' :: rest => (rest.takeWhile Char.isDigit, rest.dropWhile Char.isDigit)
    | rest => ([], rest)
  if whole.isEmpty && fraction.isEmpty then named? sign unsigned
  else
    match Numeral.readExponent? rest with
    | some (exponent, []) =>
      some (⟨decide (sign = some '-'), whole, some fraction, exponent⟩ : Numeral).value
    | _ => none

end Double

end Modelsmith
