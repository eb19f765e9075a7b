import Modelsmith.Double.Rounding

/-! The decimal with the fewest digits that rounds back to a given double. -/

set_option autoImplicit false

namespace Modelsmith

structure Decimal where
  digits : Nat
  exponent : Int
  deriving DecidableEq

namespace Decimal

def digitCount (value : Nat) : Nat := if value = 0 then 0 else (Nat.toDigits 10 value).length

def trim : (fuel : Nat) → Decimal → Decimal
  | 0, value => value
  | fuel + 1, value =>
    if value.digits ≠ 0 ∧ value.digits % 10 = 0 then
      trim fuel ⟨value.digits / 10, value.exponent + 1⟩
    else value

def normalize (value : Decimal) : Decimal := value.trim (digitCount value.digits)

def magnitude (value : Decimal) : Int := digitCount value.digits + value.exponent

end Decimal

namespace Double

def readsBack (value : Double) (candidate : Decimal) : Bool :=
  ofDecimal value.negative candidate.digits candidate.exponent = value

def exactDecimal (value : Double) : Decimal := ⟨value.units * 5 ^ 1074, -1074⟩

/-- The power of ten that just exceeds the magnitude, found on a grid finer than every double. -/
def magnitude (value : Double) : Int :=
  Decimal.digitCount (value.units * 10 ^ decimalBound / 2 ^ 1074) - decimalBound

inductive Tie where
  | toLarger
  | toEven
  deriving DecidableEq

def Tie.prefersBelow (tie : Tie) (below : Decimal) : Bool :=
  match tie with
  | .toLarger => false
  | .toEven => below.digits % 2 = 0

/-- The two neighbours of the magnitude on the grid of multiples of `10 ^ exponent`, nearer one
first. -/
def neighbours (value : Double) (tie : Tie) (exponent : Int) : List Decimal :=
  let numerator := value.units * 10 ^ (-exponent).toNat
  let denominator := 2 ^ 1074 * 10 ^ exponent.toNat
  let below : Decimal := ⟨numerator / denominator, exponent⟩
  let above : Decimal := ⟨numerator / denominator + 1, exponent⟩
  let rest := 2 * (numerator % denominator)
  if rest < denominator then [below, above]
  else if rest = denominator && tie.prefersBelow below then [below, above]
  else [above, below]

/-- The first decimal that reads back: fewest digits first, and the nearer neighbour first. -/
def firstReadingBack? (value : Double) (tie : Tie) : Option Decimal :=
  let magnitude := value.magnitude
  (List.range 17).findSome? fun (spare : Nat) =>
    (value.neighbours tie (magnitude - (spare + 1))).find? value.readsBack

/-- The fewest digits that read back. Seventeen are enough for every double, so the full
expansion is never reached. -/
def shortest (value : Double) (tie : Tie) : Decimal :=
  ((value.firstReadingBack? tie).getD value.exactDecimal).normalize

end Double

end Modelsmith
