import Modelsmith.Double.Basic

/-! Exact ratios and decimals rounded to the nearest double, halves to the even rank. -/

set_option autoImplicit false

namespace Modelsmith.Double

def rankBelow (whole : Nat) : Nat :=
  let shift := whole.log2 - 52
  shift * 2 ^ 52 + whole / 2 ^ shift

def nearestRank (numerator denominator : Nat) : Nat :=
  let below := rankBelow (numerator / denominator)
  -- Twice the number halfway to the next rank.
  let halfway := denominator * (unitsAt below + unitsAt (below + 1))
  if halfway < 2 * numerator then below + 1
  else if halfway = 2 * numerator ∧ below % 2 = 1 then below + 1
  else below

/-- The exponent from which every whole coefficient overflows, and below whose opposite every
one-digit coefficient vanishes. -/
def decimalBound : Nat := 400

/-- The double nearest to `coefficient * 10 ^ exponent`; infinite past the largest one.

The two early answers keep powers of ten small and agree with the general rule. -/
def ofDecimal (negative : Bool) (coefficient : Nat) (exponent : Int) : Double :=
  if coefficient = 0 then ofRank negative 0
  else if (decimalBound : Int) ≤ exponent then infinity negative
  else if exponent + coefficient.log2 + 1 ≤ -(decimalBound : Int) then ofRank negative 0
  else if 0 ≤ exponent then
    ofRank negative (nearestRank (coefficient * 10 ^ exponent.toNat * 2 ^ 1074) 1)
  else ofRank negative (nearestRank (coefficient * 2 ^ 1074) (10 ^ (-exponent).toNat))

def ofNat (value : Nat) : Double := ofDecimal false value 0

def productRank (left right : Double) : Nat := nearestRank (left.units * right.units) (2 ^ 1074)

def quotientRank (left right : Double) : Nat := nearestRank (left.units * 2 ^ 1074) right.units

end Modelsmith.Double
