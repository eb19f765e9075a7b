import Modelsmith.Double.Shortest
import Modelsmith.Numeral

/-! Doubles as numerals: the shortest digits under a layout, and a set number of places. -/

set_option autoImplicit false

namespace Modelsmith.Double

structure Layout where
  tie : Tie
  /-- Whether a number just below `10 ^ magnitude` is written without an exponent. -/
  plain : (magnitude : Int) → Bool
  wholePoint : Bool
  plusSign : Bool
  nanText : String
  infinityText : (negative : Bool) → String

/-- Plain from `0.0001` to below `10 ^ 16`, always with a point; else an unsigned exponent. -/
def Layout.exact : Layout where
  tie := .toLarger
  plain magnitude := decide (-3 ≤ magnitude ∧ magnitude ≤ 16)
  wholePoint := true
  plusSign := false
  nanText := "NaN"
  infinityText negative := if negative then "-inf" else "inf"

/-- Never an exponent, and no point in a whole number. -/
def Layout.positional : Layout where
  tie := .toLarger
  plain _ := true
  wholePoint := false
  plusSign := false
  nanText := "NaN"
  infinityText negative := if negative then "-inf" else "inf"

/-- Plain from `0.00001` to below `10 ^ 16`, always with a point; else a signed exponent. A tie
goes to the even digit. What is no number is written as an absent value. -/
def Layout.document : Layout where
  tie := .toEven
  plain magnitude := decide (-4 ≤ magnitude ∧ magnitude ≤ 16)
  wholePoint := true
  plusSign := true
  nanText := "null"
  infinityText _ := "null"

/-- Digits with the point after the first `whole` of them; zeros fill the gap on either side. -/
def Layout.positionalNumeral (layout : Layout) (negative : Bool) (digits : List Char)
    (whole : Int) : Numeral :=
  if whole ≤ 0 then ⟨negative, ['0'], some (List.replicate (-whole).toNat '0' ++ digits), none⟩
  else if digits.length ≤ whole.toNat then
    ⟨negative, digits ++ List.replicate (whole.toNat - digits.length) '0',
      if layout.wholePoint then some ['0'] else none, none⟩
  else ⟨negative, digits.take whole.toNat, some (digits.drop whole.toNat), none⟩

def Layout.exponentNumeral (layout : Layout) (negative : Bool) (digits : List Char)
    (exponent : Int) : Numeral :=
  ⟨negative, digits.take 1, if digits.length ≤ 1 then none else some (digits.drop 1),
    some ⟨'e', if exponent < 0 then some '-' else if layout.plusSign then some '+' else none,
      digitText exponent.natAbs⟩⟩

def Layout.numeral (layout : Layout) (value : Double) : Numeral :=
  if value.rank = 0 then layout.positionalNumeral value.negative ['0'] 1
  else
    let decimal := value.shortest layout.tie
    let digits := digitText decimal.digits
    if layout.plain decimal.magnitude then
      layout.positionalNumeral value.negative digits decimal.magnitude
    else layout.exponentNumeral value.negative digits (decimal.magnitude - 1)

def Layout.render (layout : Layout) (value : Double) : List Char :=
  if value.isNaN then layout.nanText.toList
  else if !value.isFinite then (layout.infinityText value.negative).toList
  else (layout.numeral value).text

def roundHalfEven (numerator denominator : Nat) : Nat :=
  let floor := numerator / denominator
  let rest := 2 * (numerator % denominator)
  if denominator < rest then floor + 1
  else if rest = denominator ∧ floor % 2 = 1 then floor + 1
  else floor

def placesNumeral (negative : Bool) (scaled places : Nat) : Numeral :=
  let digits := digitText scaled
  let padded := List.replicate (places + 1 - digits.length) '0' ++ digits
  let whole := padded.length - places
  ⟨negative, padded.take whole, if places = 0 then none else some (padded.drop whole), none⟩

def longestFraction : Nat := 1074

/-- Exactly `places` digits after the point, rounded from the exact value. The sign stays even
when every digit is zero. Behind the longest fraction there are only zeros. -/
def fixedNumeral (places : Nat) (value : Double) : Numeral :=
  let told := min places longestFraction
  let numeral :=
    placesNumeral value.negative (roundHalfEven (value.units * 10 ^ told) (2 ^ 1074)) told
  { numeral with
    fraction := numeral.fraction.map fun digits => digits ++ List.replicate (places - told) '0' }

def fixed (places : Nat) (value : Double) : List Char :=
  if value.isFinite then (value.fixedNumeral places).text else Layout.exact.render value

def scientificNumeral (places : Nat) (value : Double) : Numeral :=
  let exponent : Int := if value.rank = 0 then 0 else value.magnitude - 1
  let shift := places - exponent
  let scaled := roundHalfEven (value.units * 10 ^ shift.toNat) (2 ^ 1074 * 10 ^ (-shift).toNat)
  -- A value rounded up to one digit more is the next power of ten.
  let carried := 10 ^ (places + 1) ≤ scaled
  let exponent := if carried then exponent + 1 else exponent
  { placesNumeral value.negative (if carried then scaled / 10 else scaled) places with
    exponent := some ⟨'e', if exponent < 0 then some '-' else none, digitText exponent.natAbs⟩ }

def scientific (places : Nat) (value : Double) : List Char :=
  if value.isFinite then (value.scientificNumeral places).text else Layout.exact.render value

end Modelsmith.Double
