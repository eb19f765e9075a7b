import Mathlib.Algebra.Order.Field.Rat
import Mathlib.Tactic.FieldSimp
import Mathlib.Tactic.Linarith
import Mathlib.Tactic.NormNum
import Mathlib.Tactic.Positivity
import Mathlib.Tactic.Ring
import Modelsmith.Json.Basic
import Modelsmith.Proofs.Double.Layout

/-! How far the reading by leading digits is from the number that is spelled.

The digits that do not fit a word are dropped, and the word, the power of ten and their product are
each rounded. A number within the part `2 ^ -50` below `2 ^ 1024` or less is read, and one by that
part above it or more is not.
-/

set_option autoImplicit false

namespace Modelsmith

namespace Numeral

/-! ## Digits that fit a word -/

theorem digitValue_cons (digit : Char) (digits : List Char) :
    digitValue (digit :: digits) =
      (digit.toNat - '0'.toNat) * 10 ^ digits.length + digitValue digits := by
  have split := digitValue_append [digit] digits
  simpa [digitValue] using split

theorem digit_le {c : Char} (digit : c.isDigit = true) : c.toNat - '0'.toNat ≤ 9 := by
  have range : 48 ≤ c.toNat ∧ c.toNat ≤ 57 := by
    simpa [Char.isDigit, UInt32.le_iff_toNat_le] using digit
  have zero : '0'.toNat = 48 := rfl
  omega

theorem digitValue_lt {digits : List Char} (all : ∀ c ∈ digits, c.isDigit = true) :
    digitValue digits < 10 ^ digits.length := by
  induction digits with
  | nil => simp [digitValue]
  | cons digit digits ih =>
    have rest := ih fun c member => all c (by simp [member])
    have first := Nat.mul_le_mul_right (10 ^ digits.length) (digit_le (all digit (by simp)))
    rw [digitValue_cons, List.length_cons, Nat.pow_succ]
    omega

theorem absorb_eq {digits : List Char} (all : ∀ c ∈ digits, c.isDigit = true) (word taken : Nat) :
    ∃ count, absorb word taken digits =
        (word * 10 ^ count + digitValue (digits.take count), taken + count) ∧
      count ≤ digits.length ∧ (count = digits.length ∨
        2 ^ 60 ≤ word * 10 ^ count + digitValue (digits.take count)) := by
  induction digits generalizing word taken with
  | nil => exact ⟨0, by simp [absorb, digitValue], by simp, .inl rfl⟩
  | cons digit digits ih =>
    unfold absorb
    dsimp only
    split
    · obtain ⟨count, same, few, full⟩ := ih (fun c member => all c (by simp [member]))
        (10 * word + (digit.toNat - '0'.toNat)) (taken + 1)
      have joined : (10 * word + (digit.toNat - '0'.toNat)) * 10 ^ count +
          digitValue (digits.take count) =
          word * 10 ^ (count + 1) + digitValue ((digit :: digits).take (count + 1)) := by
        rw [List.take_succ_cons, digitValue_cons, List.length_take_of_le few]
        ring
      rw [joined] at same full
      exact ⟨count + 1, by rw [same, Nat.add_assoc, Nat.add_comm 1], by simpa using few,
        by simpa using full⟩
    · have small := digit_le (all digit (by simp))
      refine ⟨0, by simp [digitValue], by simp, .inr ?_⟩
      simp only [Nat.pow_zero, List.take_zero, digitValue, List.foldl_nil]
      omega

/-! ## The word and the number -/

def magnitude (numeral : Numeral) : ℚ := numeral.coefficient * (10 : ℚ) ^ numeral.scale

def leadingDigits (numeral : Numeral) : Nat × Int :=
  let whole := absorb 0 0 numeral.whole
  let all := absorb whole.1 0 (numeral.fraction.getD [])
  (all.1, numeral.writtenExponent + (numeral.whole.length - whole.2 : Nat) - all.2)

/-- Two numbers that differ by at most the part `2 ^ -bits`. -/
def Close (bits : ℕ) (first second : ℚ) : Prop :=
  2 ^ bits * first ≤ (2 ^ bits + 1) * second ∧ 2 ^ bits * second ≤ (2 ^ bits + 1) * first

theorem close_of_base {base first second places others : ℕ} {unit other : ℚ}
    (large : 2 ^ 60 ≤ base) (positive : 0 < unit) (same : 10 ^ places * unit = 10 ^ others * other)
    (firstBelow : first < 10 ^ places) (secondBelow : second < 10 ^ others) :
    Close 60 ((base * 10 ^ places + first : ℕ) * unit)
      ((base * 10 ^ others + second : ℕ) * other) := by
  have otherPositive : 0 < other := by
    have product : 0 < 10 ^ others * other := same ▸ by positivity
    exact (mul_pos_iff_of_pos_left (by positivity)).mp product
  have many : (2 : ℚ) ^ 60 * (10 ^ places * unit) ≤ base * (10 ^ places * unit) :=
    mul_le_mul_of_nonneg_right (by exact_mod_cast large) (by positivity)
  have firstHigh : (first : ℚ) * unit ≤ 10 ^ places * unit :=
    mul_le_mul_of_nonneg_right (by exact_mod_cast firstBelow.le) positive.le
  have secondHigh : (second : ℚ) * other ≤ 10 ^ others * other :=
    mul_le_mul_of_nonneg_right (by exact_mod_cast secondBelow.le) otherPositive.le
  have firstLow : 0 ≤ (first : ℚ) * unit := by positivity
  have secondLow : 0 ≤ (second : ℚ) * other := by positivity
  have firstSum : ((base * 10 ^ places + first : ℕ) : ℚ) * unit =
      base * (10 ^ places * unit) + first * unit := by push_cast; ring
  have secondSum : ((base * 10 ^ others + second : ℕ) : ℚ) * other =
      base * (10 ^ places * unit) + second * other := by rw [same]; push_cast; ring
  rw [← same] at secondHigh
  rw [Close, firstSum, secondSum]
  constructor <;> linarith

theorem close_refl (bits : ℕ) {number : ℚ} (nonneg : 0 ≤ number) : Close bits number number := by
  constructor <;> linarith

theorem digitValue_split {digits : List Char} (all : ∀ c ∈ digits, c.isDigit = true) (count : Nat) :
    ∃ rest < 10 ^ (digits.length - count),
      digitValue digits =
        digitValue (digits.take count) * 10 ^ (digits.length - count) + rest := by
  refine ⟨digitValue (digits.drop count), ?_, ?_⟩
  · rw [← List.length_drop]
    exact digitValue_lt fun c member => all c (List.mem_of_mem_drop member)
  · rw [← List.length_drop, ← digitValue_append, List.take_append_drop]

theorem leadingDigits_close {numeral : Numeral} (wellFormed : numeral.WellFormed) :
    Close 60 numeral.magnitude
      (numeral.leadingDigits.1 * (10 : ℚ) ^ numeral.leadingDigits.2) := by
  have fractionDigits : ∀ c ∈ numeral.fraction.getD [], c.isDigit = true := by
    cases written : numeral.fraction with
    | none => simp
    | some digits => exact (wellFormed.fraction digits written).2
  obtain ⟨wholeCount, wholeTaken, wholeFew, wholeFull⟩ := absorb_eq wellFormed.whole.1.2 0 0
  obtain ⟨wholeRest, wholeBelow, wholeSplit⟩ := digitValue_split wellFormed.whole.1.2 wholeCount
  simp only [Nat.zero_mul, Nat.zero_add] at wholeTaken wholeFull
  obtain ⟨count, taken, few, full⟩ :=
    absorb_eq fractionDigits (digitValue (numeral.whole.take wholeCount)) 0
  obtain ⟨rest, below, split⟩ := digitValue_split fractionDigits count
  have lastBelow := digitValue_lt fractionDigits
  have takenBelow := digitValue_lt fun c (member : c ∈ (numeral.fraction.getD []).take count) =>
    fractionDigits c (List.mem_of_mem_take member)
  rw [List.length_take_of_le few] at takenBelow
  simp only [magnitude, leadingDigits, wholeTaken, taken, coefficient, scale, Nat.zero_add,
    digitValue_append]
  -- From here on only the values of the pieces and their lengths count.
  generalize numeral.fraction.getD [] = fraction at *
  generalize digitValue (numeral.whole.take wholeCount) = word at *
  generalize digitValue (fraction.take count) = last at *
  generalize numeral.writtenExponent = exponent
  have ten : (10 : ℚ) ≠ 0 := by norm_num
  have positive : ∀ power : ℤ, (0 : ℚ) < 10 ^ power := fun power => zpow_pos (by norm_num) power
  have scaled : ∀ (places : ℕ) (power : ℤ), (10 : ℚ) ^ places * 10 ^ power = 10 ^ (places + power) :=
    fun places power => by rw [zpow_add₀ ten, zpow_natCast]
  rcases wholeFull with complete | large
  · -- Every digit before the point is taken, and only the last ones after it can be missing.
    rw [complete, Nat.sub_self] at wholeBelow wholeSplit
    have nothing : wholeRest = 0 := by omega
    have spelled : digitValue numeral.whole * 10 ^ fraction.length + digitValue fraction =
        (word * 10 ^ count + last) * 10 ^ (fraction.length - count) + rest := by
      rw [wholeSplit, split, nothing, ← Nat.sub_add_cancel few, Nat.pow_add, Nat.add_sub_cancel]
      ring
    rw [spelled, complete, Nat.sub_self]
    rcases full with all | large
    · have none : rest = 0 := by
        rw [all, Nat.sub_self] at below
        omega
      rw [none, all]
      simp only [Nat.sub_self, Nat.pow_zero, Nat.mul_one, Nat.cast_zero, add_zero]
      exact close_refl 60 (mul_nonneg (Nat.cast_nonneg _) (positive _).le)
    · have same : (10 : ℚ) ^ (fraction.length - count) * 10 ^ (exponent - fraction.length) =
          10 ^ 0 * 10 ^ (exponent - count) := by
        rw [scaled, scaled]
        congr 1
        omega
      simpa using close_of_base large (positive _) same below Nat.one_pos
  · have spelled : digitValue numeral.whole * 10 ^ fraction.length + digitValue fraction =
        word * 10 ^ (numeral.whole.length - wholeCount + fraction.length) +
          (wholeRest * 10 ^ fraction.length + digitValue fraction) := by
      rw [wholeSplit, Nat.pow_add]
      ring
    rw [spelled]
    refine close_of_base large (positive _) ?_ ?_ takenBelow
    · rw [scaled, scaled]
      congr 1
      push_cast
      omega
    · rw [Nat.pow_add]
      nlinarith

theorem absorb_lt {word : Nat} (small : word < 2 ^ 64) (taken : Nat) (digits : List Char) :
    (absorb word taken digits).1 < 2 ^ 64 := by
  fun_induction absorb word taken digits with
  | case1 => exact small
  | case2 word taken digit rest next fits ih => exact ih fits
  | case3 => exact small

theorem leadingDigits_lt (numeral : Numeral) : numeral.leadingDigits.1 < 2 ^ 64 :=
  absorb_lt (absorb_lt (by decide) 0 _) 0 _

theorem leadingMagnitude?_eq (numeral : Numeral) :
    numeral.leadingMagnitude? =
      if numeral.leadingDigits.1 = 0 then some (Double.ofNat numeral.leadingDigits.1)
      else if numeral.leadingDigits.2 < 0 then
        some (divided (Double.ofNat numeral.leadingDigits.1) 4 (-numeral.leadingDigits.2).toNat)
      else if (powerLimit : Int) < numeral.leadingDigits.2 then none
      else if Double.productRank (.ofNat numeral.leadingDigits.1)
          (.ofDecimal false 1 numeral.leadingDigits.2) < Double.pastFinite then
        some (Double.ofRank false (Double.productRank (.ofNat numeral.leadingDigits.1)
          (.ofDecimal false 1 numeral.leadingDigits.2)))
      else none := rfl

theorem leading_isSome_iff (numeral : Numeral) :
    (Reading.leading numeral).isSome = true ↔
      numeral.leadingDigits.1 = 0 ∨ numeral.leadingDigits.2 < 0 ∨
        (numeral.leadingDigits.2 ≤ powerLimit ∧
          Double.productRank (.ofNat numeral.leadingDigits.1)
            (.ofDecimal false 1 numeral.leadingDigits.2) < Double.pastFinite) := by
  rw [Reading.leading, Option.isSome_map, leadingMagnitude?_eq]
  split
  · simp_all
  split
  · simp_all
  split
  · simp_all
  · split <;> simp_all

end Numeral

namespace Double

/-! ## The product of a word and a power of ten -/

theorem unitsAt_top {below : ℕ} (few : below ≤ 2 ^ 52) :
    unitsAt (pastFinite - below) = (2 ^ 53 - below) * 2 ^ 971 * 2 ^ 1074 := by
  rw [show pastFinite - below = 2045 * 2 ^ 52 + (2 ^ 53 - below) by simp only [pastFinite]; omega,
    unitsAt_scaled 2045 (2 ^ 53 - below) (by omega) (by omega), Nat.mul_assoc, ← Nat.pow_add]

/-- The distance between the largest doubles. -/
def coarsest : ℚ := 2 ^ 971

theorem word_lt_coarsest : 2 ^ 64 < coarsest :=
  pow_lt_pow_right₀ (by norm_num) (by norm_num)

theorem coarsest_le_ten_pow : 2 ^ 53 * coarsest ≤ 10 ^ 309 := by
  have whole : ((2 ^ 53 * 2 ^ 971 : ℕ) : ℚ) ≤ (10 ^ 309 : ℕ) := Nat.cast_le.mpr (by decide +kernel)
  simpa only [coarsest, Nat.cast_mul, Nat.cast_pow, Nat.cast_ofNat] using whole

def size (value : Double) : ℚ := value.units / 2 ^ 1074

theorem size_nonneg (value : Double) : 0 ≤ value.size :=
  div_nonneg (Nat.cast_nonneg _) (by positivity)

theorem decimalRank_whole (coefficient power : ℕ) :
    decimalRank coefficient power = nearestRank (coefficient * 10 ^ power * 2 ^ 1074) 1 := by
  simp [decimalRank]

theorem decimalRank_lt {coefficient power : ℕ}
    (small : coefficient * 10 ^ power < (2 ^ 53 - 1) * 2 ^ 971) :
    decimalRank coefficient power < pastFinite := by
  rw [decimalRank_whole]
  refine Nat.lt_of_le_pred (by decide) (nearestRank_le_of_lt Nat.one_pos ?_)
  rw [Nat.pred_eq_sub_one, unitsAt_top (by decide), Nat.mul_one]
  exact Nat.mul_lt_mul_of_pos_right small (Nat.two_pow_pos _)

theorem size_ofDecimal {coefficient power : ℕ} (positive : 0 < coefficient)
    (small : coefficient * 10 ^ power < (2 ^ 53 - 1) * 2 ^ 971) :
    Numeral.Close 53 (ofDecimal false coefficient power).size (coefficient * 10 ^ power) := by
  have product : 0 < coefficient * 10 ^ power := Nat.mul_pos positive (Nat.pow_pos (by decide))
  have large : 2 ^ 53 * 1 ≤ coefficient * 10 ^ power * 2 ^ 1074 := by
    rw [Nat.mul_one, ← Nat.one_mul (2 ^ 53)]
    exact Nat.mul_le_mul product
      (Nat.pow_le_pow_right (show 0 < 2 by decide) (show 53 ≤ 1074 by decide))
  obtain ⟨low, high⟩ := nearestRank_close Nat.one_pos large
  rw [Nat.one_mul, ← decimalRank_whole] at low high
  rw [size, units, ofDecimal_eq, rank_ofRank (decimalRank_lt small)]
  generalize unitsAt (decimalRank coefficient power) = units at *
  have unit : (0 : ℚ) < 2 ^ 1074 := by positivity
  constructor
  · rw [← mul_div_assoc, div_le_iff₀ unit]
    have cast : (2 : ℚ) ^ 53 * units ≤ (2 ^ 53 + 1) * (coefficient * 10 ^ power * 2 ^ 1074) := by
      exact_mod_cast low
    linarith
  · rw [← mul_div_assoc, le_div_iff₀ unit]
    have cast : (2 : ℚ) ^ 53 * (coefficient * 10 ^ power * 2 ^ 1074) ≤ (2 ^ 53 + 1) * units := by
      exact_mod_cast high
    linarith

theorem units_mul_units (left right : Double) :
    (left.units * right.units : ℚ) = left.size * right.size * 2 ^ 1074 * 2 ^ 1074 := by
  rw [size, size]
  field_simp

theorem productRank_lt {left right : Double}
    (small : left.size * right.size < (2 ^ 53 - 1) * coarsest) :
    productRank left right < pastFinite := by
  refine Nat.lt_of_le_pred (by decide) (nearestRank_le_of_lt (Nat.two_pow_pos _) ?_)
  rw [Nat.pred_eq_sub_one, unitsAt_top (by decide), ← @Nat.cast_lt ℚ]
  rw [show 2 ^ 53 - 1 = 9007199254740991 from rfl]
  push_cast
  rw [units_mul_units]
  refine mul_lt_mul_of_pos_right (mul_lt_mul_of_pos_right ?_ (by positivity)) (by positivity)
  exact lt_of_lt_of_eq small (by norm_num [coarsest])

theorem pastFinite_le_productRank {left right : Double}
    (large : 2 ^ 53 * coarsest ≤ left.size * right.size) :
    pastFinite ≤ productRank left right := by
  refine pastFinite_le_nearestRank (Nat.two_pow_pos _) ?_
  rw [← @Nat.cast_le ℚ]
  push_cast
  rw [units_mul_units]
  refine mul_le_mul_of_nonneg_right (mul_le_mul_of_nonneg_right ?_ (by positivity)) (by positivity)
  exact le_of_eq_of_le (by rw [coarsest, ← pow_add]) large

end Double

namespace Numeral

/-! ## Where the reading ends -/

theorem Close.mul {bits : ℕ} {first second third fourth : ℚ} (left : Close bits first second)
    (right : Close bits third fourth) (first_nonneg : 0 ≤ first) (second_nonneg : 0 ≤ second)
    (third_nonneg : 0 ≤ third) (fourth_nonneg : 0 ≤ fourth) :
    2 ^ bits * 2 ^ bits * (first * third) ≤ (2 ^ bits + 1) * (2 ^ bits + 1) * (second * fourth) ∧
      2 ^ bits * 2 ^ bits * (second * fourth) ≤
        (2 ^ bits + 1) * (2 ^ bits + 1) * (first * third) := by
  have below := mul_le_mul left.1 right.1 (by positivity) (by positivity)
  have above := mul_le_mul left.2 right.2 (by positivity) (by positivity)
  exact ⟨by linarith, by linarith⟩

theorem ten_pow_small {power : ℕ} (inTable : power ≤ powerLimit) :
    1 * 10 ^ power < (2 ^ 53 - 1) * 2 ^ 971 := by
  rw [Nat.one_mul]
  exact Nat.lt_of_le_of_lt (Nat.pow_le_pow_right (by decide) inTable) (by decide +kernel)

theorem size_mul_size {word power : ℕ} (positive : 0 < word) (bounded : word < 2 ^ 64)
    (inTable : power ≤ powerLimit) :
    2 ^ 53 * 2 ^ 53 * ((Double.ofNat word).size * (Double.ofDecimal false 1 power).size) ≤
        (2 ^ 53 + 1) * (2 ^ 53 + 1) * (word * 10 ^ power) ∧
      2 ^ 53 * 2 ^ 53 * (word * 10 ^ power) ≤ (2 ^ 53 + 1) * (2 ^ 53 + 1) *
        ((Double.ofNat word).size * (Double.ofDecimal false 1 power).size) := by
  have wordSmall : word * 10 ^ 0 < (2 ^ 53 - 1) * 2 ^ 971 := by
    rw [Nat.pow_zero, Nat.mul_one]
    exact Nat.lt_trans bounded (by decide +kernel)
  have close := (Double.size_ofDecimal positive wordSmall).mul
    (Double.size_ofDecimal Nat.one_pos (ten_pow_small inTable)) (Double.size_nonneg _) (by positivity)
    (Double.size_nonneg _) (by positivity)
  simpa only [Double.ofNat, pow_zero, mul_one, Nat.cast_one, Nat.cast_zero, one_mul] using close

theorem leading_isSome {numeral : Numeral} (wellFormed : numeral.WellFormed)
    (small : numeral.magnitude ≤ (2 ^ 53 - 4) * Double.coarsest) :
    (Reading.leading numeral).isSome = true := by
  rw [leading_isSome_iff]
  have close := leadingDigits_close wellFormed
  have bounded := leadingDigits_lt numeral
  have unit := Double.word_lt_coarsest
  generalize numeral.leadingDigits = digits at close bounded ⊢
  obtain ⟨word, scale⟩ := digits
  dsimp only at close bounded ⊢
  rcases Nat.eq_zero_or_pos word with zero | positive
  · exact .inl zero
  rcases lt_or_ge scale 0 with negative | nonneg
  · exact .inr (.inl negative)
  obtain ⟨power, rfl⟩ := Int.eq_ofNat_of_zero_le nonneg
  have kept : 2 ^ 60 * (word * 10 ^ power : ℚ) ≤ (2 ^ 60 + 1) * ((2 ^ 53 - 4) * Double.coarsest) :=
    le_trans (by simpa using close.2) (mul_le_mul_of_nonneg_left small (by positivity))
  have inTable : power ≤ powerLimit := by
    by_contra beyond
    have high : (1 : ℚ) * 10 ^ 309 ≤ word * 10 ^ power :=
      mul_le_mul (by exact_mod_cast positive)
        (pow_le_pow_right₀ (by norm_num) (Nat.lt_of_not_le beyond)) (by positivity) (by positivity)
    have top := Double.coarsest_le_ten_pow
    generalize (10 : ℚ) ^ 309 = power at high top
    linarith
  refine .inr (.inr ⟨Int.ofNat_le.mpr inTable, Double.productRank_lt ?_⟩)
  linarith [(size_mul_size positive bounded inTable).1]

theorem leading_eq_none {numeral : Numeral} (wellFormed : numeral.WellFormed)
    (large : (2 ^ 53 + 4) * Double.coarsest ≤ numeral.magnitude) :
    Reading.leading numeral = none := by
  rw [← Option.not_isSome_iff_eq_none, leading_isSome_iff]
  have close := leadingDigits_close wellFormed
  have bounded := leadingDigits_lt numeral
  have unit := Double.word_lt_coarsest
  generalize numeral.leadingDigits = digits at close bounded ⊢
  obtain ⟨word, scale⟩ := digits
  dsimp only at close bounded ⊢
  have kept : 2 ^ 60 * ((2 ^ 53 + 4) * Double.coarsest) ≤ (2 ^ 60 + 1) * (word * (10 : ℚ) ^ scale) :=
    le_trans (mul_le_mul_of_nonneg_left large (by positivity)) close.1
  rcases Nat.eq_zero_or_pos word with rfl | positive
  · rw [Nat.cast_zero, zero_mul] at kept
    linarith
  rcases lt_or_ge scale 0 with negative | nonneg
  · have fits : (word : ℚ) * 10 ^ scale ≤ 2 ^ 64 * 1 :=
      mul_le_mul (by exact_mod_cast bounded.le)
        (zpow_le_one_of_nonpos₀ (by norm_num) (le_of_lt negative))
        (zpow_nonneg (by norm_num) _) (by norm_num)
    linarith
  obtain ⟨power, rfl⟩ := Int.eq_ofNat_of_zero_le nonneg
  rintro (zero | negative | ⟨inTable, finite⟩)
  · omega
  · omega
  · refine Nat.not_le_of_lt finite (Double.pastFinite_le_productRank ?_)
    rw [zpow_natCast] at kept
    linarith [(size_mul_size positive bounded (Int.ofNat_le.mp inTable)).2]

theorem magnitude_mul (numeral : Numeral) :
    numeral.magnitude * 10 ^ (-numeral.scale).toNat = numeral.coefficient * 10 ^ numeral.scale.toNat := by
  have powers : numeral.scale + (-numeral.scale).toNat = numeral.scale.toNat := by omega
  rw [magnitude, mul_assoc, ← zpow_natCast, ← zpow_add₀ (by norm_num), powers, zpow_natCast]

theorem magnitude_le_of_rank {numeral : Numeral}
    (below : numeral.value.rank < Double.pastFinite - 4) :
    numeral.magnitude ≤ (2 ^ 53 - 4) * Double.coarsest := by
  by_contra large
  have units : Double.unitsAt (Double.pastFinite - 4) * 10 ^ (-numeral.scale).toNat ≤
      numeral.coefficient * 10 ^ numeral.scale.toNat * 2 ^ 1074 := by
    have scaled := mul_le_mul_of_nonneg_right (le_of_not_ge large)
      (show (0 : ℚ) ≤ 10 ^ (-numeral.scale).toNat by positivity)
    rw [magnitude_mul] at scaled
    rw [Double.unitsAt_top (by decide), Nat.mul_right_comm]
    refine Nat.mul_le_mul_right _ ?_
    rw [← @Nat.cast_le ℚ, show 2 ^ 53 - 4 = 9007199254740988 from rfl]
    push_cast
    exact le_of_eq_of_le (by rw [Double.coarsest]; norm_num) scaled
  have high : Double.pastFinite - 4 ≤ Double.decimalRank numeral.coefficient numeral.scale :=
    Double.le_nearestRank_of_le (Nat.pow_pos (by decide)) units
  rw [value, Double.ofDecimal_eq] at below
  rcases Nat.lt_or_ge (Double.decimalRank numeral.coefficient numeral.scale) Double.pastFinite
    with finite | infinite
  · rw [Double.rank_ofRank finite] at below
    omega
  · rw [Double.ofRank_of_le _ infinite] at below
    exact absurd below (by cases numeral.negative <;> decide)

theorem leading_exact_last : ∀ last < 4, ∀ negative : Bool, (Reading.leading (Double.Layout.exact.numeral
    (Double.ofRank negative (Double.pastFinite - 4 + last)))).isSome = true := by
  decide +kernel

theorem leading_exact {value : Double} (finite : value.isFinite = true) :
    (Reading.leading (Double.Layout.exact.numeral value)).isSome = true := by
  rcases Nat.lt_or_ge value.rank (Double.pastFinite - 4) with below | last
  · refine leading_isSome (Double.Layout.exact.numeral_wellFormed finite) (magnitude_le_of_rank ?_)
    rwa [Double.Layout.exact.value_numeral finite]
  · have bounded := Double.rank_lt_pastFinite finite
    have listed := leading_exact_last (value.rank - (Double.pastFinite - 4)) (by omega) value.negative
    rwa [Nat.add_sub_cancel' last, Double.ofRank_rank finite] at listed

end Numeral

/-! ## What is read is finite -/

namespace Double

theorem nearestRank_le_of_le {numerator denominator rank : Nat} (positive : 0 < denominator)
    (below : numerator ≤ unitsAt rank * denominator) : nearestRank numerator denominator ≤ rank := by
  rcases Nat.lt_or_eq_of_le below with less | same
  · exact nearestRank_le_of_lt positive less
  · rw [same, nearestRank_unitsAt rank denominator positive]

theorem unit_le_units_ten_pow {power : ℕ} (inTable : power ≤ Numeral.powerLimit) :
    2 ^ 1074 ≤ (ofDecimal false 1 power).units := by
  have small := Numeral.ten_pow_small inTable
  obtain ⟨one, -, isOne⟩ := exists_unitsAt_eq Nat.one_pos (by decide)
  rw [Nat.one_mul] at isOne
  have above : one ≤ decimalRank 1 power := by
    rw [decimalRank_whole]
    refine le_nearestRank_of_le Nat.one_pos ?_
    rw [Nat.mul_one, isOne, Nat.one_mul]
    exact Nat.le_mul_of_pos_left _ (Nat.pow_pos (by decide))
  rw [units, ofDecimal_eq, rank_ofRank (decimalRank_lt small), ← isOne]
  exact unitsAt_mono above

end Double

namespace Numeral

theorem isFinite_divided {magnitude : Double} (finite : magnitude.isFinite = true)
    (fuel power : ℕ) : (divided magnitude fuel power).isFinite = true := by
  induction fuel generalizing magnitude power with
  | zero => exact finite
  | succ fuel ih =>
    have unit := Double.unit_le_units_ten_pow (Nat.min_le_right power powerLimit)
    have smaller : Double.quotientRank magnitude (.ofDecimal false 1 (min power powerLimit : ℕ)) <
        Double.pastFinite := by
      refine Nat.lt_of_le_of_lt (Double.nearestRank_le_of_le ?_ ?_) (Double.rank_lt_pastFinite finite)
      · exact Nat.lt_of_lt_of_le (Nat.two_pow_pos _) unit
      · exact Nat.mul_le_mul_left _ unit
    rw [divided]
    split
    · exact Double.isFinite_ofRank smaller
    · exact ih (Double.isFinite_ofRank smaller) _

theorem isFinite_of_leading {numeral : Numeral} {value : Double}
    (read : Reading.leading numeral = some value) : value.isFinite = true := by
  obtain ⟨magnitude, found, rfl⟩ := Option.map_eq_some_iff.mp read
  have word : (Double.ofNat numeral.leadingDigits.1).isFinite = true := by
    rw [Double.ofNat, Double.ofDecimal_eq]
    refine Double.isFinite_ofRank (@Double.decimalRank_lt _ 0 ?_)
    rw [Nat.pow_zero, Nat.mul_one]
    exact Nat.lt_trans (leadingDigits_lt numeral) (by decide +kernel)
  change magnitude.isFinite = true
  rw [leadingMagnitude?_eq] at found
  split at found
  · exact Option.some.inj found ▸ word
  split at found
  · exact Option.some.inj found ▸ isFinite_divided word _ _
  split at found
  · cases found
  split at found
  next finite => exact Option.some.inj found ▸ Double.isFinite_ofRank finite
  next => cases found

end Numeral

namespace Json

theorem isFinite_of_double? {json : Json} {value : Double}
    (read : json.double? .leading = some value) : value.isFinite = true := by
  cases json with
  | number numeral => exact Numeral.isFinite_of_leading read
  | _ => cases read

theorem forall_of_list? {Item : Type} {decode : Json → Option Item} {holds : Item → Prop}
    (each : ∀ {json value}, decode json = some value → holds value) {json : Json} {values : List Item}
    (read : json.list? decode = some values) : ∀ value ∈ values, holds value := by
  cases json with
  | array items =>
    rw [list?] at read
    induction items generalizing values with
    | nil =>
      cases read
      simp
    | cons item items ih =>
      simp only [List.mapM_cons, Option.bind_eq_bind, Option.bind_eq_some_iff] at read
      obtain ⟨first, ofFirst, rest, ofRest, equal⟩ := read
      cases equal
      exact List.forall_mem_cons.mpr ⟨each ofFirst, ih ofRest⟩
  | _ => cases read

end Json

end Modelsmith
