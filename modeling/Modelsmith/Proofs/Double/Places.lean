import Modelsmith.Proofs.Numeral.Leading

/-! A set number of places: the nearest multiple of the last place, its digits and its order.

With fixed places every finite double is read by its leading digits, but for the largest one: all
digits of its magnitude are written, and they overflow where its shortest digits do not.
-/

set_option autoImplicit false

namespace Modelsmith

namespace Double

/-! ## The nearest whole number -/

theorem roundHalfEven_mono {first second denominator : ℕ} (positive : 0 < denominator)
    (le : first ≤ second) : roundHalfEven first denominator ≤ roundHalfEven second denominator := by
  refine Nat.le_of_not_lt fun less => ?_
  obtain ⟨-, low, lowEven⟩ := roundHalfEven_bounds first positive
  obtain ⟨high, -, highEven⟩ := roundHalfEven_bounds second positive
  -- Both are halfway between the same two whole numbers, and only one of these is even.
  have apart := Nat.mul_le_mul_right denominator (Nat.succ_le_of_lt less)
  rw [Nat.succ_eq_add_one, Nat.succ_mul] at apart
  have firstEven := lowEven (by omega)
  have secondEven := highEven (by omega)
  have apart := Nat.mul_le_mul_right denominator
    (show roundHalfEven second denominator + 2 ≤ roundHalfEven first denominator by omega)
  rw [Nat.add_mul] at apart
  omega

/-- The whole number nearest to a number, the even one where two are as near. -/
structure NearestWhole (number : ℚ) (count : ℕ) : Prop where
  near : 2 * |(count : ℚ) - number| ≤ 1
  even : 2 * |(count : ℚ) - number| = 1 → count % 2 = 0

theorem nearestWhole_roundHalfEven (numerator : ℕ) {denominator : ℕ} (positive : 0 < denominator) :
    NearestWhole (numerator / denominator) (roundHalfEven numerator denominator) := by
  obtain ⟨low, high, even⟩ := roundHalfEven_bounds numerator positive
  have unit : (0 : ℚ) < denominator := Nat.cast_pos.mpr positive
  have scaled : 2 * |(roundHalfEven numerator denominator : ℚ) - numerator / denominator| *
      denominator = |2 * (roundHalfEven numerator denominator * denominator : ℚ) - 2 * numerator| := by
    rw [← abs_of_pos unit, mul_assoc, ← abs_mul, abs_of_pos unit, sub_mul, div_mul_cancel₀ _ unit.ne',
      ← mul_sub, abs_mul, abs_of_pos (show (0 : ℚ) < 2 by norm_num)]
  have lowCast : (2 * numerator : ℚ) ≤
      2 * (roundHalfEven numerator denominator * denominator) + denominator := by exact_mod_cast low
  have highCast : (2 * (roundHalfEven numerator denominator * denominator) : ℚ) ≤
      2 * numerator + denominator := by exact_mod_cast high
  constructor
  · rw [← mul_le_mul_iff_left₀ unit, scaled, one_mul, abs_le]
    constructor <;> linarith
  · intro tie
    rw [tie, one_mul] at scaled
    refine even ?_
    rcases abs_eq unit.le |>.mp scaled.symm with above | below
    · right
      have same : (2 * (roundHalfEven numerator denominator * denominator) : ℚ) =
        2 * numerator + denominator := by linarith
      exact_mod_cast same
    · left
      have same : (2 * numerator : ℚ) =
        2 * (roundHalfEven numerator denominator * denominator) + denominator := by linarith
      exact_mod_cast same

theorem NearestWhole.eq_of_whole {whole count : ℕ} (nearest : NearestWhole whole count) :
    count = whole := by
  obtain ⟨low, high⟩ := abs_le.mp (show |(count - whole : ℚ)| ≤ 1 / 2 by linarith [nearest.near])
  have below : (whole : ℚ) < count + 1 := by linarith
  have above : (count : ℚ) < whole + 1 := by linarith
  have lower : whole < count + 1 := by exact_mod_cast below
  have upper : count < whole + 1 := by exact_mod_cast above
  omega

theorem nearestWhole_self (count : ℕ) : NearestWhole count count :=
  ⟨by simp, by simp⟩

/-! ## Fixed places -/

theorem magnitude_fixedNumeral (places : ℕ) (value : Double) :
    (value.fixedNumeral places).magnitude =
      roundHalfEven (value.units * 10 ^ min places longestFraction) (2 ^ 1074) /
        10 ^ min places longestFraction := by
  obtain ⟨zeros, written, scaled⟩ := value.fixedNumeral_digits places
  generalize roundHalfEven (value.units * 10 ^ min places longestFraction) (2 ^ 1074) = units at *
  generalize min places longestFraction = told at *
  rw [Numeral.magnitude, written, scaled, zpow_sub₀ (by norm_num), zpow_neg, zpow_natCast,
    zpow_natCast]
  push_cast
  field_simp

theorem fraction_fixedNumeral (places : ℕ) (value : Double) :
    (places = 0 ∧ (value.fixedNumeral places).fraction = none) ∨
      ∃ digits, (value.fixedNumeral places).fraction = some digits ∧ digits.length = places ∧
        0 < places := by
  unfold fixedNumeral
  dsimp only
  generalize roundHalfEven _ _ = scaled
  rcases fraction_placesNumeral value.negative scaled (min places longestFraction) with
    ⟨zero, none⟩ | ⟨digits, some, length, areDigits⟩
  · left
    refine ⟨?_, by rw [none]; rfl⟩
    rw [longestFraction] at zero
    omega
  · right
    refine ⟨digits ++ List.replicate (places - min places longestFraction) '0', by rw [some]; rfl,
      ?_, ?_⟩
    · rw [List.length_append, List.length_replicate, length]
      omega
    · have := List.length_pos_iff.mpr areDigits.1
      omega

/-- The text of fixed places: a numeral with the sign of the value and so many digits behind its
point, which stands for the nearest multiple of the last place. -/
structure Placed (places : ℕ) (value : Double) (numeral : Numeral) : Prop where
  wellFormed : numeral.WellFormed
  sign : numeral.negative = value.negative
  plain : numeral.exponent = none
  digits : (numeral.fraction.getD []).length = places
  point : numeral.fraction = none ↔ places = 0
  nearest : ∃ count : ℕ, numeral.magnitude = count / 10 ^ places ∧
    NearestWhole (value.size * 10 ^ places) count

theorem roundHalfEven_mul (count : ℕ) {denominator : ℕ} (positive : 0 < denominator) :
    roundHalfEven (count * denominator) denominator = count := by
  have nearest := nearestWhole_roundHalfEven (count * denominator) positive
  rw [Nat.cast_mul, mul_div_cancel_right₀ _ (Nat.cast_pos.mpr positive).ne'] at nearest
  exact nearest.eq_of_whole

theorem nearest_fixedNumeral (places : ℕ) (value : Double) :
    ∃ count : ℕ, (value.fixedNumeral places).magnitude = count / 10 ^ places ∧
      NearestWhole (value.size * 10 ^ places) count := by
  have unit : 0 < 2 ^ 1074 := Nat.two_pow_pos 1074
  rw [magnitude_fixedNumeral]
  rcases le_or_gt places longestFraction with few | many
  · rw [Nat.min_eq_left few]
    refine ⟨_, rfl, ?_⟩
    have nearest := nearestWhole_roundHalfEven (value.units * 10 ^ places) unit
    rw [size, div_mul_eq_mul_div]
    exact_mod_cast nearest
  · -- Behind the longest fraction nothing is left to round.
    rw [Nat.min_eq_right many.le]
    obtain ⟨more, rfl⟩ := Nat.exists_eq_add_of_le many.le
    have whole : value.units * 10 ^ longestFraction = value.units * 5 ^ 1074 * 2 ^ 1074 :=
      (five_two_pow value.units 1074).symm
    have number : value.size * 10 ^ longestFraction = (value.units * 5 ^ 1074 : ℕ) := by
      rw [size, div_mul_eq_mul_div, div_eq_iff (by positivity)]
      exact_mod_cast whole
    refine ⟨value.units * 5 ^ 1074 * 10 ^ more, ?_, ?_⟩
    · rw [whole, roundHalfEven_mul _ unit, pow_add]
      push_cast
      field_simp
    · rw [pow_add, ← mul_assoc, number]
      exact_mod_cast nearestWhole_self (value.units * 5 ^ 1074 * 10 ^ more)

theorem placed_fixedNumeral (places : ℕ) (value : Double) :
    Placed places value (value.fixedNumeral places) where
  wellFormed := fixedNumeral_wellFormed places value
  sign := rfl
  plain := rfl
  digits := by
    rcases value.fraction_fixedNumeral places with ⟨rfl, none⟩ | ⟨digits, some, length, -⟩
    · rw [none]
      rfl
    · rw [some]
      exact length
  point := by
    rcases value.fraction_fixedNumeral places with ⟨zero, none⟩ | ⟨digits, some, -, positive⟩
    · exact ⟨fun _ => zero, fun _ => none⟩
    · rw [some]
      exact iff_of_false (Option.some_ne_none digits) positive.ne'
  nearest := nearest_fixedNumeral places value

end Double

def Numeral.number (numeral : Numeral) : ℚ :=
  if numeral.negative then -numeral.magnitude else numeral.magnitude

namespace Double

theorem magnitude_fixedNumeral_mono (places : ℕ) {value other : Double}
    (le : value.rank ≤ other.rank) :
    (value.fixedNumeral places).magnitude ≤ (other.fixedNumeral places).magnitude := by
  rw [magnitude_fixedNumeral, magnitude_fixedNumeral]
  refine div_le_div_of_nonneg_right (Nat.cast_le.mpr ?_) (by positivity)
  exact roundHalfEven_mono (Nat.two_pow_pos 1074) (Nat.mul_le_mul_right _ (unitsAt_mono le))

theorem magnitude_nonneg (numeral : Numeral) : 0 ≤ numeral.magnitude :=
  mul_nonneg (Nat.cast_nonneg _) (zpow_nonneg (by norm_num) _)

theorem magnitude_fixedNumeral_zero (places : ℕ) {value : Double} (zero : value.rank = 0) :
    (value.fixedNumeral places).magnitude = 0 := by
  have none : value.units = 0 := by rw [units, zero, unitsAt_zero]
  have round := roundHalfEven_mul 0 (Nat.two_pow_pos 1074)
  rw [Nat.zero_mul] at round
  rw [magnitude_fixedNumeral, none, Nat.zero_mul, round, Nat.cast_zero, zero_div]

theorem number_fixedNumeral_mono (places : ℕ) {value other : Double} (le : value.le other = true) :
    (value.fixedNumeral places).number ≤ (other.fixedNumeral places).number := by
  obtain ⟨-, le⟩ : _ ∧ value.position ≤ other.position := by simpa [Double.le] using le
  have spelled (value : Double) : (value.fixedNumeral places).number =
      if value.negative then -(value.fixedNumeral places).magnitude
      else (value.fixedNumeral places).magnitude := rfl
  rw [spelled, spelled]
  unfold position at le
  revert le
  cases value.negative <;> cases other.negative <;>
    simp only [Bool.false_eq_true, if_true, if_false, neg_le_neg_iff] <;> intro le
  · exact magnitude_fixedNumeral_mono places (by omega)
  · rw [magnitude_fixedNumeral_zero places (show value.rank = 0 by omega),
      magnitude_fixedNumeral_zero places (show other.rank = 0 by omega), neg_zero]
  · exact (neg_nonpos.mpr (magnitude_nonneg _)).trans (magnitude_nonneg _)
  · exact magnitude_fixedNumeral_mono places (by omega)

end Double

/-! ## What the leading digits tell of fixed places -/

theorem digitText_mul_pow {value : ℕ} (positive : 0 < value) (count : ℕ) :
    digitText (value * 10 ^ count) = digitText value ++ List.replicate count '0' := by
  induction count with
  | zero => rw [Nat.pow_zero, Nat.mul_one, List.replicate_zero, List.append_nil]
  | succ count ih =>
    have more := Nat.toDigits_append_toDigits (b := 10) (n := value * 10 ^ count) (d := 0)
      (by decide) (Nat.mul_pos positive (Nat.pow_pos (by decide))) (by decide)
    rw [List.replicate_succ', ← List.append_assoc, ← ih, ← digitText_zero]
    rw [show value * 10 ^ (count + 1) = 10 * (value * 10 ^ count) + 0 by ring]
    exact more.symm

namespace Numeral

theorem absorb_full {word : ℕ} (full : 2 ^ 64 ≤ 10 * word) (taken : ℕ) (digits : List Char) :
    absorb word taken digits = (word, taken) := by
  cases digits with
  | nil => rfl
  | cons digit digits =>
    rw [absorb]
    exact if_neg (by omega)

theorem leading_of_full {numeral other : Numeral} (whole : numeral.whole = other.whole)
    (exponent : numeral.writtenExponent = other.writtenExponent)
    (full : 2 ^ 64 ≤ 10 * (absorb 0 0 other.whole).1) :
    (Reading.leading numeral).isSome = (Reading.leading other).isSome := by
  have same : numeral.leadingDigits = other.leadingDigits := by
    simp only [leadingDigits, whole, exponent, absorb_full full]
  rw [Bool.eq_iff_iff, leading_isSome_iff, leading_isSome_iff, same]

end Numeral

namespace Double

theorem whole_placesNumeral (negative : Bool) {whole : ℕ} (positive : 0 < whole) (places : ℕ) :
    (placesNumeral negative (whole * 10 ^ places) places).whole = digitText whole := by
  have some := List.length_pos_iff.mpr (digitText_areDigits whole).1
  simp only [placesNumeral, digitText_mul_pow positive, List.length_append, List.length_replicate]
  rw [show places + 1 - ((digitText whole).length + places) = 0 by omega, List.replicate_zero,
    List.nil_append, Nat.zero_add, Nat.add_sub_cancel, List.take_left']
  rfl

theorem roundHalfEven_whole {value : Double} {whole : ℕ} (isWhole : value.units = whole * 2 ^ 1074)
    (places : ℕ) : roundHalfEven (value.units * 10 ^ places) (2 ^ 1074) = whole * 10 ^ places := by
  rw [isWhole, Nat.mul_right_comm, roundHalfEven_mul _ (Nat.two_pow_pos 1074)]

theorem whole_fixedNumeral {value : Double} {whole : ℕ} (positive : 0 < whole)
    (isWhole : value.units = whole * 2 ^ 1074) (places : ℕ) :
    (value.fixedNumeral places).whole = digitText whole := by
  rw [fixedNumeral, roundHalfEven_whole isWhole]
  exact whole_placesNumeral value.negative positive _

theorem magnitude_fixedNumeral_whole {value : Double} {whole : ℕ}
    (isWhole : value.units = whole * 2 ^ 1074) (places : ℕ) :
    (value.fixedNumeral places).magnitude = whole := by
  rw [magnitude_fixedNumeral, roundHalfEven_whole isWhole]
  push_cast
  field_simp

/-- So many steps below the first power of two that is no finite double. -/
def fromTop (below : ℕ) : ℕ := (2 ^ 53 - below) * 2 ^ 971

theorem leading_fromTop : ∀ below < 4, 0 < below →
    2 ^ 64 ≤ 10 * (Numeral.absorb 0 0 (digitText (fromTop below))).1 ∧
      ((Numeral.Reading.leading ⟨false, digitText (fromTop below), none, none⟩).isSome = true ↔
        below ≠ 1) := by
  decide +kernel

/-- Whether a double is the largest finite one on its side of zero. -/
def isLargest (value : Double) : Bool := decide (value.rank = pastFinite - 1)

theorem leading_fixedNumeral {value : Double} (finite : value.isFinite = true) (places : ℕ) :
    (Numeral.Reading.leading (value.fixedNumeral places)).isSome = !value.isLargest := by
  rw [Bool.eq_iff_iff, isLargest, Bool.not_eq_true', decide_eq_false_iff_not]
  have bounded := rank_lt_pastFinite finite
  have past : 4 < pastFinite := by decide
  have units {value : Double} {below : ℕ} (few : below ≤ 4) (rank : value.rank = pastFinite - below) :
      value.units = fromTop below * 2 ^ 1074 := by
    rw [units, rank, unitsAt_top (by omega), fromTop]
  rcases Nat.lt_or_ge (pastFinite - 4) value.rank with last | small
  · -- The last three doubles are whole, and so long that no place behind the point is read.
    obtain ⟨below, few, positive, rank⟩ : ∃ below < 4, 0 < below ∧ value.rank = pastFinite - below :=
      ⟨pastFinite - value.rank, by omega, by omega, by omega⟩
    obtain ⟨full, told⟩ := leading_fromTop below few positive
    have some : 0 < fromTop below := Nat.mul_pos (by omega) (Nat.two_pow_pos 971)
    have whole := whole_fixedNumeral some (units few.le rank) places
    have same := @Numeral.leading_of_full (value.fixedNumeral places)
      ⟨false, digitText (fromTop below), none, none⟩ whole rfl full
    rw [same, told, rank]
    omega
  · -- All others are so small that the leading digits cannot overflow.
    have other : value.rank ≠ pastFinite - 1 := by omega
    refine iff_of_true (Numeral.leading_isSome (fixedNumeral_wellFormed places value) ?_) other
    have rank : (ofRank false (pastFinite - 4)).rank = pastFinite - 4 := rank_ofRank (by omega)
    have top := magnitude_fixedNumeral_whole (units le_rfl rank) places
    refine (magnitude_fixedNumeral_mono places (rank ▸ small)).trans (top.trans_le ?_)
    rw [fromTop, coarsest, Nat.cast_mul, Nat.cast_pow]
    exact mul_le_mul_of_nonneg_right (by norm_num) (by positivity)

end Double

end Modelsmith
