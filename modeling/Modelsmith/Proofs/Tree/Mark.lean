import Modelsmith.Proofs.Double.Layout
import Modelsmith.Tree.Basic

/-! The mark of a leaf among thresholds that are written with a set number of places.

A mark is always written as itself. From sixteen places on nothing else is: the doubles next to
the mark are farther from it than half a unit of the last place and half the way to the mark
together. With fewer places the threshold just above the mark is written like the mark.
-/

set_option autoImplicit false

namespace Modelsmith.Tree

open Double

/-! ## The mark -/

theorem leafMark_eq : leafMark = ⟨true, 1024, 0⟩ := by decide +kernel

def markRank : Nat := 1024 * 2 ^ 52

theorem rank_leafMark : leafMark.rank = markRank := by
  rw [leafMark_eq]
  rfl

theorem eq_leafMark {value : Double} (negative : value.negative = true)
    (rank : value.rank = markRank) : value = leafMark := by
  obtain ⟨sign, ⟨exponent, exponent_lt⟩, ⟨fraction, fraction_lt⟩⟩ := value
  simp only [Double.rank, markRank] at rank
  have exponent_eq : exponent = 1024 := by omega
  have fraction_eq : fraction = 0 := by omega
  subst exponent_eq fraction_eq
  rw [leafMark_eq]
  cases negative
  rfl

theorem isLeafMark_iff {threshold : Double} :
    isLeafMark threshold = true ↔ threshold = leafMark := by
  constructor
  · intro marked
    have position : threshold.position = leafMark.position := by
      simp only [isLeafMark, Double.eq, Bool.and_eq_true, decide_eq_true_eq] at marked
      exact marked.2
    have mark : leafMark.position = -(markRank : Int) := by
      rw [leafMark_eq]
      rfl
    rw [mark, Double.position, markRank] at position
    split at position
    · rename_i negative
      exact eq_leafMark negative (by rw [markRank]; omega)
    · omega
  · intro marked
    rw [marked]
    decide +kernel

/-! ## The neighbours of the mark -/

theorem unitsAt_shifted (mantissa shift base : Nat) {rank factor : Nat} (low : 2 ^ 52 ≤ mantissa)
    (high : mantissa ≤ 2 ^ 53) (atRank : rank = (shift + base) * 2 ^ 52 + mantissa)
    (scaled : mantissa * 2 ^ shift = factor) : unitsAt rank = factor * 2 ^ base := by
  rw [atRank, unitsAt_scaled _ _ low high, Nat.pow_add, ← Nat.mul_assoc, scaled]

theorem unitsAt_markRank :
    unitsAt (markRank - 1) = (2 ^ 55 - 4) * 2 ^ 1020 ∧ unitsAt markRank = 2 ^ 55 * 2 ^ 1020 ∧
      unitsAt (markRank + 1) = (2 ^ 55 + 8) * 2 ^ 1020 := by
  refine ⟨?_, ?_, ?_⟩
  · rw [unitsAt_shifted (2 ^ 53 - 1) 2 1020 (by decide) (by decide) (by decide)
      (show _ = 2 ^ 55 - 4 from rfl)]
  · rw [unitsAt_shifted (2 ^ 52) 3 1020 (by decide) (by decide) (by decide)
      (show _ = 2 ^ 55 from rfl)]
  · rw [unitsAt_shifted (2 ^ 52 + 1) 3 1020 (by decide) (by decide) (by decide)
      (show _ = 2 ^ 55 + 8 from rfl)]

/-- Of `units`, the nearest multiple of `2 ^ 54 * unit / scale` lies nearer to `2 ^ 55 * unit` than
to its neighbours: then so do the units, once there are more than `2 ^ 53` multiples. -/
theorem units_between {unit scale units scaled : Nat} (positive : 0 < unit)
    (fine : 2 ^ 53 < scale)
    (below : 2 * (units * scale) ≤ 2 * (scaled * (2 ^ 54 * unit)) + 2 ^ 54 * unit)
    (above : 2 * (scaled * (2 ^ 54 * unit)) ≤ 2 * (units * scale) + 2 ^ 54 * unit)
    (low : scale * ((2 ^ 55 - 4) * unit + 2 ^ 55 * unit) ≤ 2 * (scaled * (2 ^ 54 * unit)))
    (high : 2 * (scaled * (2 ^ 54 * unit)) ≤ scale * (2 ^ 55 * unit + (2 ^ 55 + 8) * unit)) :
    (2 ^ 55 - 4) * unit < units ∧ units < (2 ^ 55 + 8) * unit := by
  have finer : 2 ^ 53 * unit < scale * unit := Nat.mul_lt_mul_of_pos_right fine positive
  have multiple : ∀ factor, scale * (factor * unit) = factor * (scale * unit) :=
    fun factor => Nat.mul_left_comm ..
  rw [← Nat.add_mul, multiple] at low high
  constructor
  · have less : scale * ((2 ^ 56 - 6) * unit) < scale * (2 * units) := by
      rw [multiple, Nat.mul_left_comm scale 2, Nat.mul_comm scale units]
      omega
    have := Nat.lt_of_mul_lt_mul_left less
    omega
  · have less : scale * (2 * units) < scale * ((2 ^ 56 + 10) * unit) := by
      rw [multiple, Nat.mul_left_comm scale 2, Nat.mul_comm scale units]
      omega
    have := Nat.lt_of_mul_lt_mul_left less
    omega

/-! ## The mark at a number of places -/

theorem isFinite_leafMark : leafMark.isFinite = true := by decide +kernel

theorem atPlaces_eq (places : Nat) (value : Double) :
    value.atPlaces places = ofRank value.negative (nearestRank
      (roundHalfEven (value.units * 10 ^ min places longestFraction) (2 ^ 1074) * 2 ^ 1074)
      (10 ^ min places longestFraction)) := by
  rw [atPlaces, ofDecimal_eq, decimalRank]
  generalize min places longestFraction = told
  have whole : (-(told : Int)).toNat = 0 := by omega
  have fraction : (-(-(told : Int))).toNat = told := by omega
  rw [whole, fraction, Nat.pow_zero, Nat.mul_one]

theorem two_pow_mul_two_pow {high low power : Nat} (sum : high + low = power) :
    2 ^ high * 2 ^ low = 2 ^ power := by
  rw [← Nat.pow_add, sum]

theorem roundHalfEven_mul (first second : Nat) {denominator : Nat} (positive : 0 < denominator) :
    roundHalfEven (first * denominator * second) denominator = first * second := by
  rw [Nat.mul_right_comm]
  simp only [roundHalfEven, Nat.mul_div_cancel _ positive, Nat.mul_mod_left]
  rw [if_neg (by omega), if_neg (by omega)]

theorem atPlaces_leafMark (places : Nat) : leafMark.atPlaces places = leafMark := by
  have units : leafMark.units = 2 ^ 1 * 2 ^ 1074 := by
    rw [Double.units, rank_leafMark, unitsAt_markRank.2.1,
      pow_mul_pow_eq 2 (show 55 + 1020 = 1 + 1074 from rfl)]
  have negative : leafMark.negative = true := by rw [leafMark_eq]
  have whole := roundHalfEven_mul (2 ^ 1) (10 ^ min places longestFraction) (Nat.two_pow_pos 1074)
  rw [atPlaces, units, negative, whole, ← Int.zero_sub, ofDecimal_shift]
  rfl

theorem eq_leafMark_of_atPlaces {places : Nat} {threshold : Double} (many : 16 ≤ places)
    (marked : threshold.atPlaces places = leafMark) : threshold = leafMark := by
  rw [atPlaces_eq] at marked
  have fine : 2 ^ 53 < 10 ^ min places longestFraction := by
    have least : 16 ≤ min places longestFraction := by
      rw [longestFraction]
      omega
    exact Nat.lt_of_lt_of_le (by decide : 2 ^ 53 < 10 ^ 16) (Nat.pow_le_pow_right (by decide) least)
  generalize 10 ^ min places longestFraction = scale at marked fine
  generalize scaled_eq : roundHalfEven (threshold.units * scale) (2 ^ 1074) = scaled at marked
  have wide := two_pow_mul_two_pow (show 54 + 1020 = 1074 from rfl)
  obtain ⟨predUnits, markUnits, succUnits⟩ := unitsAt_markRank
  -- A result past the finite doubles is no mark.
  have bounded : nearestRank (scaled * 2 ^ 1074) scale < pastFinite := by
    refine Decidable.byContradiction fun past => ?_
    rw [ofRank_of_le _ (Nat.le_of_not_lt past)] at marked
    have := congrArg Double.isFinite marked
    rw [isFinite_leafMark] at this
    cases this
  have rounded := congrArg Double.rank marked
  rw [rank_ofRank bounded, rank_leafMark] at rounded
  have negative := congrArg Double.negative marked
  rw [leafMark_eq, ofRank, dif_pos bounded] at negative
  obtain ⟨low, high⟩ := @nearestRank_midpoints _ _ (markRank - 1) (by omega) rounded
  rw [show markRank - 1 + 1 = markRank from rfl, predUnits, markUnits] at low
  rw [show markRank - 1 + 1 = markRank from rfl, succUnits, markUnits] at high
  obtain ⟨below, above, -⟩ := roundHalfEven_bounds (threshold.units * scale) (Nat.two_pow_pos 1074)
  rw [scaled_eq, ← wide] at below above
  rw [← wide] at low high
  have positive := Nat.two_pow_pos 1020
  generalize 2 ^ 1020 = unit at positive below above low high predUnits succUnits
  obtain ⟨more, less⟩ := units_between positive fine below above low high
  rw [← predUnits] at more
  rw [← succUnits] at less
  have after := lt_of_unitsAt_lt more
  have before := lt_of_unitsAt_lt less
  exact eq_leafMark negative (by omega)

def besideMark : Double := ofRank true (markRank - 1)

theorem atPlaces_besideMark {places : Nat} (few : places < 16) :
    besideMark.atPlaces places = leafMark := by
  have all : ∀ places < 16, besideMark.atPlaces places = leafMark := by decide +kernel
  exact all places few

theorem isLeafMark_atPlaces {places : Nat} (many : 16 ≤ places) (threshold : Double) :
    isLeafMark (threshold.atPlaces places) = isLeafMark threshold := by
  rw [Bool.eq_iff_iff, isLeafMark_iff, isLeafMark_iff]
  constructor
  · exact eq_leafMark_of_atPlaces many
  · intro marked
    rw [marked, atPlaces_leafMark]

end Modelsmith.Tree
