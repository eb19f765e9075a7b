import Mathlib.Algebra.Order.Field.Power
import Modelsmith.Proofs.Numeral.Leading

/-! No decimal that reads back has fewer digits than the shortest one.

A decimal is rounded to the nearest double, so what lies between a double and a number that is rounded
to it is rounded to it as well. On the grid of a given number of digits it is therefore enough to try
the two neighbours of the double, and with seventeen digits the nearer one always reads back.
-/

set_option autoImplicit false

namespace Modelsmith

namespace Double

/-! ## The nearest magnitude -/

theorem nearestRank_cases (numerator : ℕ) {denominator : ℕ} (positive : 0 < denominator) :
    ∃ below, denominator * unitsAt below ≤ numerator ∧
      numerator < denominator * unitsAt (below + 1) ∧
      (nearestRank numerator denominator = below ∧
          2 * numerator ≤ denominator * (unitsAt below + unitsAt (below + 1)) ∧
          (2 * numerator = denominator * (unitsAt below + unitsAt (below + 1)) → below % 2 = 0) ∨
        nearestRank numerator denominator = below + 1 ∧
          denominator * (unitsAt below + unitsAt (below + 1)) ≤ 2 * numerator ∧
          (2 * numerator = denominator * (unitsAt below + unitsAt (below + 1)) →
            (below + 1) % 2 = 0)) := by
  obtain ⟨low, high⟩ := unitsAt_rankBelow (numerator / denominator)
  rw [Nat.le_div_iff_mul_le positive, Nat.mul_comm] at low
  rw [Nat.div_lt_iff_lt_mul positive, Nat.mul_comm] at high
  refine ⟨_, low, high, ?_⟩
  unfold nearestRank
  dsimp only
  generalize rankBelow (numerator / denominator) = below
  generalize denominator * (unitsAt below + unitsAt (below + 1)) = halfway
  split
  · exact .inr ⟨rfl, by omega, by omega⟩
  · split
    · exact .inr ⟨rfl, by omega, by omega⟩
    · exact .inl ⟨rfl, by omega, by omega⟩

def sizeAt (rank : ℕ) : ℚ := unitsAt rank / 2 ^ 1074

theorem sizeAt_lt {rank other : ℕ} (less : rank < other) : sizeAt rank < sizeAt other :=
  div_lt_div_of_pos_right (Nat.cast_lt.mpr (unitsAt_lt less)) (by positivity)

theorem sizeAt_mono {rank other : ℕ} (le : rank ≤ other) : sizeAt rank ≤ sizeAt other :=
  div_le_div_of_nonneg_right (Nat.cast_le.mpr (unitsAt_mono le)) (by positivity)

/-- The magnitude at a rank is the nearest to a number, and where another is as near its rank is
even. -/
def RoundsTo (number : ℚ) (rank : ℕ) : Prop :=
  ∀ other, other ≠ rank → |number - sizeAt rank| ≤ |number - sizeAt other| ∧
    (|number - sizeAt rank| = |number - sizeAt other| → rank % 2 = 0)

theorem nearer_below_iff {number low high : ℚ} (less : low < high) :
    |number - low| ≤ |number - high| ↔ 2 * number ≤ low + high := by
  have product : (number - high) ^ 2 - (number - low) ^ 2 =
      (high - low) * (low + high - 2 * number) := by ring
  rw [← sq_le_sq, ← sub_nonneg, product, mul_nonneg_iff_of_pos_left (sub_pos.mpr less), sub_nonneg]

theorem nearer_above_iff {number low high : ℚ} (less : low < high) :
    |number - high| ≤ |number - low| ↔ low + high ≤ 2 * number := by
  have product : (number - low) ^ 2 - (number - high) ^ 2 =
      (high - low) * (2 * number - (low + high)) := by ring
  rw [← sq_le_sq, ← sub_nonneg, product, mul_nonneg_iff_of_pos_left (sub_pos.mpr less), sub_nonneg]

theorem roundsTo_of_midpoints {number : ℚ} {rank : ℕ}
    (low : ∀ below, rank = below + 1 → sizeAt below + sizeAt rank ≤ 2 * number ∧
      (sizeAt below + sizeAt rank = 2 * number → rank % 2 = 0))
    (high : 2 * number ≤ sizeAt rank + sizeAt (rank + 1))
    (even : 2 * number = sizeAt rank + sizeAt (rank + 1) → rank % 2 = 0) : RoundsTo number rank := by
  intro other different
  rcases Nat.lt_or_gt_of_ne different with less | greater
  · obtain ⟨below, next⟩ := Nat.exists_eq_succ_of_ne_zero (Nat.ne_zero_of_lt less)
    obtain ⟨reached, tie⟩ := low below next
    have size := sizeAt_mono (show other ≤ below by omega)
    rw [nearer_above_iff (sizeAt_lt less)]
    refine ⟨by linarith, fun same => tie ?_⟩
    have back := (nearer_below_iff (sizeAt_lt less)).mp same.ge
    linarith
  · have size := sizeAt_mono (Nat.succ_le_of_lt greater)
    rw [Nat.succ_eq_add_one] at size
    rw [nearer_below_iff (sizeAt_lt greater)]
    refine ⟨by linarith, fun same => even ?_⟩
    have back := (nearer_above_iff (sizeAt_lt greater)).mp same.ge
    linarith

theorem RoundsTo.mono {first second : ℚ} {rank other : ℕ} (rounds : RoundsTo first rank)
    (rounded : RoundsTo second other) (le : first ≤ second) : rank ≤ other := by
  refine Nat.le_of_not_lt fun less => ?_
  have low := (nearer_above_iff (sizeAt_lt less)).mp (rounds other less.ne).1
  have high := (nearer_below_iff (sizeAt_lt less)).mp (rounded rank less.ne').1
  -- Both are the midpoint of two even ranks, and the rank between these is nearer.
  have even := (rounds other less.ne).2
    (le_antisymm (rounds other less.ne).1 ((nearer_below_iff (sizeAt_lt less)).mpr (by linarith)))
  have otherEven := (rounded rank less.ne').2
    (le_antisymm (rounded rank less.ne').1 ((nearer_above_iff (sizeAt_lt less)).mpr (by linarith)))
  have apart : other + 1 < rank := by omega
  have step := sizeAt_lt (Nat.lt_succ_self other)
  have nearer := (nearer_below_iff step).mp (rounded (other + 1) (Nat.succ_ne_self other)).1
  have size := sizeAt_lt apart
  rw [Nat.succ_eq_add_one] at nearer
  linarith

theorem RoundsTo.unique {number : ℚ} {rank other : ℕ} (rounds : RoundsTo number rank)
    (rounded : RoundsTo number other) : rank = other :=
  Nat.le_antisymm (rounds.mono rounded le_rfl) (rounded.mono rounds le_rfl)

theorem ten_zpow (exponent : ℤ) :
    (10 : ℚ) ^ exponent * 10 ^ (-exponent).toNat = 10 ^ exponent.toNat := by
  rw [← zpow_natCast, ← zpow_add₀ (by norm_num), ← zpow_natCast]
  congr 1
  omega

theorem unitsAt_succ_le_apart (rank : ℕ) :
    unitsAt (rank + 1) + 2 ^ 53 * unitsAt rank ≤ 2 ^ 53 * unitsAt (rank + 1) := by
  rcases Nat.lt_or_ge rank (2 ^ 52) with small | large
  · rw [unitsAt_of_le (by omega), unitsAt_of_le (by omega)]
    omega
  · obtain ⟨shift, mantissa, -, high, here, next⟩ := unitsAt_normal large
    rw [here, next]
    have bound := Nat.mul_le_mul_right (2 ^ shift) (show mantissa + 1 ≤ 2 ^ 53 from high)
    rw [Nat.add_mul] at bound ⊢
    generalize 2 ^ shift = unit at *
    generalize mantissa * unit = part at *
    omega

theorem sizeAt_apart (rank : ℕ) :
    sizeAt (rank + 1) ≤ 2 ^ 53 * (sizeAt (rank + 1) - sizeAt rank) := by
  have units : (unitsAt (rank + 1) + 2 ^ 53 * unitsAt rank : ℚ) ≤ 2 ^ 53 * unitsAt (rank + 1) := by
    exact_mod_cast unitsAt_succ_le_apart rank
  have unit : (0 : ℚ) < 2 ^ 1074 := by positivity
  rw [sizeAt, sizeAt, ← sub_div, ← mul_div_assoc]
  exact div_le_div_of_nonneg_right (by linarith) unit.le

end Double

/-! ## Decimals as numbers -/

namespace Decimal

def number (decimal : Decimal) : ℚ := decimal.digits * 10 ^ decimal.exponent

def rank (decimal : Decimal) : ℕ := Double.decimalRank decimal.digits decimal.exponent

theorem roundsTo_rank (decimal : Decimal) : Double.RoundsTo decimal.number decimal.rank := by
  have positive : 0 < 10 ^ (-decimal.exponent).toNat := Nat.pow_pos (by decide)
  obtain ⟨below, low, high, rounded⟩ := Double.nearestRank_cases
    (decimal.digits * 10 ^ decimal.exponent.toNat * 2 ^ 1074) positive
  have unit : (0 : ℚ) < 10 ^ (-decimal.exponent).toNat * 2 ^ 1074 := by positivity
  have number : ((decimal.digits * 10 ^ decimal.exponent.toNat * 2 ^ 1074 : ℕ) : ℚ) =
      decimal.number * (10 ^ (-decimal.exponent).toNat * 2 ^ 1074) := by
    push_cast
    rw [Decimal.number, ← Double.ten_zpow decimal.exponent]
    generalize (2 : ℚ) ^ 1074 = unit
    ring
  have size (rank : ℕ) : ((10 ^ (-decimal.exponent).toNat * Double.unitsAt rank : ℕ) : ℚ) =
      Double.sizeAt rank * (10 ^ (-decimal.exponent).toNat * 2 ^ 1074) := by
    rw [Double.sizeAt]
    push_cast
    field_simp
  rw [Decimal.rank, Double.decimalRank]
  simp only [Nat.mul_add] at rounded
  -- From here on only the one scale matters at which all of them are whole.
  generalize decimal.digits * 10 ^ decimal.exponent.toNat * 2 ^ 1074 = numerator at *
  generalize 10 ^ (-decimal.exponent).toNat = denominator at positive low high rounded size ⊢
  generalize (10 : ℚ) ^ (-decimal.exponent).toNat * 2 ^ 1074 = scale at *
  have twice : ((2 * numerator : ℕ) : ℚ) = 2 * decimal.number * scale := by
    rw [Nat.cast_mul, number, Nat.cast_ofNat, mul_assoc]
  have middle :
      ((denominator * Double.unitsAt below + denominator * Double.unitsAt (below + 1) : ℕ) : ℚ) =
      (Double.sizeAt below + Double.sizeAt (below + 1)) * scale := by
    rw [Nat.cast_add, size, size, add_mul]
  have compare {first second : ℕ} {left right : ℚ} (ofFirst : (first : ℚ) = left * scale)
      (ofSecond : (second : ℚ) = right * scale) :
      (first ≤ second ↔ left ≤ right) ∧ (first = second ↔ left = right) := by
    rw [← @Nat.cast_le ℚ, ← @Nat.cast_inj ℚ, ofFirst, ofSecond, mul_le_mul_iff_left₀ unit,
      mul_left_inj' unit.ne']
    exact ⟨Iff.rfl, Iff.rfl⟩
  have step := Double.sizeAt_lt (Nat.lt_succ_self below)
  rw [Nat.succ_eq_add_one] at step
  -- On the side that was not chosen, the next midpoint is beyond the rank itself.
  rcases rounded with ⟨same, near, even⟩ | ⟨same, near, even⟩
  · rw [same]
    have reached := (compare (size below) number).1.mp low
    refine Double.roundsTo_of_midpoints (fun before next => ?_) ((compare twice middle).1.mp near)
      fun tie => even ((compare twice middle).2.mpr tie)
    have earlier := Double.sizeAt_lt (show before < below by omega)
    exact ⟨by linarith, fun tie => by linarith⟩
  · rw [same]
    have reached := (compare number (size (below + 1))).1.mp high.le
    have later := Double.sizeAt_lt (Nat.lt_succ_self (below + 1))
    rw [Nat.succ_eq_add_one] at later
    refine Double.roundsTo_of_midpoints (fun before next => ?_) (by linarith)
      fun tie => by linarith
    obtain rfl : before = below := by omega
    exact ⟨(compare middle twice).1.mp near, fun tie => even ((compare twice middle).2.mpr tie.symm)⟩

theorem rank_eq_iff {decimal : Decimal} {rank : ℕ} :
    decimal.rank = rank ↔ Double.RoundsTo decimal.number rank :=
  ⟨fun same => same ▸ decimal.roundsTo_rank, decimal.roundsTo_rank.unique⟩

theorem rank_mono {first second : Decimal} (le : first.number ≤ second.number) :
    first.rank ≤ second.rank :=
  first.roundsTo_rank.mono second.roundsTo_rank le

theorem number_trim (fuel : ℕ) (decimal : Decimal) : (decimal.trim fuel).number = decimal.number := by
  induction fuel generalizing decimal with
  | zero => rfl
  | succ fuel ih =>
    rw [trim]
    split
    · rename_i divisible
      rw [ih, number, number, zpow_add_one₀ (by norm_num)]
      have digits : (decimal.digits : ℚ) = (decimal.digits / 10 : ℕ) * 10 := by
        exact_mod_cast show decimal.digits = decimal.digits / 10 * 10 by omega
      rw [digits]
      dsimp only
      ring
    · rfl

theorem digitCount_bounds {value : ℕ} (positive : 0 < value) :
    10 ^ (digitCount value - 1) ≤ value ∧ value < 10 ^ digitCount value := by
  have count : digitCount value = (Nat.toDigits 10 value).length := if_neg (by omega)
  have some : 0 < digitCount value := count ▸ Nat.length_toDigits_pos
  constructor
  · rcases Nat.eq_zero_or_pos (digitCount value - 1) with zero | more
    · rw [zero]
      exact positive
    · refine Nat.le_of_not_lt fun less => ?_
      have short := (Nat.length_toDigits_le_iff (by decide) more).mpr less
      omega
  · exact (Nat.length_toDigits_le_iff (by decide) some).mp (Nat.le_of_eq count.symm)

end Decimal

namespace Double

theorem rank_of_ofDecimal {value : Double} (finite : value.isFinite = true) {negative : Bool}
    {decimal : Decimal} (reads : ofDecimal negative decimal.digits decimal.exponent = value) :
    decimal.rank = value.rank := by
  rw [ofDecimal_eq] at reads
  rcases Nat.lt_or_ge (decimalRank decimal.digits decimal.exponent) pastFinite with inside | past
  · rw [← reads, rank_ofRank inside, Decimal.rank]
  · rw [← reads, ofRank_of_le _ past] at finite
    exact absurd finite (by cases negative <;> decide)

theorem readsBack_iff {value : Double} (finite : value.isFinite = true) {candidate : Decimal} :
    value.readsBack candidate = true ↔ candidate.rank = value.rank := by
  rw [readsBack, decide_eq_true_eq]
  constructor
  · exact rank_of_ofDecimal finite
  · intro same
    rw [ofDecimal_eq, ← Decimal.rank, same, ofRank_rank finite]

theorem number_exactDecimal (value : Double) : value.exactDecimal.number = value.size := by
  rw [Decimal.number, size, exactDecimal, zpow_neg, show (10 : ℚ) = 5 * 2 by norm_num]
  push_cast
  rw [show (1074 : ℤ) = (1074 : ℕ) from rfl, zpow_natCast, mul_pow]
  generalize power : (2 : ℚ) ^ 1074 = unit
  generalize other : (5 : ℚ) ^ 1074 = factor
  have unitPositive : unit ≠ 0 := power ▸ (by positivity)
  have factorPositive : factor ≠ 0 := other ▸ (by positivity)
  field_simp

theorem rank_of_between {value : Double} {decimal other : Decimal} (back : other.rank = value.rank)
    (between : other.number ≤ decimal.number ∧ decimal.number ≤ value.size ∨
      value.size ≤ decimal.number ∧ decimal.number ≤ other.number) :
    decimal.rank = value.rank := by
  have exact : value.exactDecimal.rank = value.rank := decimalRank_exactDecimal value
  rw [← number_exactDecimal] at between
  rcases between with ⟨low, high⟩ | ⟨low, high⟩
  · exact Nat.le_antisymm (exact ▸ Decimal.rank_mono high) (back ▸ Decimal.rank_mono low)
  · exact Nat.le_antisymm (back ▸ Decimal.rank_mono high) (exact ▸ Decimal.rank_mono low)

/-! ## The grid of a number of digits -/

theorem units_pos {value : Double} (nonzero : value.rank ≠ 0) : 0 < value.units := by
  have less := unitsAt_lt (Nat.pos_of_ne_zero nonzero)
  rwa [unitsAt_zero] at less

theorem magnitude_bounds {value : Double} (nonzero : value.rank ≠ 0) :
    10 ^ (value.magnitude - 1) ≤ value.size ∧ value.size < 10 ^ value.magnitude := by
  have unit : 0 < 2 ^ 1074 := Nat.two_pow_pos 1074
  have positive : 0 < value.units * 10 ^ decimalBound / 2 ^ 1074 := by
    refine Nat.div_pos ?_ unit
    calc 2 ^ 1074 ≤ 1 * 10 ^ decimalBound := by decide +kernel
      _ ≤ value.units * 10 ^ decimalBound := Nat.mul_le_mul_right _ (units_pos nonzero)
  obtain ⟨low, high⟩ := Decimal.digitCount_bounds positive
  have some : 0 < Decimal.digitCount (value.units * 10 ^ decimalBound / 2 ^ 1074) := by
    refine Nat.pos_of_ne_zero fun zero => ?_
    rw [zero] at high
    omega
  rw [Nat.le_div_iff_mul_le unit] at low
  rw [Nat.div_lt_iff_lt_mul unit] at high
  rw [magnitude]
  generalize Decimal.digitCount (value.units * 10 ^ decimalBound / 2 ^ 1074) = count at *
  have scaled : (value.units : ℚ) * 10 ^ decimalBound = value.size * 10 ^ decimalBound * 2 ^ 1074 := by
    rw [size]
    field_simp
  have unitCast : (0 : ℚ) < 2 ^ 1074 := by positivity
  have powerCast : (0 : ℚ) < 10 ^ decimalBound := by positivity
  constructor
  · rw [show (count : ℤ) - decimalBound - 1 = (count - 1 : ℕ) - (decimalBound : ℕ) by omega,
      zpow_sub₀ (by norm_num), zpow_natCast, zpow_natCast, div_le_iff₀ powerCast]
    refine le_of_mul_le_mul_right ?_ unitCast
    rw [← scaled]
    exact_mod_cast low
  · rw [zpow_sub₀ (by norm_num), zpow_natCast, zpow_natCast, lt_div_iff₀ powerCast]
    refine lt_of_mul_lt_mul_right ?_ unitCast.le
    rw [← scaled]
    exact_mod_cast high

/-- How many steps of `10 ^ exponent` a double is away from zero, rounded down. -/
def steps (value : Double) (exponent : ℤ) : ℕ :=
  value.units * 10 ^ (-exponent).toNat / (2 ^ 1074 * 10 ^ exponent.toNat)

theorem le_steps_iff (value : Double) (exponent : ℤ) (count : ℕ) :
    count ≤ value.steps exponent ↔ (⟨count, exponent⟩ : Decimal).number ≤ value.size := by
  have unit : (0 : ℚ) < 2 ^ 1074 := by positivity
  have power : (0 : ℚ) < 10 ^ (-exponent).toNat := by positivity
  rw [steps, Nat.le_div_iff_mul_le (by positivity), Decimal.number, size, le_div_iff₀ unit,
    ← mul_le_mul_iff_left₀ power, mul_right_comm _ _ ((10 : ℚ) ^ (-exponent).toNat),
    mul_assoc (count : ℚ) (10 ^ exponent), ten_zpow, ← @Nat.cast_le ℚ]
  push_cast
  rw [mul_assoc (count : ℚ), mul_comm ((10 : ℚ) ^ exponent.toNat)]

theorem mem_neighbours {value : Double} {tie : Tie} {exponent : ℤ} {decimal : Decimal} :
    decimal ∈ value.neighbours tie exponent ↔
      decimal = ⟨value.steps exponent, exponent⟩ ∨ decimal = ⟨value.steps exponent + 1, exponent⟩ := by
  unfold neighbours
  dsimp only
  rw [← steps]
  split
  · simp
  · split
    · simp
    · simp [or_comm]

theorem steps_lt {value : Double} (nonzero : value.rank ≠ 0) (count : ℕ) :
    value.steps (value.magnitude - count) < 10 ^ count := by
  refine Nat.lt_of_not_le fun large => ?_
  rw [le_steps_iff, Decimal.number] at large
  push_cast at large
  rw [← zpow_natCast, ← zpow_add₀ (by norm_num), add_sub_cancel] at large
  exact absurd (magnitude_bounds nonzero).2 (not_lt.mpr large)

theorem number_le_number (exponent : ℤ) {first second : ℕ} (le : first ≤ second) :
    (⟨first, exponent⟩ : Decimal).number ≤ (⟨second, exponent⟩ : Decimal).number :=
  mul_le_mul_of_nonneg_right (Nat.cast_le.mpr le) (by positivity)

theorem size_le_next (value : Double) (exponent : ℤ) :
    value.size ≤ (⟨value.steps exponent + 1, exponent⟩ : Decimal).number :=
  le_of_not_ge fun reached => Nat.not_succ_le_self _ ((le_steps_iff ..).mpr reached)

theorem exists_neighbour {value : Double} (nonzero : value.rank ≠ 0) {count : ℕ} (some : 0 < count)
    {other : Decimal} (few : other.digits < 10 ^ count) (back : other.rank = value.rank) (tie : Tie) :
    ∃ decimal ∈ value.neighbours tie (value.magnitude - count), decimal.rank = value.rank := by
  have below := (value.le_steps_iff (value.magnitude - count) _).mp le_rfl
  rcases le_or_gt (value.magnitude - count) other.exponent with onGrid | finer
  · obtain ⟨gap, lifted⟩ : ∃ gap : ℕ, other.exponent = value.magnitude - count + gap :=
      ⟨(other.exponent - (value.magnitude - count)).toNat, by omega⟩
    have same : (⟨other.digits * 10 ^ gap, value.magnitude - count⟩ : Decimal).number =
        other.number := by
      rw [Decimal.number, Decimal.number, lifted, zpow_add₀ (by norm_num), zpow_natCast]
      push_cast
      ring
    rcases le_or_gt (other.digits * 10 ^ gap) (value.steps (value.magnitude - count)) with low | high
    · exact ⟨_, mem_neighbours.mpr (.inl rfl),
        rank_of_between back (.inl ⟨same ▸ number_le_number _ low, below⟩)⟩
    · exact ⟨_, mem_neighbours.mpr (.inr rfl),
        rank_of_between back (.inr ⟨value.size_le_next _, same ▸ number_le_number _ high⟩)⟩
  · -- A finer decimal of as many digits is below the first number of the grid's own length.
    have first : (⟨10 ^ (count - 1), value.magnitude - count⟩ : Decimal).number =
        10 ^ (value.magnitude - 1) := by
      rw [Decimal.number]
      push_cast
      rw [← zpow_natCast, ← zpow_add₀ (by norm_num), show ((count - 1 : ℕ) : ℤ) +
        (value.magnitude - count) = value.magnitude - 1 by omega]
    have reached := (value.le_steps_iff (value.magnitude - count) _).mpr
      (first ▸ (magnitude_bounds nonzero).1)
    have small : other.number ≤ 10 ^ (value.magnitude - 1) :=
      calc other.number ≤ 10 ^ count * 10 ^ other.exponent :=
            mul_le_mul_of_nonneg_right (by exact_mod_cast few.le) (by positivity)
        _ = 10 ^ (count + other.exponent) := by rw [← zpow_natCast, ← zpow_add₀ (by norm_num)]
        _ ≤ 10 ^ (value.magnitude - 1) := zpow_le_zpow_right₀ (by norm_num) (by omega)
    exact ⟨_, mem_neighbours.mpr (.inl rfl), rank_of_between back
      (.inl ⟨(first ▸ small).trans (number_le_number _ reached), below⟩)⟩

theorem rank_of_near {value : Double} {decimal : Decimal}
    (low : 2 * 10 ^ 16 * (value.size - decimal.number) ≤ value.size)
    (high : 2 * 10 ^ 16 * (decimal.number - value.size) ≤ value.size) :
    decimal.rank = value.rank := by
  have own : value.size = sizeAt value.rank := rfl
  have next := sizeAt_apart value.rank
  have step := sizeAt_lt (Nat.lt_succ_self value.rank)
  rw [Nat.succ_eq_add_one] at step
  rw [own] at low high
  -- Neighbouring doubles are at least twice as far apart, on both sides.
  refine Decimal.rank_eq_iff.mpr (roundsTo_of_midpoints (fun below before => ?_) ?_ fun tie => ?_)
  · have spacing := sizeAt_apart below
    have less := sizeAt_lt (before ▸ Nat.lt_succ_self below : below < value.rank)
    rw [← before] at spacing
    exact ⟨by linarith, fun tie => by linarith⟩
  · linarith
  · linarith

theorem exists_seventeen {value : Double} (nonzero : value.rank ≠ 0) (tie : Tie) :
    ∃ decimal ∈ value.neighbours tie (value.magnitude - 17), decimal.rank = value.rank := by
  have step : 10 ^ 16 * (10 : ℚ) ^ (value.magnitude - 17) ≤ value.size := by
    refine le_of_eq_of_le ?_ (magnitude_bounds nonzero).1
    rw [← zpow_natCast, ← zpow_add₀ (by norm_num)]
    congr 1
    omega
  have below := (value.le_steps_iff (value.magnitude - 17) _).mp le_rfl
  have above := value.size_le_next (value.magnitude - 17)
  have next : (⟨value.steps (value.magnitude - 17) + 1, value.magnitude - 17⟩ : Decimal).number =
      (⟨value.steps (value.magnitude - 17), value.magnitude - 17⟩ : Decimal).number +
        10 ^ (value.magnitude - 17) := by
    rw [Decimal.number, Decimal.number]
    push_cast
    ring
  have positive := value.size_nonneg
  rcases le_total (2 * (value.size -
      (⟨value.steps (value.magnitude - 17), value.magnitude - 17⟩ : Decimal).number))
      (10 ^ (value.magnitude - 17)) with near | far
  · refine ⟨_, mem_neighbours.mpr (.inl rfl), rank_of_near ?_ ?_⟩ <;> linarith
  · refine ⟨_, mem_neighbours.mpr (.inr rfl), rank_of_near ?_ ?_⟩ <;> linarith

/-! ## Fewest digits -/

theorem exists_findSome?_range {Result : Type} (find : ℕ → Option Result) {index count : ℕ}
    (less : index < count) (found : (find index).isSome = true) :
    ∃ first ≤ index, ∃ result, find first = some result ∧
      (List.range count).findSome? find = some result := by
  induction count with
  | zero => omega
  | succ count ih =>
    rw [List.range_succ, List.findSome?_append]
    rcases Nat.lt_or_eq_of_le (Nat.le_of_lt_succ less) with before | rfl
    · obtain ⟨first, early, result, isFound, all⟩ := ih before
      exact ⟨first, early, result, isFound, by rw [all]; rfl⟩
    · cases earlier : (List.range index).findSome? find with
      | some result =>
        obtain ⟨first, among, isFound⟩ := List.exists_of_findSome?_eq_some earlier
        exact ⟨first, Nat.le_of_lt (List.mem_range.mp among), result, isFound, rfl⟩
      | none =>
        obtain ⟨result, isFound⟩ := Option.isSome_iff_exists.mp found
        exact ⟨index, Nat.le_refl index, result, isFound, by simp [isFound]⟩

theorem firstReadingBack?_of_neighbour {value : Double} (finite : value.isFinite = true) {tie : Tie}
    {count : ℕ} (positive : 0 < count) (few : count ≤ 17) {decimal : Decimal}
    (near : decimal ∈ value.neighbours tie (value.magnitude - count))
    (back : decimal.rank = value.rank) :
    ∃ found fewer, value.firstReadingBack? tie = some found ∧ 0 < fewer ∧ fewer ≤ count ∧
      found ∈ value.neighbours tie (value.magnitude - (fewer : ℕ)) := by
  obtain ⟨spare, same⟩ : ∃ spare, count = spare + 1 := Nat.exists_eq_succ_of_ne_zero positive.ne'
  have present : ((value.neighbours tie (value.magnitude - ((spare : ℤ) + 1))).find?
      value.readsBack).isSome = true := by
    rw [List.find?_isSome]
    refine ⟨decimal, ?_, (readsBack_iff finite).mpr back⟩
    rwa [same, Nat.cast_succ] at near
  obtain ⟨first, early, found, isFound, all⟩ := exists_findSome?_range
    (fun spare : ℕ => (value.neighbours tie (value.magnitude - ((spare : ℤ) + 1))).find?
      value.readsBack) (show spare < 17 by omega) present
  refine ⟨found, first + 1, all, by omega, by omega, ?_⟩
  exact List.mem_of_find?_eq_some isFound

/-- Whether at most so many significant digits spell a number. -/
def HasDigits (count : ℕ) (number : ℚ) : Prop :=
  ∃ decimal : Decimal, decimal.digits < 10 ^ count ∧ decimal.number = number

theorem hasDigits_of_neighbour {value : Double} (nonzero : value.rank ≠ 0) {tie : Tie}
    {fewer count : ℕ} (some : 0 < fewer) (le : fewer ≤ count) {decimal : Decimal}
    (near : decimal ∈ value.neighbours tie (value.magnitude - fewer)) :
    HasDigits count decimal.number := by
  have less := steps_lt nonzero fewer
  have bounds : decimal.digits ≤ 10 ^ fewer := by
    rcases mem_neighbours.mp near with rfl | rfl
    · exact less.le
    · exact less
  rcases Nat.lt_or_eq_of_le bounds with inside | carried
  · exact ⟨decimal, Nat.lt_of_lt_of_le inside (Nat.pow_le_pow_right (by decide) le), rfl⟩
  · -- Carried into one digit more, the number is a power of ten.
    refine ⟨⟨1, decimal.exponent + fewer⟩, Nat.one_lt_pow (by omega) (by decide), ?_⟩
    rw [Decimal.number, Decimal.number, carried, zpow_add₀ (by norm_num), zpow_natCast]
    push_cast
    ring

theorem hasDigits_shortest {value : Double} (finite : value.isFinite = true)
    (nonzero : value.rank ≠ 0) {count : ℕ} {other : Decimal} (few : other.digits < 10 ^ count)
    (back : other.rank = value.rank) (tie : Tie) :
    HasDigits count (value.shortest tie).number := by
  have some : 0 < count := by
    refine Nat.pos_of_ne_zero fun none => nonzero ?_
    have zero : other.digits = 0 := by
      rw [none] at few
      omega
    rw [← back, Decimal.rank, decimalRank, zero, Nat.zero_mul, Nat.zero_mul]
    exact nearestRank_of_lt (Nat.pow_pos (by decide))
  obtain ⟨enough, positive, bounded, le, decimal, near, reads⟩ : ∃ enough, 0 < enough ∧ enough ≤ 17 ∧
      enough ≤ count ∧ ∃ decimal ∈ value.neighbours tie (value.magnitude - (enough : ℕ)),
        decimal.rank = value.rank := by
    rcases le_total count 17 with short | long
    · exact ⟨count, some, short, le_rfl, exists_neighbour nonzero some few back tie⟩
    · exact ⟨17, by decide, le_rfl, long, exists_seventeen nonzero tie⟩
  obtain ⟨found, fewer, isFound, more, less, among⟩ :=
    firstReadingBack?_of_neighbour finite positive bounded near reads
  rw [shortest, isFound, Option.getD_some, Decimal.normalize, Decimal.number_trim]
  exact hasDigits_of_neighbour nonzero more (less.trans le) among

end Double

namespace Double.Layout

open Numeral

theorem magnitude_numeral (layout : Layout) {value : Double} (finite : value.isFinite = true)
    (nonzero : value.rank ≠ 0) :
    (layout.numeral value).magnitude = (value.shortest layout.tie).number := by
  have positive := shortest_digits_pos finite nonzero layout.tie
  rw [numeral, if_neg nonzero]
  dsimp only
  split
  · obtain ⟨zeros, written, scaled⟩ := layout.positionalNumeral_digits value.negative
      (digitText (value.shortest layout.tie).digits) (value.shortest layout.tie).magnitude
    rw [Numeral.magnitude, written, scaled, digitValue_digitText, Decimal.magnitude,
      digitCount_eq positive, Decimal.number, add_sub_cancel_left, zpow_sub₀ (by norm_num),
      zpow_natCast]
    push_cast
    field_simp
  · rw [Numeral.magnitude, coefficient_exponentNumeral,
      scale_exponentNumeral _ _ (digitText_areDigits _).1, digitValue_digitText, Decimal.magnitude,
      digitCount_eq positive, Decimal.number, Int.sub_add_cancel, add_sub_cancel_left]

theorem hasDigits_numeral (layout : Layout) {value : Double} (finite : value.isFinite = true)
    {number : ℚ} (rounds : RoundsTo number value.rank) {count : ℕ} (few : HasDigits count number) :
    HasDigits count (layout.numeral value).magnitude := by
  by_cases zero : value.rank = 0
  · refine ⟨⟨0, 0⟩, Nat.pow_pos (by decide), ?_⟩
    obtain ⟨zeros, written, -⟩ := layout.positionalNumeral_digits value.negative ['0'] 1
    rw [numeral, if_pos zero, Numeral.magnitude, written, show digitValue ['0'] = 0 from rfl]
    simp [Decimal.number]
  · obtain ⟨decimal, short, rfl⟩ := few
    rw [magnitude_numeral layout finite zero]
    exact hasDigits_shortest finite zero short (Decimal.rank_eq_iff.mpr rounds) layout.tie

theorem negative_numeral (layout : Layout) (value : Double) :
    (layout.numeral value).negative = value.negative := by
  rw [numeral]
  split
  · exact layout.negative_positionalNumeral ..
  · dsimp only
    split
    · exact layout.negative_positionalNumeral ..
    · rfl

end Double.Layout

theorem Numeral.roundsTo {numeral : Numeral} {value : Double} (finite : value.isFinite = true)
    (reads : numeral.value = value) : Double.RoundsTo numeral.magnitude value.rank := by
  have rank : (⟨numeral.coefficient, numeral.scale⟩ : Decimal).rank = value.rank :=
    Double.rank_of_ofDecimal finite reads
  have same : numeral.magnitude = (⟨numeral.coefficient, numeral.scale⟩ : Decimal).number := rfl
  rw [same]
  exact Decimal.rank_eq_iff.mp rank

/-- A numeral of the fewest significant digits that a double is the nearest one to. -/
structure Double.IsShortest (value : Double) (numeral : Numeral) : Prop where
  wellFormed : numeral.WellFormed
  sign : numeral.negative = value.negative
  rounds : Double.RoundsTo numeral.magnitude value.rank
  fewest : ∀ count number, Double.RoundsTo number value.rank → Double.HasDigits count number →
    Double.HasDigits count numeral.magnitude

theorem Double.Layout.isShortest (layout : Double.Layout) {value : Double}
    (finite : value.isFinite = true) : value.IsShortest (layout.numeral value) where
  wellFormed := layout.numeral_wellFormed finite
  sign := layout.negative_numeral value
  rounds := Numeral.roundsTo finite (layout.value_numeral finite)
  fewest _ _ rounds few := layout.hasDigits_numeral finite rounds few

end Modelsmith
