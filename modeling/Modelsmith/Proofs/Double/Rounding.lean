import Modelsmith.Double.Rounding

/-! The grid of magnitudes and the rounding to it. Magnitudes grow with their rank, a ratio between
two of them is rounded by comparing it with their midpoint, and a decimal is rounded by its value
alone, however its digits and its exponent are chosen. -/

set_option autoImplicit false

namespace Modelsmith.Double

/-! ## The grid -/

/-- Within one power of two the magnitudes are the multiples of one step; the last of them is the
first of the next power. -/
theorem unitsAt_scaled (shift mantissa : Nat) (low : 2 ^ 52 ≤ mantissa) (high : mantissa ≤ 2 ^ 53) :
    unitsAt (shift * 2 ^ 52 + mantissa) = mantissa * 2 ^ shift := by
  have large : ¬ shift * 2 ^ 52 + mantissa < 2 ^ 52 := by omega
  rw [unitsAt, if_neg large]
  rcases Nat.lt_or_ge mantissa (2 ^ 53) with below | above
  · have quotient : (shift * 2 ^ 52 + mantissa) / 2 ^ 52 = shift + 1 := by omega
    have remainder : (shift * 2 ^ 52 + mantissa) % 2 ^ 52 = mantissa - 2 ^ 52 := by omega
    rw [quotient, remainder, Nat.add_sub_cancel, Nat.add_sub_cancel' low]
  · have top : mantissa = 2 ^ 53 := by omega
    have quotient : (shift * 2 ^ 52 + mantissa) / 2 ^ 52 = shift + 2 := by omega
    have remainder : (shift * 2 ^ 52 + mantissa) % 2 ^ 52 = 0 := by omega
    rw [quotient, remainder, top, show shift + 2 - 1 = shift + 1 by omega, Nat.pow_succ 2 shift]
    omega

theorem unitsAt_of_le {rank : Nat} (small : rank ≤ 2 ^ 53) : unitsAt rank = rank := by
  rcases Nat.lt_or_ge rank (2 ^ 52) with below | above
  · rw [unitsAt, if_pos below]
  · simpa using unitsAt_scaled 0 rank above small

theorem unitsAt_normal {rank : Nat} (normal : 2 ^ 52 ≤ rank) :
    ∃ shift mantissa, 2 ^ 52 ≤ mantissa ∧ mantissa < 2 ^ 53 ∧
      unitsAt rank = mantissa * 2 ^ shift ∧ unitsAt (rank + 1) = (mantissa + 1) * 2 ^ shift := by
  obtain ⟨shift, mantissa, low, high, rfl⟩ : ∃ shift mantissa,
      2 ^ 52 ≤ mantissa ∧ mantissa < 2 ^ 53 ∧ rank = shift * 2 ^ 52 + mantissa :=
    ⟨rank / 2 ^ 52 - 1, 2 ^ 52 + rank % 2 ^ 52, by omega, by omega, by omega⟩
  refine ⟨shift, mantissa, low, high, unitsAt_scaled shift mantissa low (by omega), ?_⟩
  rw [Nat.add_assoc, unitsAt_scaled shift (mantissa + 1) (by omega) high]

theorem unitsAt_lt_succ (rank : Nat) : unitsAt rank < unitsAt (rank + 1) := by
  rcases Nat.lt_or_ge rank (2 ^ 52) with below | above
  · rw [unitsAt_of_le (by omega), unitsAt_of_le (by omega)]
    omega
  · obtain ⟨shift, mantissa, -, -, here, next⟩ := unitsAt_normal above
    rw [here, next]
    exact Nat.mul_lt_mul_of_pos_right (Nat.lt_succ_self mantissa) (Nat.two_pow_pos shift)

theorem unitsAt_succ_le {rank : Nat} (normal : 2 ^ 52 ≤ rank) :
    2 ^ 52 * unitsAt (rank + 1) ≤ (2 ^ 52 + 1) * unitsAt rank := by
  obtain ⟨shift, mantissa, low, -, here, next⟩ := unitsAt_normal normal
  rw [here, next, ← Nat.mul_assoc, ← Nat.mul_assoc]
  exact Nat.mul_le_mul_right _ (by omega)

theorem unitsAt_lt {rank other : Nat} (less : rank < other) : unitsAt rank < unitsAt other := by
  induction other with
  | zero => omega
  | succ other ih =>
    rcases Nat.lt_or_eq_of_le (Nat.le_of_lt_succ less) with below | rfl
    · exact Nat.lt_trans (ih below) (unitsAt_lt_succ other)
    · exact unitsAt_lt_succ rank

theorem unitsAt_mono {rank other : Nat} (le : rank ≤ other) : unitsAt rank ≤ unitsAt other := by
  rcases Nat.lt_or_eq_of_le le with less | rfl
  · exact Nat.le_of_lt (unitsAt_lt less)
  · exact Nat.le_refl (unitsAt rank)

theorem lt_of_unitsAt_lt {rank other : Nat} (less : unitsAt rank < unitsAt other) :
    rank < other := by
  rcases Nat.lt_trichotomy rank other with below | rfl | above
  · exact below
  · omega
  · have := unitsAt_lt above
    omega

@[simp] theorem unitsAt_zero : unitsAt 0 = 0 := unitsAt_of_le (by omega)

@[simp] theorem unitsAt_one : unitsAt 1 = 1 := unitsAt_of_le (by omega)

theorem unitsAt_rankBelow (whole : Nat) :
    unitsAt (rankBelow whole) ≤ whole ∧ whole < unitsAt (rankBelow whole + 1) := by
  unfold rankBelow
  rcases Nat.lt_or_ge whole (2 ^ 53) with small | large
  · have shift : whole.log2 - 52 = 0 := by
      rcases Nat.eq_zero_or_pos whole with rfl | positive
      · simp
      · have := (Nat.log2_lt (Nat.pos_iff_ne_zero.mp positive)).mpr small
        omega
    simp only [shift, Nat.zero_mul, Nat.pow_zero, Nat.div_one, Nat.zero_add]
    rw [unitsAt_of_le (by omega), unitsAt_of_le (by omega)]
    omega
  · have nonzero : whole ≠ 0 := by omega
    have order : 53 ≤ whole.log2 := (Nat.le_log2 nonzero).mpr large
    obtain ⟨shift, shift_eq⟩ : ∃ shift, whole.log2 = shift + 52 := ⟨whole.log2 - 52, by omega⟩
    have low : 2 ^ (shift + 52) ≤ whole := shift_eq ▸ Nat.log2_self_le nonzero
    have high : whole < 2 ^ (shift + 53) := by
      have := Nat.lt_log2_self (n := whole)
      rwa [shift_eq] at this
    rw [shift_eq, Nat.add_sub_cancel]
    have mantissa_low : 2 ^ 52 ≤ whole / 2 ^ shift := by
      rw [Nat.le_div_iff_mul_le (Nat.two_pow_pos shift), ← Nat.pow_add, Nat.add_comm]
      exact low
    have mantissa_high : whole / 2 ^ shift < 2 ^ 53 := by
      rw [Nat.div_lt_iff_lt_mul (Nat.two_pow_pos shift), ← Nat.pow_add, Nat.add_comm 53]
      exact high
    rw [Nat.add_assoc, unitsAt_scaled shift _ mantissa_low (by omega),
      unitsAt_scaled shift _ (by omega) (by omega)]
    refine ⟨Nat.div_mul_le_self whole (2 ^ shift), ?_⟩
    exact (Nat.div_lt_iff_lt_mul (Nat.two_pow_pos shift)).mp (Nat.lt_succ_self _)

theorem rankBelow_eq {whole rank : Nat} (low : unitsAt rank ≤ whole)
    (high : whole < unitsAt (rank + 1)) : rankBelow whole = rank := by
  obtain ⟨below, above⟩ := unitsAt_rankBelow whole
  have first : rankBelow whole < rank + 1 :=
    lt_of_unitsAt_lt (Nat.lt_of_le_of_lt below high)
  have second : rank < rankBelow whole + 1 :=
    lt_of_unitsAt_lt (Nat.lt_of_le_of_lt low above)
  omega

/-! ## Rounding a ratio -/

theorem nearestRank_bounds (numerator denominator : Nat) :
    rankBelow (numerator / denominator) ≤ nearestRank numerator denominator ∧
      nearestRank numerator denominator ≤ rankBelow (numerator / denominator) + 1 := by
  unfold nearestRank
  dsimp only
  split
  · omega
  · split <;> omega

theorem nearestRank_le_of_lt {numerator denominator rank : Nat} (positive : 0 < denominator)
    (below : numerator < unitsAt rank * denominator) : nearestRank numerator denominator ≤ rank := by
  have low := (unitsAt_rankBelow (numerator / denominator)).1
  have less := lt_of_unitsAt_lt (Nat.lt_of_le_of_lt low ((Nat.div_lt_iff_lt_mul positive).mpr below))
  exact Nat.le_trans (nearestRank_bounds numerator denominator).2 less

theorem le_nearestRank_of_le {numerator denominator rank : Nat} (positive : 0 < denominator)
    (above : unitsAt rank * denominator ≤ numerator) : rank ≤ nearestRank numerator denominator := by
  have high := (unitsAt_rankBelow (numerator / denominator)).2
  have less := lt_of_unitsAt_lt
    (Nat.lt_of_le_of_lt ((Nat.le_div_iff_mul_le positive).mpr above) high)
  exact Nat.le_trans (Nat.le_of_lt_succ less) (nearestRank_bounds numerator denominator).1

theorem nearestRank_mul_left (factor numerator denominator : Nat) (positive : 0 < factor) :
    nearestRank (factor * numerator) (factor * denominator) = nearestRank numerator denominator := by
  have scaled : ∀ sum, factor * denominator * sum = factor * (denominator * sum) :=
    fun sum => Nat.mul_assoc factor denominator sum
  have doubled : 2 * (factor * numerator) = factor * (2 * numerator) := Nat.mul_left_comm ..
  simp only [nearestRank, Nat.mul_div_mul_left _ _ positive, scaled, doubled,
    Nat.mul_lt_mul_left positive, Nat.mul_right_inj (Nat.pos_iff_ne_zero.mp positive)]

theorem nearestRank_unitsAt (rank denominator : Nat) (positive : 0 < denominator) :
    nearestRank (unitsAt rank * denominator) denominator = rank := by
  have below : rankBelow (unitsAt rank) = rank := rankBelow_eq (Nat.le_refl _) (unitsAt_lt_succ rank)
  have farther : 2 * (unitsAt rank * denominator) <
      denominator * (unitsAt rank + unitsAt (rank + 1)) := by
    have := Nat.mul_lt_mul_of_pos_left (unitsAt_lt_succ rank) positive
    rw [Nat.mul_add, Nat.mul_comm (unitsAt rank)]
    omega
  simp only [nearestRank, Nat.mul_div_cancel _ positive, below]
  rw [if_neg (by omega), if_neg (by omega)]

theorem nearestRank_midpoints {numerator denominator rank : Nat} (positive : 0 < denominator)
    (rounded : nearestRank numerator denominator = rank + 1) :
    denominator * (unitsAt rank + unitsAt (rank + 1)) ≤ 2 * numerator ∧
      2 * numerator ≤ denominator * (unitsAt (rank + 1) + unitsAt (rank + 1 + 1)) := by
  obtain ⟨low, high⟩ := unitsAt_rankBelow (numerator / denominator)
  have lower := (Nat.le_div_iff_mul_le positive).mp low
  have upper := (Nat.div_lt_iff_lt_mul positive).mp high
  have first := Nat.mul_le_mul_right denominator (Nat.le_of_lt (unitsAt_lt_succ rank))
  have second := Nat.mul_le_mul_right denominator (Nat.le_of_lt (unitsAt_lt_succ (rank + 1)))
  clear low high
  simp only [nearestRank, Nat.mul_comm denominator, Nat.add_mul] at rounded ⊢
  generalize rankBelow (numerator / denominator) = below at *
  -- The rank below is the answer or the one before it.
  split at rounded
  · obtain rfl : below = rank := by omega
    omega
  · split at rounded
    · obtain rfl : below = rank := by omega
      omega
    · subst rounded
      omega

/-! ## Rounding a decimal -/

theorem nearestRank_close {numerator denominator : Nat} (positive : 0 < denominator)
    (large : 2 ^ 53 * denominator ≤ numerator) :
    2 ^ 53 * (denominator * unitsAt (nearestRank numerator denominator)) ≤ (2 ^ 53 + 1) * numerator ∧
      2 ^ 53 * numerator ≤
        (2 ^ 53 + 1) * (denominator * unitsAt (nearestRank numerator denominator)) := by
  have normal : 2 ^ 53 ≤ nearestRank numerator denominator :=
    le_nearestRank_of_le positive (by rwa [unitsAt_of_le (Nat.le_refl _)])
  obtain ⟨rank, rounded⟩ : ∃ rank, nearestRank numerator denominator = rank + 1 :=
    ⟨_, (Nat.sub_add_cancel (by omega)).symm⟩
  obtain ⟨low, high⟩ := nearestRank_midpoints positive rounded
  have below := Nat.mul_le_mul_left denominator (@unitsAt_succ_le rank (by omega))
  have above := Nat.mul_le_mul_left denominator (@unitsAt_succ_le (rank + 1) (by omega))
  rw [Nat.mul_left_comm, Nat.mul_left_comm denominator] at below above
  rw [Nat.mul_add] at low high
  rw [rounded]
  generalize denominator * unitsAt rank = first at *
  generalize denominator * unitsAt (rank + 1) = second at *
  generalize denominator * unitsAt (rank + 1 + 1) = third at *
  omega

theorem ofRank_of_le {rank : Nat} (negative : Bool) (large : pastFinite ≤ rank) :
    ofRank negative rank = infinity negative := by
  rw [ofRank, dif_neg (by omega)]

theorem rank_ofRank {negative : Bool} {rank : Nat} (finite : rank < pastFinite) :
    (ofRank negative rank).rank = rank := by
  rw [ofRank, dif_pos finite]
  simp only [Double.rank]
  omega

theorem isFinite_ofRank {negative : Bool} {rank : Nat} (finite : rank < pastFinite) :
    (ofRank negative rank).isFinite = true := by
  simp only [ofRank, dif_pos finite, isFinite, decide_eq_true_eq]
  simp only [pastFinite] at finite
  omega

theorem ofRank_rank {value : Double} (finite : value.isFinite = true) :
    ofRank value.negative value.rank = value := by
  obtain ⟨negative, ⟨exponent, exponent_lt⟩, ⟨fraction, fraction_lt⟩⟩ := value
  have exponent_le : exponent < 2047 := by simpa [isFinite] using finite
  have quotient : (exponent * 2 ^ 52 + fraction) / 2 ^ 52 = exponent := by omega
  have remainder : (exponent * 2 ^ 52 + fraction) % 2 ^ 52 = fraction := by omega
  have bounded : exponent * 2 ^ 52 + fraction < pastFinite := by
    simp only [pastFinite]
    omega
  simp only [ofRank, rank, dif_pos bounded, quotient, remainder]

theorem rank_lt_pastFinite {value : Double} (finite : value.isFinite = true) :
    value.rank < pastFinite := by
  have exponent_lt : value.exponent.val < 2047 := by simpa [isFinite] using finite
  have fraction_lt := value.fraction.isLt
  simp only [rank, pastFinite]
  omega

theorem pow_mul_pow_eq (base : Nat) {first second third fourth : Nat}
    (same : first + second = third + fourth) :
    base ^ first * base ^ second = base ^ third * base ^ fourth := by
  rw [← Nat.pow_add, ← Nat.pow_add, same]

theorem pastFinite_le_nearestRank {numerator denominator : Nat} (positive : 0 < denominator)
    (large : 2 ^ 1024 * 2 ^ 1074 * denominator ≤ numerator) :
    pastFinite ≤ nearestRank numerator denominator := by
  refine le_nearestRank_of_le positive ?_
  rwa [show pastFinite = 2045 * 2 ^ 52 + 2 ^ 53 from rfl,
    unitsAt_scaled 2045 (2 ^ 53) (by omega) (Nat.le_refl _),
    pow_mul_pow_eq 2 (show 53 + 2045 = 1024 + 1074 from rfl)]

theorem nearestRank_of_lt {numerator denominator : Nat} (small : 2 * numerator < denominator) :
    nearestRank numerator denominator = 0 := by
  have whole : numerator / denominator = 0 := Nat.div_eq_of_lt (by omega)
  have below : rankBelow 0 = 0 := rankBelow_eq (by simp) (by simp)
  simp only [nearestRank, whole, below, unitsAt_zero, unitsAt_one, Nat.zero_add, Nat.mul_one]
  rw [if_neg (by omega), if_neg (by omega)]

theorem two_pow_le_ten_pow (power exponent : Nat) (small : power ≤ 3 * exponent) :
    2 ^ power ≤ 10 ^ exponent := by
  refine Nat.le_trans (Nat.pow_le_pow_right (by decide) small) ?_
  rw [Nat.pow_mul]
  exact Nat.pow_le_pow_left (by decide) exponent

theorem two_mul_two_pow_lt (coefficient power : Nat) :
    2 * (coefficient * 2 ^ power) < 2 ^ (coefficient.log2 + power + 2) := by
  have smaller : coefficient * 2 ^ power < 2 ^ (coefficient.log2 + 1) * 2 ^ power :=
    Nat.mul_lt_mul_of_pos_right Nat.lt_log2_self (Nat.two_pow_pos power)
  rw [← Nat.pow_add] at smaller
  rw [show coefficient.log2 + power + 2 = coefficient.log2 + 1 + power + 1 by omega,
    Nat.pow_succ]
  omega

/-- The rank of `coefficient * 10 ^ exponent`, by the general rule. -/
def decimalRank (coefficient : Nat) (exponent : Int) : Nat :=
  nearestRank (coefficient * 10 ^ exponent.toNat * 2 ^ 1074) (10 ^ (-exponent).toNat)

theorem ofDecimal_eq (negative : Bool) (coefficient : Nat) (exponent : Int) :
    ofDecimal negative coefficient exponent = ofRank negative (decimalRank coefficient exponent) := by
  unfold ofDecimal decimalRank
  split
  · rename_i zero
    simp only [zero, Nat.zero_mul]
    rw [nearestRank_of_lt (Nat.pow_pos (by decide))]
  rename_i nonzero
  split
  · rename_i huge
    -- Already `10 ^ 400` is past `2 ^ 1024`.
    have power : 2 ^ 1024 ≤ 10 ^ exponent.toNat :=
      two_pow_le_ten_pow 1024 _ (by simp only [decimalBound] at huge; omega)
    have whole : (-exponent).toNat = 0 := by simp only [decimalBound] at huge; omega
    rw [ofRank_of_le]
    apply pastFinite_le_nearestRank (Nat.pow_pos (by decide))
    simp only [whole, Nat.pow_zero, Nat.mul_one]
    apply Nat.mul_le_mul_right
    exact Nat.le_trans power (Nat.le_mul_of_pos_left _ (Nat.pos_of_ne_zero nonzero))
  split
  · rename_i tiny
    simp only [decimalBound] at tiny
    have whole : exponent.toNat = 0 := by omega
    have deep : coefficient.log2 + 1 + 400 ≤ (-exponent).toNat := by omega
    have power : 2 ^ (coefficient.log2 + 1074 + 2) ≤ 10 ^ (-exponent).toNat :=
      two_pow_le_ten_pow _ _ (by omega)
    rw [nearestRank_of_lt]
    rw [whole, Nat.pow_zero, Nat.mul_one]
    exact Nat.lt_of_lt_of_le (two_mul_two_pow_lt coefficient 1074) power
  split
  · have whole : (-exponent).toNat = 0 := by omega
    rw [whole, Nat.pow_zero]
  · have whole : exponent.toNat = 0 := by omega
    rw [whole, Nat.pow_zero, Nat.mul_one]

theorem decimalRank_shift (coefficient places : Nat) (exponent : Int) :
    decimalRank (coefficient * 10 ^ places) (exponent - places) =
      decimalRank coefficient exponent := by
  have positive : ∀ power, 0 < 10 ^ power := fun power => Nat.pow_pos (by decide)
  -- Both ratios are brought to one denominator.
  have powers : 10 ^ (-exponent).toNat * (10 ^ places * 10 ^ (exponent - places).toNat) =
      10 ^ (-(exponent - places)).toNat * 10 ^ exponent.toNat := by
    rw [← Nat.pow_add 10 places]
    exact pow_mul_pow_eq 10 (by omega)
  have numerators : 10 ^ (-exponent).toNat *
        (coefficient * 10 ^ places * 10 ^ (exponent - places).toNat * 2 ^ 1074) =
      10 ^ (-(exponent - places)).toNat * (coefficient * 10 ^ exponent.toNat * 2 ^ 1074) := by
    generalize 2 ^ 1074 = unit
    calc 10 ^ (-exponent).toNat *
          (coefficient * 10 ^ places * 10 ^ (exponent - places).toNat * unit)
        = 10 ^ (-exponent).toNat * (10 ^ places * 10 ^ (exponent - places).toNat) *
            (coefficient * unit) := by ac_rfl
      _ = 10 ^ (-(exponent - places)).toNat * 10 ^ exponent.toNat * (coefficient * unit) := by
          rw [powers]
      _ = 10 ^ (-(exponent - places)).toNat * (coefficient * 10 ^ exponent.toNat * unit) := by ac_rfl
  rw [decimalRank, decimalRank,
    ← nearestRank_mul_left (10 ^ (-exponent).toNat) _ (10 ^ (-(exponent - places)).toNat)
      (positive _),
    ← nearestRank_mul_left (10 ^ (-(exponent - places)).toNat) _ (10 ^ (-exponent).toNat)
      (positive _), numerators, Nat.mul_comm (10 ^ (-exponent).toNat)]

theorem ofDecimal_shift (negative : Bool) (coefficient places : Nat) (exponent : Int) :
    ofDecimal negative (coefficient * 10 ^ places) (exponent - places) =
      ofDecimal negative coefficient exponent := by
  rw [ofDecimal_eq, ofDecimal_eq, decimalRank_shift]

/-! ## Whole numbers -/

theorem exists_unitsAt_eq {value : Nat} (positive : 0 < value) (small : value ≤ 2 ^ 53) :
    ∃ rank, rank < pastFinite ∧ unitsAt rank = value * 2 ^ 1074 := by
  have nonzero : value ≠ 0 := Nat.pos_iff_ne_zero.mp positive
  obtain ⟨places, bounded, low, high⟩ :
      ∃ places ≤ 52, 2 ^ 52 ≤ value * 2 ^ places ∧ value * 2 ^ places ≤ 2 ^ 53 := by
    rcases Nat.lt_or_ge value (2 ^ 52) with below | above
    · have exponent : value.log2 < 52 := (Nat.log2_lt nonzero).mpr below
      have total : 2 ^ value.log2 * 2 ^ (52 - value.log2) = 2 ^ 52 := by
        rw [← Nat.pow_add, Nat.add_sub_cancel' (Nat.le_of_lt exponent)]
      refine ⟨52 - value.log2, by omega, ?_, ?_⟩
      · rw [← total]
        exact Nat.mul_le_mul_right _ (Nat.log2_self_le nonzero)
      · have doubled : 2 ^ (value.log2 + 1) * 2 ^ (52 - value.log2) = 2 ^ 53 := by
          rw [Nat.pow_succ, Nat.mul_right_comm, total]
        rw [← doubled]
        exact Nat.mul_le_mul_right _ (Nat.le_of_lt Nat.lt_log2_self)
    · exact ⟨0, by omega, by omega, by omega⟩
  refine ⟨(1074 - places) * 2 ^ 52 + value * 2 ^ places, ?_, ?_⟩
  · simp only [pastFinite]
    omega
  · rw [unitsAt_scaled _ _ low high, Nat.mul_assoc, ← Nat.pow_add,
      Nat.add_sub_cancel' (by omega)]

theorem units_ofNat {value : Nat} (small : value ≤ 2 ^ 53) :
    (ofNat value).units = value * 2 ^ 1074 := by
  rcases Nat.eq_zero_or_pos value with rfl | positive
  · have zero : (ofNat 0).units = 0 := by
      rw [ofNat, ofDecimal, if_pos rfl, units, rank_ofRank (by decide), unitsAt_of_le (by decide)]
    generalize 2 ^ 1074 = unit
    rw [zero, Nat.zero_mul]
  · obtain ⟨rank, finite, same⟩ := exists_unitsAt_eq positive small
    have rounded : decimalRank value 0 = rank := by
      change nearestRank (value * 1 * 2 ^ 1074) 1 = rank
      rw [Nat.mul_one, ← same, ← Nat.mul_one (unitsAt rank), nearestRank_unitsAt rank 1 Nat.one_pos]
    rw [ofNat, ofDecimal_eq, rounded, units, rank_ofRank finite, same]

theorem ofNat_inj {left right : Nat} (leftSmall : left ≤ 2 ^ 53) (rightSmall : right ≤ 2 ^ 53) :
    ofNat left = ofNat right ↔ left = right := by
  refine ⟨fun same => ?_, fun same => same ▸ rfl⟩
  have units := congrArg units same
  rw [units_ofNat leftSmall, units_ofNat rightSmall] at units
  exact Nat.eq_of_mul_eq_mul_right (Nat.pow_pos (by decide)) units

end Modelsmith.Double
