import Modelsmith.Double.Layout
import Modelsmith.Proofs.Double.Rounding
import Modelsmith.Proofs.Numeral

/-! Doubles read back from their numerals: shortest digits give the same double under every layout,
and a set number of places gives the double nearest to the rounded decimal. -/

set_option autoImplicit false

namespace Modelsmith.Double

/-! ## Shortest digits -/

theorem ofDecimal_zero (negative : Bool) (exponent : Int) :
    ofDecimal negative 0 exponent = ofRank negative 0 := by
  rw [ofDecimal, if_pos rfl]

def reading (negative : Bool) (decimal : Decimal) : Double :=
  ofDecimal negative decimal.digits decimal.exponent

theorem reading_trim (negative : Bool) (fuel : Nat) (decimal : Decimal) :
    reading negative (decimal.trim fuel) = reading negative decimal := by
  induction fuel generalizing decimal with
  | zero => rfl
  | succ fuel ih =>
    rw [Decimal.trim]
    split
    · rename_i divisible
      rw [ih]
      have digits : decimal.digits / 10 * 10 ^ 1 = decimal.digits := by omega
      have shifted := ofDecimal_shift negative (decimal.digits / 10) 1 (decimal.exponent + 1)
      rw [digits, show decimal.exponent + 1 - (1 : Nat) = decimal.exponent by omega] at shifted
      exact shifted.symm
    · rfl

theorem five_two_pow (units power : Nat) : units * 5 ^ power * 2 ^ power = units * 10 ^ power := by
  rw [Nat.mul_assoc, ← Nat.mul_pow]

theorem decimalRank_exactDecimal (value : Double) :
    decimalRank value.exactDecimal.digits value.exactDecimal.exponent = value.rank := by
  have whole : (-1074 : Int).toNat = 0 := rfl
  have places : (-(-1074 : Int)).toNat = 1074 := rfl
  simp only [exactDecimal, decimalRank, whole, places, Nat.pow_zero, Nat.mul_one]
  rw [five_two_pow value.units 1074, units,
    nearestRank_unitsAt value.rank (10 ^ 1074) (Nat.pow_pos (by decide))]

theorem reading_exactDecimal {value : Double} (finite : value.isFinite = true) :
    reading value.negative value.exactDecimal = value := by
  rw [reading, ofDecimal_eq, decimalRank_exactDecimal, ofRank_rank finite]

theorem reading_firstReadingBack? {value : Double} {tie : Tie} {decimal : Decimal}
    (found : value.firstReadingBack? tie = some decimal) :
    reading value.negative decimal = value := by
  obtain ⟨spare, -, among⟩ := List.exists_of_findSome?_eq_some found
  have back := List.find?_some among
  rw [readsBack, decide_eq_true_eq] at back
  exact back

theorem reading_shortest {value : Double} (finite : value.isFinite = true) (tie : Tie) :
    reading value.negative (value.shortest tie) = value := by
  rw [shortest, Decimal.normalize, reading_trim]
  cases found : value.firstReadingBack? tie with
  | some decimal => exact reading_firstReadingBack? found
  | none => exact reading_exactDecimal finite

theorem shortest_digits_pos {value : Double} (finite : value.isFinite = true)
    (nonzero : value.rank ≠ 0) (tie : Tie) : 0 < (value.shortest tie).digits := by
  refine Nat.pos_of_ne_zero fun zero => nonzero ?_
  have back := reading_shortest finite tie
  rw [reading, zero, ofDecimal_zero] at back
  rw [← back, rank_ofRank (by decide)]

/-! ## Layouts -/

theorem isNaN_of_isFinite {value : Double} (finite : value.isFinite = true) :
    value.isNaN = false := by
  simp only [isFinite, decide_eq_true_eq] at finite
  simp only [isNaN, Bool.and_eq_false_iff]
  exact .inl (beq_eq_false_iff_ne.mpr (Nat.ne_of_lt finite))

namespace Layout

open Numeral

variable (layout : Layout) (negative : Bool)

theorem areDigits_append_zeros {digits : List Char} (areDigits : AreDigits digits) (count : Nat) :
    AreDigits (digits ++ List.replicate count '0') := by
  refine ⟨by simp [areDigits.1], fun c member => ?_⟩
  rcases List.mem_append.mp member with inside | zero
  · exact areDigits.2 c inside
  · rw [List.eq_of_mem_replicate zero]
    rfl

theorem areDigits_zeros_append {digits : List Char} (areDigits : AreDigits digits) (count : Nat) :
    AreDigits (List.replicate count '0' ++ digits) := by
  refine ⟨by simp [areDigits.1], fun c member => ?_⟩
  rcases List.mem_append.mp member with zero | inside
  · rw [List.eq_of_mem_replicate zero]
    rfl
  · exact areDigits.2 c inside

theorem areDigits_take {digits : List Char} (areDigits : AreDigits digits) {count : Nat}
    (positive : 0 < count) : AreDigits (digits.take count) :=
  ⟨by simp [areDigits.1]; omega, fun c member => areDigits.2 c (List.mem_of_mem_take member)⟩

theorem areDigits_drop {digits : List Char} (areDigits : AreDigits digits) {count : Nat}
    (less : count < digits.length) : AreDigits (digits.drop count) :=
  ⟨by simp; omega, fun c member => areDigits.2 c (List.mem_of_mem_drop member)⟩

theorem isWhole_take {digits : List Char} (isWhole : IsWhole digits) {count : Nat}
    (positive : 0 < count) : IsWhole (digits.take count) := by
  refine ⟨areDigits_take isWhole.1 positive, ?_⟩
  rcases isWhole.2 with zero | nonzero
  · left
    rw [zero, List.take_of_length_le (by simpa using Nat.succ_le_of_lt positive)]
  · right
    rwa [List.head?_take, if_neg (by omega)]

theorem positionalNumeral_wellFormed {digits : List Char} (areDigits : AreDigits digits)
    (nonzero : digits.head? ≠ some '0') (whole : Int) :
    (layout.positionalNumeral negative digits whole).WellFormed := by
  unfold positionalNumeral
  split
  · refine ⟨⟨⟨by simp, by simp⟩, .inl rfl⟩, ?_, by simp⟩
    rintro fraction ⟨⟩
    exact areDigits_zeros_append areDigits _
  split
  · refine ⟨⟨areDigits_append_zeros areDigits _, .inr ?_⟩, ?_, by simp⟩
    · obtain ⟨nonempty, -⟩ := areDigits
      cases digits with
      | nil => exact absurd rfl nonempty
      | cons first digits => simpa using nonzero
    · intro fraction written
      obtain ⟨-, rfl⟩ : layout.wholePoint = true ∧ ['0'] = fraction := by simpa using written
      exact ⟨by simp, by simp⟩
  · rename_i positive shorter
    refine ⟨isWhole_take ⟨areDigits, .inr nonzero⟩ (by omega), ?_, by simp⟩
    rintro fraction ⟨⟩
    exact areDigits_drop areDigits (by omega)

theorem exponentNumeral_wellFormed {digits : List Char} (areDigits : AreDigits digits)
    (nonzero : digits.head? ≠ some '0') (exponent : Int) :
    (layout.exponentNumeral negative digits exponent).WellFormed := by
  refine ⟨isWhole_take ⟨areDigits, .inr nonzero⟩ (by decide), ?_, ?_⟩
  · intro fraction written
    obtain ⟨longer, rfl⟩ : 1 < digits.length ∧ digits.drop 1 = fraction := by
      simpa [exponentNumeral] using written
    exact areDigits_drop areDigits longer
  · rintro written ⟨⟩
    refine ⟨.inl rfl, ?_, digitText_areDigits _⟩
    intro sign signed
    dsimp only at signed
    split at signed
    · exact .inr (Option.some.inj signed).symm
    · split at signed
      · exact .inl (Option.some.inj signed).symm
      · cases signed

theorem positionalNumeral_digits (digits : List Char) (whole : Int) : ∃ zeros : Nat,
    (layout.positionalNumeral negative digits whole).coefficient = digitValue digits * 10 ^ zeros ∧
      (layout.positionalNumeral negative digits whole).scale = whole - digits.length - zeros := by
  unfold positionalNumeral
  split
  · rename_i below
    refine ⟨0, ?_, ?_⟩
    · rw [coefficient, Option.getD_some, List.cons_append, List.nil_append, ← List.cons_append,
        ← List.replicate_succ, digitValue_append, digitValue_zeros]
      omega
    · simp only [scale, writtenExponent, Option.getD_some, List.length_append,
        List.length_replicate]
      omega
  split
  · rename_i positive longer
    have zeros : digitValue (digits ++ List.replicate (whole.toNat - digits.length) '0') =
        digitValue digits * 10 ^ (whole.toNat - digits.length) := by
      rw [digitValue_append, digitValue_zeros, List.length_replicate, Nat.add_zero]
    split
    · refine ⟨whole.toNat - digits.length + 1, ?_, ?_⟩
      · rw [coefficient, Option.getD_some, digitValue_append _ ['0'], zeros, Nat.pow_succ,
          ← Nat.mul_assoc]
        rfl
      · simp only [scale, writtenExponent, Option.getD_some, List.length_singleton]
        omega
    · refine ⟨whole.toNat - digits.length, ?_, ?_⟩
      · rw [coefficient, Option.getD_none, List.append_nil, zeros]
      · simp only [scale, writtenExponent, Option.getD_none, List.length_nil]
        omega
  · rename_i positive shorter
    refine ⟨0, ?_, ?_⟩
    · rw [coefficient, Option.getD_some, List.take_append_drop, Nat.pow_zero, Nat.mul_one]
    · simp only [scale, writtenExponent, Option.getD_some, List.length_drop]
      omega

theorem negative_positionalNumeral (digits : List Char) (whole : Int) :
    (layout.positionalNumeral negative digits whole).negative = negative := by
  unfold positionalNumeral
  split
  · rfl
  · split <;> rfl

theorem value_positionalNumeral (digits : List Char) (whole : Int) :
    (layout.positionalNumeral negative digits whole).value =
      ofDecimal negative (digitValue digits) (whole - digits.length) := by
  obtain ⟨zeros, written, scaled⟩ := layout.positionalNumeral_digits negative digits whole
  rw [Numeral.value, written, scaled, ofDecimal_shift, negative_positionalNumeral]

theorem coefficient_exponentNumeral (digits : List Char) (exponent : Int) :
    (layout.exponentNumeral negative digits exponent).coefficient = digitValue digits := by
  simp only [exponentNumeral, coefficient]
  split
  · rename_i short
    rw [List.take_of_length_le short, Option.getD_none, List.append_nil]
  · rw [Option.getD_some, List.take_append_drop]

theorem scale_exponentNumeral {digits : List Char} (nonempty : digits ≠ []) (exponent : Int) :
    (layout.exponentNumeral negative digits exponent).scale = exponent + 1 - digits.length := by
  have positive := List.length_pos_iff.mpr nonempty
  have written : (layout.exponentNumeral negative digits exponent).writtenExponent = exponent := by
    simp only [exponentNumeral, writtenExponent, digitValue_digitText]
    split
    · rename_i below
      rw [if_pos (by rfl)]
      omega
    · rename_i above
      rw [if_neg (by split <;> simp)]
      omega
  rw [scale, written]
  simp only [exponentNumeral]
  split
  · simp only [Option.getD_none, List.length_nil]
    omega
  · simp only [Option.getD_some, List.length_drop]
    omega

theorem value_exponentNumeral {digits : List Char} (nonempty : digits ≠ []) (exponent : Int) :
    (layout.exponentNumeral negative digits exponent).value =
      ofDecimal negative (digitValue digits) (exponent + 1 - digits.length) := by
  rw [Numeral.value, coefficient_exponentNumeral, scale_exponentNumeral layout negative nonempty]
  rfl

theorem digitCount_eq {value : Nat} (positive : 0 < value) :
    Decimal.digitCount value = (digitText value).length := by
  rw [Decimal.digitCount, if_neg (by omega)]
  rfl

theorem numeral_wellFormed {value : Double} (finite : value.isFinite = true) :
    (layout.numeral value).WellFormed := by
  unfold numeral
  split
  · refine ⟨⟨⟨by simp [positionalNumeral], by simp [positionalNumeral]⟩,
      .inl (by simp [positionalNumeral])⟩, ?_, by simp [positionalNumeral]⟩
    intro fraction written
    obtain ⟨-, rfl⟩ : layout.wholePoint = true ∧ ['0'] = fraction := by
      simpa [positionalNumeral] using written
    exact ⟨by simp, by simp⟩
  · rename_i nonzero
    have areDigits := digitText_areDigits (value.shortest layout.tie).digits
    obtain ⟨first, rest, same, notZero⟩ := digitText_head (shortest_digits_pos finite nonzero layout.tie)
    have head : (digitText (value.shortest layout.tie).digits).head? ≠ some '0' := by
      rw [same]
      simpa using notZero
    dsimp only
    split
    · exact layout.positionalNumeral_wellFormed _ areDigits head _
    · exact layout.exponentNumeral_wellFormed _ areDigits head _

theorem value_numeral {value : Double} (finite : value.isFinite = true) :
    (layout.numeral value).value = value := by
  unfold numeral
  split
  · rename_i zero
    rw [value_positionalNumeral, show digitValue ['0'] = 0 from rfl, ofDecimal_zero, ← zero,
      ofRank_rank finite]
  · rename_i nonzero
    have positive := shortest_digits_pos finite nonzero layout.tie
    have back := reading_shortest finite layout.tie
    dsimp only
    split
    · rw [value_positionalNumeral, digitValue_digitText, Decimal.magnitude, digitCount_eq positive,
        Int.add_comm, Int.add_sub_cancel]
      exact back
    · rw [value_exponentNumeral _ _ (digitText_areDigits _).1, digitValue_digitText,
        Decimal.magnitude, digitCount_eq positive, Int.sub_add_cancel, Int.add_comm, Int.add_sub_cancel]
      exact back

theorem render_of_finite {value : Double} (finite : value.isFinite = true) :
    layout.render value = (layout.numeral value).text := by
  simp [render, isNaN_of_isFinite finite, finite]

theorem ofText?_render {value : Double} (finite : value.isFinite = true) :
    Double.ofText? (layout.render value) = some value := by
  rw [render_of_finite layout finite, double_ofText?_text (numeral_wellFormed layout finite),
    value_numeral layout finite]

end Layout

/-! ## A set number of places -/

theorem roundHalfEven_bounds (numerator : Nat) {denominator : Nat} (positive : 0 < denominator) :
    2 * numerator ≤ 2 * (roundHalfEven numerator denominator * denominator) + denominator ∧
      2 * (roundHalfEven numerator denominator * denominator) ≤ 2 * numerator + denominator ∧
      (2 * numerator = 2 * (roundHalfEven numerator denominator * denominator) + denominator ∨
        2 * (roundHalfEven numerator denominator * denominator) = 2 * numerator + denominator →
          roundHalfEven numerator denominator % 2 = 0) := by
  have split := Nat.div_add_mod numerator denominator
  have less := Nat.mod_lt numerator positive
  rw [Nat.mul_comm] at split
  unfold roundHalfEven
  dsimp only
  generalize numerator / denominator = floor at *
  generalize numerator % denominator = rest at *
  have next : (floor + 1) * denominator = floor * denominator + denominator := Nat.succ_mul ..
  split
  · rw [next]
    omega
  split
  · rw [next]
    omega
  · omega

open Numeral

theorem padded_length (digits : List Char) (places : Nat) :
    places < (List.replicate (places + 1 - digits.length) '0' ++ digits).length := by
  simp only [List.length_append, List.length_replicate]
  omega

theorem isWhole_padded (scaled places : Nat) :
    IsWhole ((List.replicate (places + 1 - (digitText scaled).length) '0' ++ digitText scaled).take
      ((List.replicate (places + 1 - (digitText scaled).length) '0' ++ digitText scaled).length -
        places)) := by
  rcases Nat.lt_or_ge places (digitText scaled).length with long | short
  · rw [show places + 1 - (digitText scaled).length = 0 by omega, List.replicate_zero,
      List.nil_append]
    exact Layout.isWhole_take (isWhole_digitText scaled) (by omega)
  · obtain ⟨zeros, count⟩ : ∃ zeros, places + 1 - (digitText scaled).length = zeros + 1 :=
      ⟨places - (digitText scaled).length, by omega⟩
    have one : (List.replicate (zeros + 1) '0' ++ digitText scaled).length - places = 1 := by
      simp only [List.length_append, List.length_replicate]
      omega
    rw [count, one, List.replicate_succ, List.cons_append]
    exact ⟨⟨by simp, by simp⟩, .inl rfl⟩

theorem fraction_placesNumeral (negative : Bool) (scaled places : Nat) :
    (places = 0 ∧ (placesNumeral negative scaled places).fraction = none) ∨
      ∃ digits, (placesNumeral negative scaled places).fraction = some digits ∧
        digits.length = places ∧ AreDigits digits := by
  by_cases none : places = 0
  · exact .inl ⟨none, if_pos none⟩
  · have longer := padded_length (digitText scaled) places
    refine .inr ⟨_, if_neg none, ?_, ?_⟩
    · rw [List.length_drop]
      omega
    · apply Layout.areDigits_drop (Layout.areDigits_zeros_append (digitText_areDigits scaled) _)
      omega

theorem coefficient_placesNumeral (negative : Bool) (scaled places : Nat) :
    (placesNumeral negative scaled places).coefficient = scaled := by
  have padded : digitValue (List.replicate (places + 1 - (digitText scaled).length) '0' ++
      digitText scaled) = scaled := by
    rw [digitValue_append, digitValue_zeros, Nat.zero_mul, Nat.zero_add, digitValue_digitText]
  simp only [placesNumeral, coefficient]
  split
  · rename_i none
    subst none
    rw [Option.getD_none, List.append_nil, Nat.sub_zero, List.take_length, padded]
  · rw [Option.getD_some, List.take_append_drop, padded]

/-- The double nearest to a value rounded to a number of decimal places. -/
def atPlaces (places : Nat) (value : Double) : Double :=
  ofDecimal value.negative
    (roundHalfEven (value.units * 10 ^ min places longestFraction) (2 ^ 1074))
    (-(min places longestFraction : Nat))

theorem fixedNumeral_wellFormed (places : Nat) (value : Double) :
    (value.fixedNumeral places).WellFormed := by
  unfold fixedNumeral
  dsimp only
  generalize roundHalfEven _ _ = scaled
  refine ⟨isWhole_padded scaled _, ?_, by simp [placesNumeral]⟩
  intro fraction written
  rcases fraction_placesNumeral value.negative scaled (min places longestFraction) with
    ⟨-, none⟩ | ⟨digits, some, -, areDigits⟩
  · simp [none] at written
  · obtain rfl : digits ++ List.replicate (places - min places longestFraction) '0' = fraction := by
      simpa [some] using written
    exact Layout.areDigits_append_zeros areDigits _

theorem append_zeros_digits (negative : Bool) (whole : List Char) (fraction : Option (List Char))
    (count : Nat) : ∃ zeros : Nat,
    (⟨negative, whole, fraction.map (· ++ List.replicate count '0'), none⟩ : Numeral).coefficient =
        (⟨negative, whole, fraction, none⟩ : Numeral).coefficient * 10 ^ zeros ∧
      (⟨negative, whole, fraction.map (· ++ List.replicate count '0'), none⟩ : Numeral).scale =
        (⟨negative, whole, fraction, none⟩ : Numeral).scale - zeros := by
  cases fraction with
  | none => exact ⟨0, by simp, by simp⟩
  | some digits =>
    refine ⟨count, ?_, ?_⟩
    · rw [coefficient, coefficient, Option.map_some, Option.getD_some, Option.getD_some,
        ← List.append_assoc, digitValue_append _ (List.replicate count '0'), digitValue_zeros,
        List.length_replicate, Nat.add_zero]
    · simp only [scale, writtenExponent, Option.map_some, Option.getD_some, List.length_append,
        List.length_replicate]
      omega

theorem scale_placesNumeral (negative : Bool) (scaled places : Nat) :
    (placesNumeral negative scaled places).scale = -(places : Int) := by
  have length : ((placesNumeral negative scaled places).fraction.getD []).length = places := by
    rcases fraction_placesNumeral negative scaled places with ⟨rfl, none⟩ | ⟨digits, some, length, -⟩
    · rw [none]
      rfl
    · rw [some]
      exact length
  rw [scale, length, show (placesNumeral negative scaled places).writtenExponent = 0 from rfl,
    Int.zero_sub]

theorem fixedNumeral_digits (places : Nat) (value : Double) : ∃ zeros : Nat,
    (value.fixedNumeral places).coefficient =
        roundHalfEven (value.units * 10 ^ min places longestFraction) (2 ^ 1074) * 10 ^ zeros ∧
      (value.fixedNumeral places).scale = -(min places longestFraction : Nat) - zeros := by
  rw [← coefficient_placesNumeral value.negative (roundHalfEven _ _) (min places longestFraction),
    ← scale_placesNumeral value.negative
      (roundHalfEven (value.units * 10 ^ min places longestFraction) (2 ^ 1074))]
  exact append_zeros_digits ..

theorem value_fixedNumeral (places : Nat) (value : Double) :
    (value.fixedNumeral places).value = value.atPlaces places := by
  obtain ⟨zeros, written, scaled⟩ := value.fixedNumeral_digits places
  rw [Numeral.value, written, scaled, ofDecimal_shift]
  rfl

end Modelsmith.Double
