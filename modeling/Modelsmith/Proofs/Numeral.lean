import Modelsmith.Numeral
import Modelsmith.Proofs.Text

/-! Numerals read back from their own text. A numeral of the grammar, in front of anything that
cannot extend it, is read as itself; the digits of a number spell that number. -/

set_option autoImplicit false

namespace Modelsmith

/-! ## Digits -/

def AreDigits (text : List Char) : Prop := text ≠ [] ∧ ∀ c ∈ text, c.isDigit = true

theorem digitText_areDigits (value : Nat) : AreDigits (digitText value) :=
  ⟨Nat.toDigits_ne_nil, fun _ member => Nat.isDigit_of_mem_toDigits (by decide) (by decide) member⟩

@[simp] theorem digitValue_digitText (value : Nat) : digitValue (digitText value) = value :=
  Nat.ofDigitChars_ten_toDigits

theorem digitText_zero : digitText 0 = ['0'] := Nat.toDigits_zero 10

theorem digitValue_append (first second : List Char) :
    digitValue (first ++ second) = digitValue first * 10 ^ second.length + digitValue second := by
  have split : digitValue (first ++ second) = Nat.ofDigitChars 10 second (digitValue first) :=
    Nat.ofDigitChars_append 0
  rw [split, Nat.ofDigitChars_eq_ofDigitChars_zero, Nat.mul_comm]
  rfl

theorem digitValue_zeros (count : Nat) : digitValue (List.replicate count '0') = 0 :=
  (@Nat.ofDigitChars_replicate_zero 10 0 count).trans (Nat.mul_zero _)

theorem digitText_head {value : Nat} (positive : 0 < value) :
    ∃ first rest, digitText value = first :: rest ∧ first ≠ '0' := by
  induction value using Nat.strongRecOn with
  | _ value ih =>
    rcases Nat.lt_or_ge value 10 with small | large
    · refine ⟨Nat.digitChar value, [], Nat.toDigits_of_lt_base small, ?_⟩
      have digits : ∀ digit < 10, 0 < digit → Nat.digitChar digit ≠ '0' := by decide
      exact digits value small positive
    · obtain ⟨first, rest, same, nonzero⟩ := ih (value / 10) (by omega) (by omega)
      refine ⟨first, rest ++ [Nat.digitChar (value % 10)], ?_, nonzero⟩
      rw [digitText, Nat.toDigits_of_base_le (by decide) large]
      rw [digitText] at same
      rw [same, List.cons_append]

namespace Numeral

/-! ## The grammar -/

/-- A lone zero, or digits that start with another one. -/
def IsWhole (text : List Char) : Prop :=
  AreDigits text ∧ (text = ['0'] ∨ text.head? ≠ some '0')

structure Exponent.WellFormed (exponent : Exponent) : Prop where
  mark : exponent.mark = 'e' ∨ exponent.mark = 'E'
  sign : ∀ sign, exponent.sign = some sign → sign = '+' ∨ sign = '-'
  digits : AreDigits exponent.digits

structure WellFormed (numeral : Numeral) : Prop where
  whole : IsWhole numeral.whole
  fraction : ∀ digits, numeral.fraction = some digits → AreDigits digits
  exponent : ∀ exponent, numeral.exponent = some exponent → exponent.WellFormed

/-- A text that does not continue a numeral in front of it. -/
def Ends (text : List Char) : Prop :=
  ∀ c, text.head? = some c → c.isDigit = false ∧ c ≠ '.' ∧ c ≠ 'e' ∧ c ≠ 'E'

theorem ends_nil : Ends [] := by
  intro c head
  cases head

theorem isWhole_digitText (value : Nat) : IsWhole (digitText value) := by
  refine ⟨digitText_areDigits value, ?_⟩
  rcases Nat.eq_zero_or_pos value with rfl | positive
  · exact .inl digitText_zero
  · obtain ⟨first, rest, same, nonzero⟩ := digitText_head positive
    right
    rw [same]
    simpa using nonzero

theorem ofInt_wellFormed (value : Int) : (ofInt value).WellFormed where
  whole := isWhole_digitText value.natAbs
  fraction := by
    intro digits written
    cases written
  exponent := by
    intro exponent written
    cases written

@[simp] theorem integer?_ofInt (value : Int) : (ofInt value).integer? = some value := by
  have whole : (ofInt value).coefficient = value.natAbs := by
    simp [coefficient, ofInt]
  unfold integer?
  simp only [whole]
  by_cases below : value < 0
  · simp only [ofInt, decide_eq_true below, if_true]
    rw [if_neg (by omega)]
    congr 1
    omega
  · simp only [ofInt, decide_eq_false below, Bool.false_eq_true, if_false]
    congr 1
    omega

/-! ## Reading -/

theorem readDigits?_append {digits rest : List Char} (areDigits : AreDigits digits)
    (stop : ∀ c, rest.head? = some c → c.isDigit = false) :
    readDigits? (digits ++ rest) = some (digits, rest) := by
  obtain ⟨nonempty, all⟩ := areDigits
  rw [readDigits?, Text.takeWhile_append all stop, Text.dropWhile_append all stop]
  cases digits with
  | nil => exact absurd rfl nonempty
  | cons c digits => rfl

theorem readWhole?_append {whole rest : List Char} (isWhole : IsWhole whole)
    (stop : ∀ c, rest.head? = some c → c.isDigit = false) :
    readWhole? (whole ++ rest) = some (whole, rest) := by
  obtain ⟨areDigits, zero | nonzero⟩ := isWhole
  · subst zero
    rfl
  · cases whole with
    | nil => exact absurd rfl areDigits.1
    | cons first whole =>
      have first_ne : first ≠ '0' := by simpa using nonzero
      rw [List.cons_append, readWhole?, if_neg first_ne, ← List.cons_append]
      exact readDigits?_append areDigits stop

def fractionText : Option (List Char) → List Char
  | none => []
  | some digits => '.' :: digits

def exponentText : Option Exponent → List Char
  | none => []
  | some exponent => exponent.text

theorem text_eq (numeral : Numeral) :
    numeral.text = (if numeral.negative then ['-'] else []) ++ numeral.whole ++
      fractionText numeral.fraction ++ exponentText numeral.exponent := by
  obtain ⟨negative, whole, fraction, exponent⟩ := numeral
  cases fraction <;> cases exponent <;> rfl

theorem readFraction?_append {fraction : Option (List Char)} {rest : List Char}
    (areDigits : ∀ digits, fraction = some digits → AreDigits digits)
    (stop : ∀ c, rest.head? = some c → c.isDigit = false ∧ c ≠ '.') :
    readFraction? (fractionText fraction ++ rest) = some (fraction, rest) := by
  cases fraction with
  | none =>
    cases rest with
    | nil => rfl
    | cons c rest => simp [fractionText, readFraction?, (stop c rfl).2]
  | some digits =>
    simp only [fractionText, List.cons_append, readFraction?, if_true]
    rw [readDigits?_append (areDigits digits rfl) (fun c head => (stop c head).1)]
    rfl

theorem readSign_append {digits : List Char} (areDigits : AreDigits digits) (rest : List Char) :
    readSign (digits ++ rest) = (none, digits ++ rest) := by
  obtain ⟨nonempty, all⟩ := areDigits
  cases digits with
  | nil => exact absurd rfl nonempty
  | cons first digits =>
    have digit := all first (by simp)
    have plus : first ≠ '+' := by rintro rfl; exact absurd digit (by decide)
    have minus : first ≠ '-' := by rintro rfl; exact absurd digit (by decide)
    simp [readSign, plus, minus]

theorem readExponent?_append {exponent : Option Exponent} {rest : List Char}
    (wellFormed : ∀ written, exponent = some written → written.WellFormed) (stop : Ends rest) :
    readExponent? (exponentText exponent ++ rest) = some (exponent, rest) := by
  cases exponent with
  | none =>
    cases rest with
    | nil => rfl
    | cons c rest =>
      obtain ⟨-, -, lower, upper⟩ := stop c rfl
      simp [exponentText, readExponent?, lower, upper]
  | some written =>
    obtain ⟨mark, sign, digits⟩ := written
    obtain ⟨isMark, isSign, areDigits⟩ := wellFormed _ rfl
    have after := readDigits?_append areDigits (fun c head => (stop c head).1)
    have signed : readSign (sign.toList ++ digits ++ rest) = (sign, digits ++ rest) := by
      cases sign with
      | some sign => simp [readSign, isSign sign rfl]
      | none => exact readSign_append areDigits rest
    simp only at isMark
    simp only [exponentText, Exponent.text, List.cons_append, readExponent?, if_pos isMark, signed,
      after, Option.map_some]

/-! What follows a part never begins like a continuation of it. -/

theorem exponentText_head {exponent : Option Exponent} {rest : List Char}
    (wellFormed : ∀ written, exponent = some written → written.WellFormed) (stop : Ends rest) :
    ∀ c, (exponentText exponent ++ rest).head? = some c → c.isDigit = false ∧ c ≠ '.' := by
  intro c head
  cases exponent with
  | none => exact ⟨(stop c head).1, (stop c head).2.1⟩
  | some written =>
    obtain rfl : written.mark = c := by simpa [exponentText, Exponent.text] using head
    rcases (wellFormed written rfl).mark with mark | mark <;> rw [mark] <;> decide

theorem fractionText_head (fraction : Option (List Char)) {rest : List Char}
    (stop : ∀ c, rest.head? = some c → c.isDigit = false) :
    ∀ c, (fractionText fraction ++ rest).head? = some c → c.isDigit = false := by
  intro c head
  cases fraction with
  | none => exact stop c head
  | some digits =>
    obtain rfl : '.' = c := by simpa [fractionText] using head
    decide

theorem read?_text_append {numeral : Numeral} {rest : List Char} (wellFormed : numeral.WellFormed)
    (stop : Ends rest) : read? (numeral.text ++ rest) = some (numeral, rest) := by
  obtain ⟨negative, whole, fraction, exponent⟩ := numeral
  obtain ⟨isWhole, areDigits, exponentForm⟩ := wellFormed
  dsimp only at isWhole areDigits exponentForm
  have exponent_head := exponentText_head exponentForm stop
  have fraction_head := fractionText_head fraction fun c head => (exponent_head c head).1
  have unsigned : (whole ++ (fractionText fraction ++ (exponentText exponent ++ rest))).head? ≠
      some '-' := by
    obtain ⟨⟨nonempty, all⟩, -⟩ := isWhole
    cases whole with
    | nil => exact absurd rfl nonempty
    | cons first whole =>
      intro head
      obtain rfl : first = '-' := by simpa using head
      exact absurd (all '-' (by simp)) (by decide)
  rw [text_eq]
  simp only [List.append_assoc]
  unfold read?
  cases negative with
  | true =>
    simp [readWhole?_append isWhole fraction_head, readFraction?_append areDigits exponent_head,
      readExponent?_append exponentForm stop]
  | false =>
    simp only [Bool.false_eq_true, if_false, List.nil_append, unsigned, decide_false]
    simp [readWhole?_append isWhole fraction_head, readFraction?_append areDigits exponent_head,
      readExponent?_append exponentForm stop]

theorem ofText?_text {numeral : Numeral} (wellFormed : numeral.WellFormed) :
    ofText? numeral.text = some numeral := by
  have read := read?_text_append wellFormed ends_nil
  rw [List.append_nil] at read
  rw [ofText?, read]

theorem readDigits?_eq_some {input digits rest : List Char}
    (read : readDigits? input = some (digits, rest)) : AreDigits digits ∧ input = digits ++ rest := by
  have cut := (List.takeWhile_append_dropWhile (p := Char.isDigit) (l := input)).symm
  have all := List.all_eq_true.mp (List.all_takeWhile (p := Char.isDigit) (l := input))
  unfold readDigits? at read
  cases taken : input.takeWhile Char.isDigit with
  | nil => simp [taken] at read
  | cons first more =>
    simp only [taken, Option.some.injEq, Prod.mk.injEq] at read
    obtain ⟨rfl, rfl⟩ := read
    rw [taken] at cut all
    exact ⟨⟨by simp, all⟩, cut⟩

theorem readWhole?_eq_some {input whole rest : List Char}
    (read : readWhole? input = some (whole, rest)) : IsWhole whole ∧ input = whole ++ rest := by
  cases input with
  | nil => cases read
  | cons first more =>
    rw [readWhole?] at read
    split at read
    · rename_i zero
      cases read
      exact ⟨⟨⟨by simp, by simp [Char.isDigit]⟩, .inl rfl⟩, by rw [zero]; rfl⟩
    · rename_i nonzero
      obtain ⟨areDigits, same⟩ := readDigits?_eq_some read
      refine ⟨⟨areDigits, .inr ?_⟩, same⟩
      cases whole with
      | nil => exact absurd rfl areDigits.1
      | cons c whole =>
        obtain ⟨rfl, -⟩ := List.cons.inj same
        simpa using nonzero

theorem readFraction?_eq_some {input rest : List Char} {fraction : Option (List Char)}
    (read : readFraction? input = some (fraction, rest)) :
    (∀ digits, fraction = some digits → AreDigits digits) ∧ input = fractionText fraction ++ rest := by
  cases input with
  | nil =>
    cases read
    exact ⟨nofun, rfl⟩
  | cons first more =>
    rw [readFraction?] at read
    split at read
    · rename_i point
      obtain ⟨⟨digits, after⟩, found, same⟩ := Option.map_eq_some_iff.mp read
      cases same
      obtain ⟨areDigits, cut⟩ := readDigits?_eq_some found
      refine ⟨?_, by rw [point, cut]; rfl⟩
      rintro _ ⟨⟩
      exact areDigits
    · cases read
      exact ⟨nofun, rfl⟩

theorem readExponent?_eq_some {input rest : List Char} {exponent : Option Exponent}
    (read : readExponent? input = some (exponent, rest)) :
    (∀ written, exponent = some written → written.WellFormed) ∧
      input = exponentText exponent ++ rest := by
  have signed : ∀ text, text = (readSign text).1.toList ++ (readSign text).2 ∧
      ∀ sign, (readSign text).1 = some sign → sign = '+' ∨ sign = '-' := by
    intro text
    cases text with
    | nil => exact ⟨rfl, nofun⟩
    | cons c text => by_cases sign : c = '+' ∨ c = '-' <;> simp [readSign, sign]
  cases input with
  | nil =>
    cases read
    exact ⟨nofun, rfl⟩
  | cons first more =>
    rw [readExponent?] at read
    split at read
    · rename_i mark
      obtain ⟨joined, signs⟩ := signed more
      rcases parted : readSign more with ⟨sign, unsigned⟩
      rw [parted] at read joined signs
      obtain ⟨⟨digits, after⟩, found, same⟩ := Option.map_eq_some_iff.mp read
      cases same
      obtain ⟨areDigits, cut⟩ := readDigits?_eq_some found
      refine ⟨?_, by simp [exponentText, Exponent.text, joined, cut]⟩
      rintro _ ⟨⟩
      exact ⟨mark, signs, areDigits⟩
    · cases read
      exact ⟨nofun, rfl⟩

theorem ofText?_eq_some {input : List Char} {numeral : Numeral}
    (read : ofText? input = some numeral) : numeral.WellFormed ∧ numeral.text = input := by
  have found : read? input = some (numeral, []) := by
    unfold ofText? at read
    split at read
    · cases read
      assumption
    · cases read
  simp only [read?, bind, Option.bind_eq_some_iff] at found
  obtain ⟨⟨whole, second⟩, atWhole, ⟨fraction, third⟩, atFraction, ⟨exponent, rest⟩, atExponent,
    same⟩ := found
  cases same
  obtain ⟨isWhole, first⟩ := readWhole?_eq_some atWhole
  obtain ⟨areDigits, cut⟩ := readFraction?_eq_some atFraction
  obtain ⟨exponentForm, last⟩ := readExponent?_eq_some atExponent
  refine ⟨⟨isWhole, areDigits, exponentForm⟩, ?_⟩
  dsimp only at cut last
  rw [cut, last, List.append_nil] at first
  rw [text_eq]
  by_cases minus : input.head? = some '-'
  · obtain ⟨unsigned, rfl⟩ := List.head?_eq_some_iff.mp minus
    simp_all
  · simp only [minus, decide_false, Bool.false_eq_true, if_false] at first ⊢
    rw [first, List.nil_append, List.append_assoc]

theorem double_ofText?_text {numeral : Numeral} (wellFormed : numeral.WellFormed) :
    Double.ofText? numeral.text = some numeral.value := by
  obtain ⟨negative, whole, fraction, exponent⟩ := numeral
  obtain ⟨isWhole, areDigits, exponentForm⟩ := wellFormed
  dsimp only at isWhole areDigits exponentForm
  have exponentHead := exponentText_head exponentForm ends_nil
  have exponentRead := readExponent?_append exponentForm ends_nil
  rw [List.append_nil] at exponentHead exponentRead
  have fractionHead := fractionText_head fraction fun c head => (exponentHead c head).1
  have signed : readSign (text ⟨negative, whole, fraction, exponent⟩) =
      (if negative then some '-' else none,
        whole ++ (fractionText fraction ++ exponentText exponent)) := by
    rw [text_eq]
    cases negative with
    | true => simp [readSign]
    | false => simpa using readSign_append isWhole.1 (fractionText fraction ++ exponentText exponent)
  have isNegative : decide ((if negative = true then some '-' else none) = some '-') = negative := by
    cases negative <;> rfl
  have filled : whole.isEmpty = false := by simpa using isWhole.1.1
  unfold Double.ofText?
  simp only [signed, Text.takeWhile_append isWhole.1.2 fractionHead,
    Text.dropWhile_append isWhole.1.2 fractionHead, filled, Bool.false_and, Bool.false_eq_true,
    if_false, isNegative]
  cases fraction with
  | none =>
    cases exponent with
    | none => rfl
    | some written =>
      obtain ⟨mark, sign, digits⟩ := written
      have isMark := (exponentForm _ rfl).mark
      simp only [fractionText, List.nil_append, exponentText, Exponent.text] at exponentRead isMark ⊢
      rcases isMark with rfl | rfl
      · simp [exponentRead]
        rfl
      · simp [exponentRead]
        rfl
  | some digits =>
    simp only [fractionText, List.cons_append,
      Text.takeWhile_append (areDigits digits rfl).2 fun c head => (exponentHead c head).1,
      Text.dropWhile_append (areDigits digits rfl).2 fun c head => (exponentHead c head).1,
      exponentRead]

/-! ## Characters -/

def isPart (c : Char) : Bool :=
  c.isDigit || c = '-' || c = '+' || c = '.' || c = 'e' || c = 'E'

theorem WellFormed.isPart_of_mem {numeral : Numeral} (wellFormed : numeral.WellFormed) {c : Char}
    (member : c ∈ numeral.text) : isPart c = true := by
  have digit : ∀ {digits}, AreDigits digits → c ∈ digits → isPart c = true := by
    intro digits areDigits inside
    simp [isPart, areDigits.2 c inside]
  rw [text_eq] at member
  simp only [List.mem_append] at member
  rcases member with ((sign | whole) | fraction) | exponent
  · cases negative : numeral.negative <;> simp_all [isPart]
  · exact digit wellFormed.whole.1 whole
  · cases written : numeral.fraction with
    | none => simp [written, fractionText] at fraction
    | some digits =>
      simp only [written, fractionText, List.mem_cons] at fraction
      rcases fraction with rfl | inside
      · rfl
      · exact digit (wellFormed.fraction digits written) inside
  · cases written : numeral.exponent with
    | none => simp [written, exponentText] at exponent
    | some power =>
      obtain ⟨mark, sign, digits⟩ := wellFormed.exponent power written
      simp only [written, exponentText, Exponent.text, List.mem_cons, List.mem_append,
        Option.mem_toList] at exponent
      rcases exponent with rfl | isSign | inside
      · rcases mark with mark | mark <;> simp [isPart, mark]
      · rcases sign c isSign with rfl | rfl <;> rfl
      · exact digit digits inside

end Numeral

end Modelsmith
