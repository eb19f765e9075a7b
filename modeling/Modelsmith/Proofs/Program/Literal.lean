import Modelsmith.Proofs.Failing
import Modelsmith.Proofs.Numeral
import Modelsmith.Dialect
import Modelsmith.Program.Literal

/-! Array literals read back.

A literal is read by the brackets of its language and the separator of its items, as a nested list
of words. Every literal that is written from words without brackets, commas and white space reads as
the nested list it was written from.
-/

set_option autoImplicit false

namespace Modelsmith.Literal

/-! ## The reader -/

inductive Nested where
  | word (text : List Char)
  | list (items : List Nested)

structure Brackets where
  opening : Char
  closing : Char

def brackets : Language → Brackets
  | .c | .go | .java => ⟨'{', '}'⟩
  | .javaScript | .php | .ruby => ⟨'[', ']'⟩

def Brackets.isPart (brackets : Brackets) (c : Char) : Bool :=
  c ≠ brackets.opening && c ≠ brackets.closing && c ≠ ',' && !Text.isBlank c

mutual

def value? (brackets : Brackets) : (fuel : Nat) → List Char → Option (Nested × List Char)
  | 0, _ => none
  | _, [] => none
  | fuel + 1, c :: rest =>
    if c = brackets.opening then
      if rest.head? = some brackets.closing then some (.list [], rest.drop 1)
      else (items? brackets fuel rest).map fun (items, rest) => (.list items, rest)
    else
      match (c :: rest).takeWhile brackets.isPart with
      | [] => none
      | text => some (.word text, (c :: rest).dropWhile brackets.isPart)

def items? (brackets : Brackets) : (fuel : Nat) → List Char → Option (List Nested × List Char)
  | 0, _ => none
  | fuel + 1, text =>
    match value? brackets fuel text with
    | none => none
    | some (item, rest) =>
      match Text.after? ", ".toList rest with
      | some rest => (items? brackets fuel rest).map fun (items, rest) => (item :: items, rest)
      | none => (Text.after? [brackets.closing] rest).map ([item], ·)

end

/-! ## Texts that are read -/

structure Brackets.Lawful (brackets : Brackets) : Prop where
  apart : brackets.opening ≠ brackets.closing
  comma : brackets.closing ≠ ','

theorem brackets_lawful (language : Language) : (brackets language).Lawful := by
  cases language <;> exact ⟨by decide, by decide⟩

/-- A text that is read as a value wherever no further part of a word follows. -/
structure Reads (brackets : Brackets) (text : List Char) (value : Nested) : Prop where
  starts : ∃ c rest, text = c :: rest ∧ c ≠ brackets.closing
  reads : ∀ fuel rest, text.length ≤ fuel →
    (∀ c, rest.head? = some c → brackets.isPart c = false) →
    value? brackets fuel (text ++ rest) = some (value, rest)

structure ReadsList (brackets : Brackets) (text : List Char) (value : Nested) : Prop where
  opens : ∃ rest, text = brackets.opening :: rest
  reads : ∀ fuel rest, text.length ≤ fuel →
    value? brackets fuel (text ++ rest) = some (value, rest)

theorem ReadsList.toReads {brackets : Brackets} {text : List Char} {value : Nested}
    (reads : ReadsList brackets text value) (lawful : brackets.Lawful) :
    Reads brackets text value := by
  obtain ⟨rest, same⟩ := reads.opens
  exact ⟨⟨_, rest, same, lawful.apart⟩, fun fuel rest enough _ => reads.reads fuel rest enough⟩

theorem reads_word (brackets : Brackets) {text : List Char} (filled : text ≠ [])
    (parts : ∀ c ∈ text, brackets.isPart c = true) : Reads brackets text (.word text) := by
  cases text with
  | nil => exact absurd rfl filled
  | cons c rest =>
    have part := parts c (by simp)
    simp only [Brackets.isPart, Bool.and_eq_true, decide_eq_true_eq] at part
    refine ⟨⟨c, rest, rfl, part.1.1.2⟩, ?_⟩
    intro fuel after enough stop
    cases fuel with
    | zero => simp at enough
    | succ fuel =>
      have taken := Text.takeWhile_append parts stop
      have dropped := Text.dropWhile_append parts stop
      rw [List.cons_append] at taken dropped
      rw [List.cons_append, value?, if_neg part.1.1.1, taken, dropped]

theorem items?_join {α : Type} {brackets : Brackets} (lawful : brackets.Lawful)
    {text : α → List Char} {value : α → Nested} (rest : List Char) {fuel : Nat} {first : α}
    {items : List α} (reads : ∀ item ∈ first :: items, Reads brackets (text item) (value item))
    (enough : (Text.joinWith ", ".toList ((first :: items).map text)).length < fuel) :
    items? brackets fuel (Text.joinWith ", ".toList ((first :: items).map text) ++
      brackets.closing :: rest) = some ((first :: items).map value, rest) := by
  induction items generalizing first fuel with
  | nil =>
    cases fuel with
    | zero => simp at enough
    | succ fuel =>
      simp only [List.map_cons, List.map_nil, Text.joinWith] at enough ⊢
      have read := (reads first (by simp)).reads fuel (brackets.closing :: rest) (by omega)
        (by rintro c ⟨⟩; simp [Brackets.isPart])
      have noComma : Text.after? ", ".toList (brackets.closing :: rest) = none :=
        Text.after?_of_head (by decide) (by simpa using lawful.comma.symm)
      simp only [items?, read, noComma, Text.after?, if_true, Option.map_some]
  | cons second items ih =>
    cases fuel with
    | zero => simp at enough
    | succ fuel =>
      have joined : Text.joinWith ", ".toList ((first :: second :: items).map text) =
          text first ++ (", ".toList ++ Text.joinWith ", ".toList ((second :: items).map text)) := by
        simp [Text.joinWith]
      rw [joined] at enough ⊢
      have separator : ", ".toList.length = 2 := rfl
      simp only [List.length_append, separator] at enough
      have comma : brackets.isPart ',' = false := by simp [Brackets.isPart]
      have read := (reads first (by simp)).reads fuel
        (", ".toList ++ Text.joinWith ", ".toList ((second :: items).map text) ++
          brackets.closing :: rest) (by omega) fun c head => Option.some.inj head ▸ comma
      have more := ih (fun item member => reads item (List.mem_cons_of_mem _ member))
        (show _ < fuel by omega)
      rw [List.append_assoc, items?, read, List.append_assoc]
      simp only [Text.after?_append, more]
      rfl

theorem reads_list {α : Type} {brackets : Brackets} (lawful : brackets.Lawful)
    {text : α → List Char} {value : α → Nested} {items : List α}
    (reads : ∀ item ∈ items, Reads brackets (text item) (value item)) :
    ReadsList brackets (brackets.opening ::
      (Text.joinWith ", ".toList (items.map text) ++ [brackets.closing])) (.list (items.map value)) := by
  refine ⟨⟨_, rfl⟩, ?_⟩
  intro fuel rest enough
  simp only [List.length_cons, List.length_append, List.length_nil] at enough
  cases fuel with
  | zero => omega
  | succ fuel =>
    rw [List.cons_append, List.append_assoc, value?, if_pos rfl]
    cases items with
    | nil => simp [Text.joinWith]
    | cons first items =>
      have notClosed : (Text.joinWith ", ".toList ((first :: items).map text) ++
          ([brackets.closing] ++ rest)).head? ≠ some brackets.closing := by
        obtain ⟨c, more, same, solid⟩ := (reads first (by simp)).starts
        cases items <;> simpa [Text.joinWith, same] using solid
      rw [if_neg notClosed, List.singleton_append, items?_join lawful rest reads (by omega)]
      rfl

/-! ## What is written -/

theorem toList_commaSeparated (items : List String) :
    (commaSeparated items).toList = Text.joinWith ", ".toList (items.map String.toList) := by
  fun_induction commaSeparated items with
  | case1 => rfl
  | case2 last => rfl
  | case3 first rest more ih =>
    cases rest with
    | nil => exact absurd rfl more
    | cons second rest =>
      rw [String.toList_append, String.toList_append, ih]
      rfl

theorem render_brackets (language : Language) (value : String) :
    language.dialect.render "in_brackets" [("value", value)] =
      .ok (String.ofList ((brackets language).opening ::
        (value.toList ++ [(brackets language).closing]))) := by
  cases language <;> rfl

theorem nested_reads (language : Language) {α : Type} {item : α → Except RenderFault String}
    {value : α → Nested} {values : List α}
    (reads : ∀ entry ∈ values, ∃ text, item entry = .ok text ∧
      Reads (brackets language) text.toList (value entry)) :
    ∃ text, nested language.dialect item values = .ok text ∧
      ReadsList (brackets language) text.toList (.list (values.map value)) := by
  -- Each item is written by the text it succeeds with.
  let write (entry : α) : String := (item entry).toOption.getD ""
  have written : ∀ entry ∈ values, item entry = .ok (write entry) := by
    intro entry member
    obtain ⟨text, same, -⟩ := reads entry member
    simp [write, same, Except.toOption]
  have read : ∀ entry ∈ values, Reads (brackets language) (write entry).toList (value entry) := by
    intro entry member
    obtain ⟨text, same, read⟩ := reads entry member
    cases same.symm.trans (written entry member)
    exact read
  have all : values.mapM item = .ok (values.map write) := mapM_eq_pure written
  refine ⟨_, by rw [nested, all]; exact render_brackets language _, ?_⟩
  rw [String.toList_ofList, toList_commaSeparated, List.map_map]
  exact reads_list (brackets_lawful language) read

theorem nested_lists (language : Language) {α : Type} {item : α → Except RenderFault String}
    {value : α → Nested} {values : List α}
    (reads : ∀ entry ∈ values, ∃ text, item entry = .ok text ∧
      ReadsList (brackets language) text.toList (value entry)) :
    ∃ text, nested language.dialect item values = .ok text ∧
      ReadsList (brackets language) text.toList (.list (values.map value)) := by
  refine nested_reads language fun entry member => ?_
  obtain ⟨text, written, read⟩ := reads entry member
  exact ⟨text, written, read.toReads (brackets_lawful language)⟩

theorem ints_eq_nested (dialect : Dialect) (values : List Int) :
    ints dialect values = nested dialect (fun value => .ok (intText value)) values := by
  have all : values.mapM (fun value => (.ok (intText value) : Except RenderFault String)) =
    .ok (values.map intText) := mapM_eq_pure fun _ _ => rfl
  rw [nested, all]
  rfl

theorem nats_eq_ints (dialect : Dialect) (values : List Nat) :
    nats dialect values = ints dialect (values.map Int.ofNat) := by
  rw [nats, ints, List.map_map]
  rfl

theorem intText_eq (value : Int) : intText value = toString value := by
  have text : (Numeral.ofInt value).text =
      (if value < 0 then ['-'] else []) ++ Nat.toDigits 10 value.natAbs := by
    by_cases negative : value < 0 <;>
      simp [Numeral.ofInt, Numeral.text, digitText, negative]
  rw [intText, text]
  cases value with
  | ofNat value =>
    rw [if_neg (by simp)]
    rfl
  | negSucc value =>
    rw [if_pos (Int.negSucc_lt_zero value), String.ofList_append]
    rfl

/-! ## Shapes -/

def Nested.ofInt (value : Int) : Nested := .word (toString value).toList

/-- Words at one depth only. -/
def Nested.HasRank : (rank : Nat) → Nested → Prop
  | 0, .word _ => True
  | rank + 1, .list items => ∀ item ∈ items, Nested.HasRank rank item
  | _, _ => False

/-- The same number of items everywhere at one depth. -/
def Nested.HasSizes : (sizes : List Nat) → Nested → Prop
  | [], .word _ => True
  | size :: sizes, .list items => items.length = size ∧ ∀ item ∈ items, Nested.HasSizes sizes item
  | _, _ => False

/-- A word that has nothing in common with what stands around it in a literal. -/
def IsPlain (text : List Char) : Prop :=
  text ≠ [] ∧ ∀ c ∈ text, c ∉ ['{', '}', '[', ']', ','] ∧ Text.isBlank c = false

instance (text : List Char) : Decidable (IsPlain text) :=
  @instDecidableAnd _ _ _ (List.decidableBAll _ _)

theorem IsPlain.reads (language : Language) {text : List Char} (plain : IsPlain text) :
    Reads (brackets language) text (.word text) := by
  refine reads_word _ plain.1 fun c member => ?_
  obtain ⟨apart, solid⟩ := plain.2 c member
  simp only [List.mem_cons, List.not_mem_nil, or_false, not_or] at apart
  cases language <;> simp [Brackets.isPart, brackets, apart, solid]

theorem isBlank_of_isDigit {c : Char} (digit : c.isDigit = true) : Text.isBlank c = false := by
  have range : 48 ≤ c.toNat ∧ c.toNat ≤ 57 := by
    simpa [Char.isDigit, UInt32.le_iff_toNat_le] using digit
  simp only [Text.isBlank, Bool.or_eq_false_iff, Bool.and_eq_false_iff, decide_eq_false_iff_not,
    beq_eq_false_iff_ne]
  omega

theorem isPlain_text {numeral : Numeral} (wellFormed : numeral.WellFormed) :
    IsPlain numeral.text := by
  refine ⟨?_, fun c member => ?_⟩
  · have filled := wellFormed.whole.1.1
    simp [Numeral.text_eq, filled]
  · have part := wellFormed.isPart_of_mem member
    refine ⟨?_, ?_⟩
    · intro bracket
      simp only [List.mem_cons, List.not_mem_nil, or_false] at bracket
      rcases bracket with rfl | rfl | rfl | rfl | rfl <;> exact absurd part (by decide)
    · simp only [Numeral.isPart, Bool.or_eq_true, decide_eq_true_eq] at part
      rcases part with ((((digit | rfl) | rfl) | rfl) | rfl) | rfl
      · exact isBlank_of_isDigit digit
      all_goals rfl

theorem reads_int (language : Language) (value : Int) :
    Reads (brackets language) (intText value).toList (.ofInt value) := by
  have plain := isPlain_text (Numeral.ofInt_wellFormed value)
  have read := plain.reads language
  rw [Nested.ofInt, ← intText_eq, intText, String.toList_ofList]
  exact read

theorem ints_reads (language : Language) (values : List Int) :
    ∃ text, ints language.dialect values = .ok text ∧
      ReadsList (brackets language) text.toList (.list (values.map .ofInt)) := by
  rw [ints_eq_nested]
  exact nested_reads language fun value _ => ⟨_, rfl, reads_int language value⟩

end Modelsmith.Literal
