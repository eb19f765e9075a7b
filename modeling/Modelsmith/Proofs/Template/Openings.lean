import Modelsmith.Proofs.Template.Substitution

/-! How far the beginning of a slot has come at each point of a text.

The scan keeps one small number. It never falls behind for having started higher, so a text can be
looked at from the highest level at which it may be put in; and the scan of a template with its
slots bounds the scan of every text that the template is filled to.
-/

set_option autoImplicit false

namespace Modelsmith.Template

/-! ## Levels -/

/-- The level after a character: one and two for opening braces in a row, with blanks after the
second, and three for good once a name has begun behind them. -/
def advance (level : Nat) (c : Char) : Nat :=
  if 3 ≤ level then 3
  else if c = '{' then min (level + 1) 2
  else if level = 2 then
    if Text.isBlank c then 2 else if isNameStart c then 3 else 0
  else 0

def level (start : Nat) (text : List Char) : Nat := text.foldl advance start

@[simp] theorem level_nil (start : Nat) : level start [] = start := rfl

@[simp] theorem level_cons (start : Nat) (c : Char) (text : List Char) :
    level start (c :: text) = level (advance start c) text := rfl

@[simp] theorem level_append (start : Nat) (first second : List Char) :
    level start (first ++ second) = level (level start first) second :=
  List.foldl_append

theorem advance_mono {first second : Nat} (below : first ≤ second) (c : Char) :
    advance first c ≤ advance second c := by
  unfold advance
  repeat' split
  all_goals omega

theorem level_mono {first second : Nat} (below : first ≤ second) (text : List Char) :
    level first text ≤ level second text := by
  induction text generalizing first second with
  | nil => exact below
  | cons c text ih => exact ih (advance_mono below c)

theorem level_three (text : List Char) : level 3 text = 3 := by
  induction text with
  | nil => rfl
  | cons c text ih => exact ih

theorem level_zero {text : List Char} (free : '{' ∉ text) : level 0 text = 0 := by
  induction text with
  | nil => rfl
  | cons c text ih =>
    rw [List.mem_cons, not_or] at free
    have stays : advance 0 c = 0 := by simp [advance, Ne.symm free.1]
    rw [level_cons, stays, ih free.2]

theorem level_two {c : Char} {text : List Char} (free : '{' ∉ c :: text)
    (solid : Text.isBlank c = false) (unnamed : isNameStart c = false) :
    level 2 (c :: text) = 0 := by
  rw [List.mem_cons, not_or] at free
  have falls : advance 2 c = 0 := by simp [advance, Ne.symm free.1, solid, unnamed]
  rw [level_cons, falls, level_zero free.2]

theorem isNameStart_of_isDigit {c : Char} (digit : c.isDigit = true) : isNameStart c = false := by
  simp only [Char.isDigit, Bool.and_eq_true, decide_eq_true_eq, ge_iff_le,
    UInt32.le_iff_toNat_le] at digit
  change 48 ≤ c.toNat ∧ c.toNat ≤ 57 at digit
  rw [Bool.eq_false_iff, ne_eq, isNameStart_iff]
  simp only [StartsName, IsLetter, Char.le_def, UInt32.le_iff_toNat_le]
  rintro ((lower | upper) | rfl)
  · change 97 ≤ c.toNat ∧ _ at lower
    omega
  · change 65 ≤ c.toNat ∧ _ at upper
    omega
  · exact absurd digit (by decide)

theorem level_blanks {start : Nat} {text : List Char} (kept : start = 0 ∨ start = 2)
    (blank : ∀ c ∈ text, Text.isBlank c = true) : level start text = start := by
  induction text with
  | nil => rfl
  | cons c text ih =>
    have isBlank := blank c (by simp)
    have notBrace : c ≠ '{' := by
      rintro rfl
      exact absurd isBlank (by decide)
    have stays : advance start c = start := by
      rcases kept with rfl | rfl <;> simp [advance, notBrace, isBlank]
    rw [level_cons, stays, ih fun d member => blank d (by simp [member])]

/-! ## Slots -/

theorem level_spelled {name : String} {occurrence : List Char} (spelled : Spells name occurrence) :
    level 0 occurrence = 3 := by
  obtain ⟨⟨first, rest, same, starts, -⟩, left, right, leftBlank, -, rfl⟩ := spelled
  have part : InName first := .inl starts
  have notBrace : first ≠ '{' := by
    rintro rfl
    simp only [StartsName, IsLetter] at starts
    revert starts
    decide
  have named : advance 2 first = 3 := by
    simp [advance, notBrace, (solid_of_inName part).1, isNameStart_iff.mpr starts]
  have opened : advance (advance 0 '{') '{' = 2 := rfl
  rw [level_cons, level_cons, opened, List.append_assoc, List.append_assoc, level_append,
    level_blanks (.inr rfl) leftBlank, same, List.cons_append, level_cons, named, level_three]

theorem slotFree_of_level {text : List Char} (low : level 0 text ≤ 2) : SlotFree text := by
  rintro start occurrence rest name spelled rfl
  rw [level_append, level_append] at low
  have reached := level_mono (Nat.zero_le (level 0 start)) occurrence
  rw [level_spelled spelled] at reached
  have kept := level_mono reached rest
  rw [level_three] at kept
  omega

theorem SlotFree.fill_eq {text : String} (free : SlotFree text.toList) (bindings : Bindings) :
    fill text bindings = .ok text := by
  rw [fill, (Scans.finish free).pieces_eq, piecesOf, List.flatMap_nil, List.nil_append, expand_chars]
  exact congrArg Except.ok String.ofList_toList

/-! ## Filling -/

section
variable (after : String → Nat)

/-- The level behind the pieces of a template, when every slot is met at level zero and the value
that is put in leaves at most the level given for its name. -/
def levelOf (start : Nat) : List Piece → Nat
  | [] => start
  -- Zero is told apart for evaluation to go step by step, however long the template is.
  | .char c :: rest => if advance start c = 0 then levelOf 0 rest else levelOf (advance start c) rest
  | .slot name :: rest => if start = 0 then levelOf (after name) rest else 3

theorem levelOf_char (start : Nat) (c : Char) (rest : List Piece) :
    levelOf after start (.char c :: rest) = levelOf after (advance start c) rest := by
  rw [levelOf]
  split
  · rename_i zero
    rw [zero]
  · rfl

theorem levelOf_chars (start : Nat) (text : List Char) :
    levelOf after start (text.map .char) = level start text := by
  induction text generalizing start with
  | nil => rfl
  | cons c text ih => rw [List.map_cons, levelOf_char, ih, level_cons]

variable {after} {bindings : Bindings}
  (bound : ∀ binding ∈ bindings, level 0 binding.2.toList ≤ after binding.1)
include bound

theorem level_expand {pieces : List Piece} {text : List Char}
    (expanded : expand bindings pieces = .ok text) {start : Nat}
    (low : levelOf after start pieces ≤ 2) : level start text ≤ levelOf after start pieces := by
  induction pieces generalizing start text with
  | nil =>
    cases expanded
    exact Nat.le_refl start
  | cons piece pieces ih =>
    cases piece with
    | char c =>
      obtain ⟨rest, expandedRest, rfl⟩ := map_eq_ok.mp expanded
      rw [levelOf_char] at low ⊢
      exact ih expandedRest low
    | slot name =>
      cases found : bindings.lookup name with
      | none => simp [expand, found] at expanded
      | some value =>
        simp only [expand, found] at expanded
        obtain ⟨rest, expandedRest, rfl⟩ := map_eq_ok.mp expanded
        obtain ⟨before, others, same, -⟩ := List.lookup_eq_some_iff.mp found
        by_cases atZero : start = 0
        · subst atZero
          rw [levelOf, if_pos rfl] at low ⊢
          rw [level_append]
          exact Nat.le_trans (level_mono (bound (name, value) (by simp [same])) rest)
            (ih expandedRest low)
        · rw [levelOf, if_neg atZero] at low
          omega

theorem level_fill {text filled : String} (done : fill text bindings = .ok filled) {start : Nat}
    (low : levelOf after start (pieces text.toList) ≤ 2) :
    level start filled.toList ≤ levelOf after start (pieces text.toList) := by
  obtain ⟨chars, expanded, rfl⟩ := map_eq_ok.mp done
  rw [String.toList_ofList]
  exact level_expand bound expanded low

end

end Modelsmith.Template
