import Modelsmith.Proofs.Template

/-! Filling is substitution of the first slot of a text, and then of the first slot of what follows.

What counts as a slot is told by how it is spelled, and the scan by where slots stand: nothing
before the first one begins a slot. A text has one scan only, and filling puts a value in the place
of each slot that the scan meets; the values themselves are never looked at.
-/

set_option autoImplicit false

namespace Modelsmith.Template

/-! ## Spelling -/

def StartsName (c : Char) : Prop := IsLetter c ∨ c = '_'

def InName (c : Char) : Prop := StartsName c ∨ ('0' ≤ c ∧ c ≤ '9')

def Identifier (name : List Char) : Prop :=
  ∃ first rest, name = first :: rest ∧ StartsName first ∧ ∀ c ∈ rest, InName c

/-- An occurrence of a slot: double braces around a name, with or without blanks next to it. -/
def Spells (name : String) (occurrence : List Char) : Prop :=
  Identifier name.toList ∧ ∃ left right, (∀ c ∈ left, Text.isBlank c = true) ∧
    (∀ c ∈ right, Text.isBlank c = true) ∧
    occurrence = '{' :: '{' :: (left ++ name.toList ++ right ++ ['}', '}'])

theorem isNameStart_iff {c : Char} : isNameStart c = true ↔ StartsName c := by
  simp only [isNameStart, StartsName, Bool.or_eq_true, isAlpha_iff, decide_eq_true_eq]

theorem isNamePart_iff {c : Char} : isNamePart c = true ↔ InName c := by
  simp only [isNamePart, Char.isAlphanum, Char.isDigit, InName, StartsName, Char.le_def,
    Bool.or_eq_true, Bool.and_eq_true, isAlpha_iff, decide_eq_true_eq, ge_iff_le]
  exact or_right_comm

theorem isName_iff {name : List Char} : isName name = true ↔ Identifier name := by
  cases name with
  | nil => simp [isName, Identifier]
  | cons first rest =>
    simp only [isName, Identifier, Bool.and_eq_true, List.all_eq_true, isNameStart_iff,
      isNamePart_iff]
    constructor
    · intro named
      exact ⟨first, rest, rfl, named⟩
    · rintro ⟨_, _, ⟨⟩, named⟩
      exact named

theorem solid_of_inName {c : Char} (part : InName c) : Text.isBlank c = false ∧ c ≠ '}' := by
  have between : 48 ≤ c.toNat ∧ c.toNat ≤ 122 := by
    simp only [InName, StartsName, IsLetter, Char.le_def, UInt32.le_iff_toNat_le] at part
    rcases part with ((lower | upper) | rfl) | digit
    · change 97 ≤ c.toNat ∧ c.toNat ≤ 122 at lower
      omega
    · change 65 ≤ c.toNat ∧ c.toNat ≤ 90 at upper
      omega
    · decide
    · change 48 ≤ c.toNat ∧ c.toNat ≤ 57 at digit
      omega
  refine ⟨Bool.eq_false_iff.mpr ?_, ?_⟩
  · simp only [Text.isBlank, Bool.or_eq_true, Bool.and_eq_true, decide_eq_true_eq, beq_iff_eq,
      ne_eq]
    omega
  · rintro rfl
    exact absurd between.2 (by decide)

theorem Identifier.part {name : List Char} (named : Identifier name) {c : Char}
    (member : c ∈ name) : InName c := by
  obtain ⟨first, rest, rfl, letter, parts⟩ := named
  rcases List.mem_cons.mp member with rfl | inside
  · exact .inl letter
  · exact parts c inside

theorem trim_spelled {left name right : List Char} (named : Identifier name)
    (leftBlank : ∀ c ∈ left, Text.isBlank c = true)
    (rightBlank : ∀ c ∈ right, Text.isBlank c = true) :
    Text.trim (left ++ name ++ right) = name := by
  have solid : ∀ c ∈ name, Text.isBlank c = false := fun c member =>
    (solid_of_inName (named.part member)).1
  have filled : name ≠ [] := by
    obtain ⟨first, rest, rfl, -⟩ := named
    exact List.cons_ne_nil first rest
  rw [Text.trim, Text.trimStart, Text.trimEnd, List.append_assoc, Text.dropWhile_append leftBlank,
    List.reverse_append, Text.dropWhile_append (by simpa using rightBlank), List.reverse_reverse]
  · intro c first
    exact solid c (List.mem_reverse.mp (List.mem_of_mem_head? first))
  · intro c first
    rw [List.head?_append, Option.or_of_isSome (by simpa using filled)] at first
    exact solid c (List.mem_of_mem_head? first)

theorem trim_split (text : List Char) :
    ∃ left right, (∀ c ∈ left, Text.isBlank c = true) ∧ (∀ c ∈ right, Text.isBlank c = true) ∧
      text = left ++ Text.trim text ++ right := by
  have ended := List.takeWhile_append_dropWhile (p := Text.isBlank)
    (l := (Text.trimStart text).reverse)
  refine ⟨text.takeWhile Text.isBlank,
    ((Text.trimStart text).reverse.takeWhile Text.isBlank).reverse,
    List.all_eq_true.mp List.all_takeWhile, ?_, ?_⟩
  · intro c member
    exact List.all_eq_true.mp List.all_takeWhile c (List.mem_reverse.mp member)
  · rw [Text.trim, Text.trimEnd, List.append_assoc, ← List.reverse_append, ended,
      List.reverse_reverse, Text.trimStart, List.takeWhile_append_dropWhile]

theorem slot?_eq_some_iff {text rest : List Char} {name : String} :
    slot? text = some (name, rest) ↔
      ∃ occurrence, Spells name occurrence ∧ text = occurrence ++ rest := by
  constructor
  · intro found
    unfold slot? at found
    split at found
    · rename_i tail
      split at found
      · rename_i inner after closed
        split at found
        · rename_i named
          cases found
          obtain ⟨left, right, leftBlank, rightBlank, same⟩ := trim_split inner
          refine ⟨_, ⟨by rwa [String.toList_ofList, ← isName_iff], left, right, leftBlank,
            rightBlank, rfl⟩, ?_⟩
          rw [String.toList_ofList, ← same, closing?_eq_some closed]
          simp
        · cases found
      · cases found
    · cases found
  · rintro ⟨_, ⟨named, left, right, leftBlank, rightBlank, rfl⟩, rfl⟩
    have free : '}' ∉ left ++ name.toList ++ right := by
      intro member
      simp only [List.mem_append] at member
      rcases member with (member | member) | member
      · exact absurd (leftBlank _ member) (by decide)
      · exact (solid_of_inName (named.part member)).2 rfl
      · exact absurd (rightBlank _ member) (by decide)
    have closed := closing?_append free rest
    simp only [List.cons_append, List.append_assoc, List.nil_append] at closed ⊢
    simp only [slot?, closed]
    rw [← List.append_assoc, trim_spelled named leftBlank rightBlank, isName_iff.mpr named]
    simp

theorem slot?_spelled {name : String} {occurrence : List Char} (spelled : Spells name occurrence)
    (rest : List Char) : slot? (occurrence ++ rest) = some (name, rest) :=
  slot?_eq_some_iff.mpr ⟨occurrence, spelled, rfl⟩

theorem spelled_ne_nil {name : String} {occurrence : List Char} (spelled : Spells name occurrence) :
    occurrence ≠ [] := by
  obtain ⟨-, left, right, -, -, rfl⟩ := spelled
  exact List.cons_ne_nil _ _

theorem spells_unique {name other : String} {occurrence found rest after : List Char}
    (spelled : Spells name occurrence) (again : Spells other found)
    (same : occurrence ++ rest = found ++ after) : name = other ∧ rest = after := by
  have first := slot?_spelled spelled rest
  rw [same, slot?_spelled again, Option.some.injEq, Prod.mk.injEq] at first
  exact ⟨first.1.symm, first.2.symm⟩

/-! ## Scans -/

/-- No slot begins among the first characters of a text. -/
def ClearFor (count : Nat) (text : List Char) : Prop :=
  ∀ start occurrence rest name, Spells name occurrence → text = start ++ occurrence ++ rest →
    count ≤ start.length

def SlotFree (text : List Char) : Prop :=
  ∀ start occurrence rest name, Spells name occurrence → text ≠ start ++ occurrence ++ rest

/-- The scan of a text from left to right: what stands before each slot, together with the name of
the slot, and what is left after the last one. -/
inductive Scans : List Char → List (List Char × String) → List Char → Prop where
  | finish {text : List Char} : SlotFree text → Scans text [] text
  | slot {text before occurrence after rest : List Char} {name : String}
      {parts : List (List Char × String)} :
      text = before ++ occurrence ++ after → Spells name occurrence → ClearFor before.length text →
      Scans after parts rest → Scans text ((before, name) :: parts) rest

theorem ClearFor.slot?_eq_none {count : Nat} {text : List Char}
    (clear : ClearFor (count + 1) text) : slot? text = none := by
  cases found : slot? text with
  | none => rfl
  | some slot =>
    obtain ⟨occurrence, spelled, same⟩ :=
      slot?_eq_some_iff.mp (show _ = some (slot.1, slot.2) from found)
    have := clear [] occurrence slot.2 slot.1 spelled (by simpa using same)
    simp at this

theorem ClearFor.tail {count : Nat} {c : Char} {text : List Char}
    (clear : ClearFor (count + 1) (c :: text)) : ClearFor count text := by
  intro start occurrence rest name spelled same
  have := clear (c :: start) occurrence rest name spelled (by simp [same])
  simpa using this

theorem slotFree_or_first (text : List Char) :
    SlotFree text ∨ ∃ before occurrence after name, text = before ++ occurrence ++ after ∧
      Spells name occurrence ∧ ClearFor before.length text := by
  induction text with
  | nil =>
    left
    rintro start _ rest name ⟨-, left, right, -, -, rfl⟩ same
    simp at same
  | cons c text ih =>
    cases found : slot? (c :: text) with
    | some slot =>
      obtain ⟨occurrence, spelled, same⟩ :=
        slot?_eq_some_iff.mp (show _ = some (slot.1, slot.2) from found)
      exact .inr ⟨[], occurrence, slot.2, slot.1, same, spelled, fun _ _ _ _ _ _ => Nat.zero_le _⟩
    | none =>
      -- a slot of the whole text begins after its first character
      have later : ∀ start occurrence rest name, Spells name occurrence →
          c :: text = start ++ occurrence ++ rest →
            ∃ tail, start = c :: tail ∧ text = tail ++ occurrence ++ rest := by
        intro start occurrence rest name spelled same
        cases start with
        | nil =>
          rw [same, List.nil_append, slot?_spelled spelled] at found
          cases found
        | cons first tail =>
          simp only [List.cons_append, List.cons.injEq] at same
          exact ⟨tail, by rw [same.1], same.2⟩
      rcases ih with free | ⟨before, occurrence, after, name, same, spelled, clear⟩
      · left
        intro start occurrence rest name spelled same
        obtain ⟨tail, -, same⟩ := later start occurrence rest name spelled same
        exact free tail occurrence rest name spelled same
      · refine .inr ⟨c :: before, occurrence, after, name, by simp [same], spelled, ?_⟩
        intro start other rest otherName otherSpelled otherSame
        obtain ⟨tail, rfl, textSame⟩ := later start other rest otherName otherSpelled otherSame
        have := clear tail other rest otherName otherSpelled textSame
        simpa using this

theorem exists_scans (text : List Char) : ∃ parts rest, Scans text parts rest := by
  rcases slotFree_or_first text with free | ⟨before, occurrence, after, name, same, spelled, clear⟩
  · exact ⟨[], text, .finish free⟩
  · have shorter : after.length < text.length := by
      have := List.length_pos_iff.mpr (spelled_ne_nil spelled)
      simp only [same, List.length_append]
      omega
    obtain ⟨parts, rest, scans⟩ := exists_scans after
    exact ⟨_, rest, .slot same spelled clear scans⟩
termination_by text.length

theorem Scans.unique {text rest otherRest : List Char}
    {parts otherParts : List (List Char × String)} (scans : Scans text parts rest)
    (again : Scans text otherParts otherRest) :
    otherParts = parts ∧ otherRest = rest := by
  induction scans generalizing otherParts otherRest with
  | finish free =>
    cases again with
    | finish _ => exact ⟨rfl, rfl⟩
    | slot same spelled _ _ => exact absurd same (free _ _ _ _ spelled)
  | slot same spelled clear _ ih =>
    cases again with
    | finish free => exact absurd same (free _ _ _ _ spelled)
    | slot otherSame otherSpelled otherClear otherScans =>
      have length := Nat.le_antisymm (clear _ _ _ _ otherSpelled otherSame)
        (otherClear _ _ _ _ spelled same)
      have texts := same.symm.trans otherSame
      rw [List.append_assoc, List.append_assoc] at texts
      obtain ⟨rfl, tails⟩ := List.append_inj texts length
      obtain ⟨rfl, rfl⟩ := spells_unique spelled otherSpelled tails
      obtain ⟨rfl, rfl⟩ := ih otherScans
      exact ⟨rfl, rfl⟩

/-! ## Pieces -/

theorem piecesWithin_eq {fuel other : Nat} {text : List Char} (enough : text.length ≤ fuel)
    (also : text.length ≤ other) : piecesWithin fuel text = piecesWithin other text := by
  induction fuel generalizing other text with
  | zero =>
    obtain rfl := List.length_eq_zero_iff.mp (Nat.le_zero.mp enough)
    cases other <;> rfl
  | succ fuel ih =>
    cases text with
    | nil => cases other <;> rfl
    | cons c text =>
      cases other with
      | zero => simp at also
      | succ other =>
        simp only [List.length_cons, Nat.add_le_add_iff_right] at enough also
        rw [piecesWithin, piecesWithin]
        split
        · rename_i name rest found
          obtain ⟨occurrence, spelled, same⟩ := slot?_eq_some_iff.mp found
          have filled := List.length_pos_iff.mpr (spelled_ne_nil spelled)
          have length := congrArg List.length same
          simp only [List.length_cons, List.length_append] at length
          have shorter : rest.length ≤ other := by omega
          rw [ih (by omega) shorter]
        · rw [ih enough also]

theorem pieces_slot {name : String} {occurrence : List Char} (spelled : Spells name occurrence)
    (rest : List Char) : pieces (occurrence ++ rest) = .slot name :: pieces rest := by
  have found := slot?_spelled spelled rest
  cases occurrence with
  | nil => exact absurd rfl (spelled_ne_nil spelled)
  | cons c occurrence =>
    rw [List.cons_append] at found ⊢
    rw [pieces, List.length_cons, piecesWithin, found, pieces]
    exact congrArg (Piece.slot name :: ·) (piecesWithin_eq (by simp) (Nat.le_refl _))

theorem pieces_before {before : List Char} {text : List Char}
    (clear : ClearFor before.length (before ++ text)) :
    pieces (before ++ text) = before.map .char ++ pieces text := by
  induction before with
  | nil => rfl
  | cons c before ih =>
    have none := clear.slot?_eq_none
    rw [List.cons_append] at none clear ⊢
    rw [pieces, List.length_cons, piecesWithin, none, List.map_cons, List.cons_append,
      ← ih clear.tail]
    rfl

def piecesOf (parts : List (List Char × String)) (rest : List Char) : List Piece :=
  (parts.flatMap fun part => part.1.map .char ++ [.slot part.2]) ++ rest.map .char

theorem Scans.pieces_eq {text rest : List Char} {parts : List (List Char × String)}
    (scans : Scans text parts rest) : pieces text = piecesOf parts rest := by
  induction scans with
  | @finish text free =>
    have clear : ClearFor text.length (text ++ []) := by
      intro start occurrence rest name spelled same
      exact absurd ((List.append_nil text).symm.trans same) (free _ _ _ _ spelled)
    rw [← List.append_nil text, pieces_before clear]
    simp [piecesOf, pieces, piecesWithin]
  | slot same spelled clear _ ih =>
    subst same
    rw [List.append_assoc] at clear ⊢
    rw [pieces_before clear, pieces_slot spelled, ih]
    simp [piecesOf]

/-! ## Values -/

theorem expand_chars_append (bindings : Bindings) (text : List Char) (pieces : List Piece) :
    expand bindings (text.map .char ++ pieces) = (expand bindings pieces).map (text ++ ·) := by
  induction text with
  | nil => cases expanded : expand bindings pieces <;> simp [expanded, Except.map]
  | cons c text ih =>
    rw [List.map_cons, List.cons_append, expand, ih]
    cases expand bindings pieces <;> rfl

def substituted (bindings : Bindings) (parts : List (List Char × String)) (rest : List Char) :
    List Char :=
  (parts.flatMap fun part => part.1 ++ ((bindings.lookup part.2).getD "").toList) ++ rest

theorem expand_piecesOf (bindings : Bindings) (parts : List (List Char × String))
    (rest : List Char) :
    expand bindings (piecesOf parts rest) =
      match parts.find? fun part => (bindings.lookup part.2).isNone with
      | some part => .error part.2
      | none => .ok (substituted bindings parts rest) := by
  induction parts with
  | nil => simp [piecesOf, substituted, expand_chars]
  | cons part parts ih =>
    have front : piecesOf (part :: parts) rest =
        part.1.map .char ++ .slot part.2 :: piecesOf parts rest := by
      simp [piecesOf]
    rw [front, expand_chars_append, expand, ih, List.find?_cons]
    cases bound : bindings.lookup part.2 with
    | none => rfl
    | some value =>
      cases parts.find? fun part => (bindings.lookup part.2).isNone with
      | none => simp [substituted, Except.map, bound]
      | some other => rfl

theorem Scans.fill_eq {text : String} {rest : List Char} {parts : List (List Char × String)}
    (scans : Scans text.toList parts rest) (bindings : Bindings) :
    fill text bindings =
      match parts.find? fun part => (bindings.lookup part.2).isNone with
      | some part => .error part.2
      | none => .ok (String.ofList (substituted bindings parts rest)) := by
  rw [fill, scans.pieces_eq, expand_piecesOf]
  cases parts.find? fun part => (bindings.lookup part.2).isNone <;> rfl

theorem find?_unbound_iff {bindings : Bindings} {parts : List (List Char × String)}
    {name : String} :
    (∃ met before later, parts = met ++ (before, name) :: later ∧ bindings.lookup name = none ∧
      ∀ part ∈ met, (bindings.lookup part.2).isSome) ↔
      ∃ before,
        (parts.find? fun part => (bindings.lookup part.2).isNone) = some (before, name) := by
  simp only [List.find?_eq_some_iff_append, Option.isNone_iff_eq_none, Bool.not_eq_true',
    Option.isNone_eq_false_iff]
  constructor
  · rintro ⟨met, before, later, same, unbound, bound⟩
    exact ⟨before, unbound, met, later, same, bound⟩
  · rintro ⟨before, unbound, met, later, same, bound⟩
    exact ⟨met, before, later, same, unbound, bound⟩

/-- Filling goes by the one scan of a text. It fails with the first name that the scan meets without
a value; when there is none, it gives the text with each slot replaced by the value that is bound
first. A text without slots stays as it is, and the cutting ends by itself. -/
theorem fill_substitutes_first_slots (text : String) (bindings : Bindings) :
    ∃ parts rest, Scans text.toList parts rest ∧
      (∀ otherParts otherRest, Scans text.toList otherParts otherRest →
        otherParts = parts ∧ otherRest = rest) ∧
      (∀ name, fill text bindings = .error name ↔ ∃ met before later,
        parts = met ++ (before, name) :: later ∧ bindings.lookup name = none ∧
          ∀ part ∈ met, (bindings.lookup part.2).isSome) ∧
      (∀ filled, fill text bindings = .ok filled ↔
        (∀ part ∈ parts, (bindings.lookup part.2).isSome) ∧
          filled.toList = substituted bindings parts rest) ∧
      (SlotFree text.toList → fill text bindings = .ok text) ∧
      ∀ fuel, text.toList.length ≤ fuel → piecesWithin fuel text.toList = pieces text.toList := by
  obtain ⟨parts, rest, scans⟩ := exists_scans text.toList
  refine ⟨parts, rest, scans, fun _ _ again => scans.unique again, fun name => ?_, fun filled => ?_,
    fun free => ?_, fun fuel enough => piecesWithin_eq enough (Nat.le_refl _)⟩
  · rw [scans.fill_eq, find?_unbound_iff]
    cases found : parts.find? fun part => (bindings.lookup part.2).isNone with
    | none => simp
    | some part =>
      constructor
      · rintro ⟨⟩
        exact ⟨part.1, rfl⟩
      · rintro ⟨before, ⟨⟩⟩
        rfl
  · rw [scans.fill_eq]
    cases found : parts.find? fun part => (bindings.lookup part.2).isNone with
    | none =>
      constructor
      · rintro ⟨⟩
        exact ⟨by simpa [Option.isSome_iff_ne_none] using found, String.toList_ofList⟩
      · rintro ⟨-, same⟩
        rw [← same, String.ofList_toList]
    | some part =>
      have unbound := List.find?_some found
      constructor
      · rintro ⟨⟩
      · rintro ⟨bound, -⟩
        have := bound part (List.mem_of_find?_eq_some found)
        rw [Option.isNone_iff_eq_none.mp unbound] at this
        cases this
  · obtain ⟨rfl, rfl⟩ := scans.unique (.finish free)
    rw [scans.fill_eq]
    simp [substituted]

/-- A slot that is not closed before the next one opens, whose name is none. -/
def crossed : String := "\x7b\x7ba \x7b\x7bb-c\x7d\x7d \x7d\x7d"

theorem slotFree_crossed : SlotFree crossed.toList := by
  intro start occurrence rest name spelled same
  have none : ∀ count ≤ 14, slot? (crossed.toList.drop count) = none := by decide +kernel
  have short : start.length ≤ 14 := by
    have length := congrArg List.length same
    simp only [List.length_append] at length
    have : crossed.toList.length = 14 := by decide
    omega
  have found := none start.length short
  rw [same, List.append_assoc, List.drop_left, slot?_spelled spelled] at found
  cases found

/-- A slot within braces. -/
def braced : String := "\x7b\x7b\x7ba\x7d\x7d\x7d"

theorem fill_substitutes_first_slots_braces :
    SlotFree crossed.toList ∧ fill crossed [] = .ok crossed ∧ braced.toList.length ≤ 9 ∧
      piecesWithin 9 braced.toList = [.char '{', .slot "a", .char '}'] := by
  obtain ⟨-, -, -, -, -, -, unchanged, -⟩ := fill_substitutes_first_slots crossed []
  obtain ⟨-, -, -, -, -, -, -, ended⟩ := fill_substitutes_first_slots braced []
  exact ⟨slotFree_crossed, unchanged slotFree_crossed, by decide,
    (ended 9 (by decide)).trans (by decide +kernel)⟩

end Modelsmith.Template
