import Modelsmith.Proofs.Failing
import Modelsmith.Proofs.Text
import Modelsmith.Template

/-! Slots of a text and what is put into them.

A name between double braces is a slot wherever it stands: what comes before cannot take its braces
for its own, as no name has a brace in it. So the value of every slot that a text spells out stands
in the filled text as it is.
-/

set_option autoImplicit false

namespace Modelsmith.Template

/-! ## Names -/

theorem brace_not_mem {inner : List Char} (named : isName (Text.trim inner) = true) :
    '{' ∉ inner := by
  intro member
  have kept := Text.mem_trim member (by decide)
  cases trimmed : Text.trim inner with
  | nil => simp [trimmed] at kept
  | cons first rest =>
    simp only [trimmed, isName, Bool.and_eq_true, List.all_eq_true] at named
    rw [trimmed] at kept
    rcases List.mem_cons.mp kept with rfl | inside
    · exact absurd named.1 (by decide)
    · exact absurd (named.2 '{' inside) (by decide)

/-! ## Slots -/

theorem closing?_eq_some {text inner rest : List Char}
    (closed : closing? text = some (inner, rest)) : text = inner ++ '}' :: '}' :: rest := by
  fun_induction closing? text generalizing inner with
  | case1 => cases closed
  | case2 rest => cases closed; rfl
  | case3 c tail _ ih =>
    obtain ⟨⟨found, after⟩, closed, same⟩ := Option.map_eq_some_iff.mp closed
    cases same
    rw [ih closed, List.cons_append]

theorem closing?_append {inner : List Char} (free : '}' ∉ inner) (rest : List Char) :
    closing? (inner ++ '}' :: '}' :: rest) = some (inner, rest) := by
  induction inner with
  | nil => rfl
  | cons c inner ih =>
    simp only [List.mem_cons, not_or] at free
    rw [List.cons_append, closing?, ih free.2]
    · rfl
    · rintro tail rfl -
      exact free.1 rfl

theorem slot?_eq_some {text rest : List Char} {name : String}
    (found : slot? text = some (name, rest)) :
    ∃ inner, text = '{' :: '{' :: (inner ++ '}' :: '}' :: rest) ∧ '{' ∉ inner := by
  unfold slot? at found
  split at found
  · rename_i tail
    split at found
    · rename_i inner after closed
      split at found
      · rename_i named
        cases found
        exact ⟨inner, by rw [closing?_eq_some closed], brace_not_mem named⟩
      · cases found
    · cases found
  · cases found

theorem slot?_name {name : List Char} (named : isName name = true) (trimmed : Text.trim name = name)
    (free : '}' ∉ name) (rest : List Char) :
    slot? ('{' :: '{' :: (name ++ '}' :: '}' :: rest)) = some (String.ofList name, rest) := by
  simp only [slot?, closing?_append free, trimmed, named, if_true]

theorem closed_before {before inner after rest : List Char} (free : '{' ∉ inner)
    (same : before ++ '{' :: after = inner ++ '}' :: '}' :: rest) :
    ∃ between, rest = between ++ '{' :: after ∧ between.length < before.length := by
  induction inner generalizing before with
  | nil =>
    rcases before with _ | ⟨first, _ | ⟨second, between⟩⟩
    · simp at same
    · simp at same
    · simp only [List.cons_append, List.nil_append, List.cons.injEq] at same
      exact ⟨between, same.2.2.symm, by simp only [List.length_cons]; omega⟩
  | cons c inner ih =>
    simp only [List.mem_cons, not_or] at free
    cases before with
    | nil =>
      simp only [List.nil_append, List.cons_append, List.cons.injEq] at same
      exact absurd same.1 free.1
    | cons first before =>
      simp only [List.cons_append, List.cons.injEq] at same
      obtain ⟨between, rest_eq, shorter⟩ := ih free.2 same.2
      exact ⟨between, rest_eq, by simp only [List.length_cons]; omega⟩

theorem slot?_before {before after rest : List Char} {name : String} (filled : before ≠ [])
    (found : slot? (before ++ '{' :: '{' :: after) = some (name, rest)) :
    ∃ between, rest = between ++ '{' :: '{' :: after ∧ between.length < before.length := by
  obtain ⟨inner, same, free⟩ := slot?_eq_some found
  rcases before with _ | ⟨first, _ | ⟨second, before⟩⟩
  · exact absurd rfl filled
  · simp only [List.cons_append, List.nil_append, List.cons.injEq, true_and] at same
    obtain ⟨between, -, shorter⟩ := closed_before free (show [] ++ '{' :: after = _ from same.2)
    simp at shorter
  · simp only [List.cons_append, List.cons.injEq] at same
    obtain ⟨between, rest_eq, shorter⟩ := closed_before free same.2.2
    exact ⟨between, rest_eq, by simp only [List.length_cons]; omega⟩

theorem slot_mem_piecesWithin {name : List Char} (named : isName name = true)
    (trimmed : Text.trim name = name) (free : '}' ∉ name) (after : List Char) {fuel : Nat}
    {before : List Char}
    (enough : (before ++ '{' :: '{' :: (name ++ '}' :: '}' :: after)).length ≤ fuel) :
    .slot (String.ofList name) ∈
      piecesWithin fuel (before ++ '{' :: '{' :: (name ++ '}' :: '}' :: after)) := by
  induction fuel generalizing before with
  | zero => simp at enough
  | succ fuel ih =>
    simp only [List.length_append, List.length_cons] at enough ih
    cases before with
    | nil =>
      rw [List.nil_append, piecesWithin, slot?_name named trimmed free]
      exact List.mem_cons_self
    | cons c before =>
      simp only [List.length_cons] at enough
      rw [List.cons_append, piecesWithin, ← List.cons_append]
      split
      · rename_i found
        obtain ⟨between, rfl, shorter⟩ := slot?_before (List.cons_ne_nil c before) found
        simp only [List.length_cons] at shorter
        exact List.mem_cons_of_mem _ (ih (by omega))
      · exact List.mem_cons_of_mem _ (ih (by omega))

theorem slot_mem_pieces {name : List Char} (named : isName name = true)
    (trimmed : Text.trim name = name) (free : '}' ∉ name) (before after : List Char) :
    .slot (String.ofList name) ∈
      pieces (before ++ '{' :: '{' :: (name ++ '}' :: '}' :: after)) :=
  slot_mem_piecesWithin named trimmed free after (Nat.le_refl _)

/-! ## Values -/

theorem expand_chars (bindings : Bindings) (text : List Char) :
    expand bindings (text.map .char) = .ok text := by
  induction text with
  | nil => rfl
  | cons c text ih => rw [List.map_cons, expand, ih, Except.map]

theorem expand_slot {bindings : Bindings} {name value : String}
    (bound : bindings.lookup name = some value) :
    expand bindings [.slot name] = .ok value.toList := by
  simp only [expand, bound, Except.map, List.append_nil]

theorem expand_append {bindings : Bindings} {first second : List Piece} {text rest : List Char}
    (left : expand bindings first = .ok text) (right : expand bindings second = .ok rest) :
    expand bindings (first ++ second) = .ok (text ++ rest) := by
  induction first generalizing text with
  | nil =>
    cases left
    exact right
  | cons piece first ih =>
    cases piece with
    | char c =>
      obtain ⟨tail, expanded, rfl⟩ := map_eq_ok.mp left
      rw [List.cons_append, expand, ih expanded, Except.map, List.cons_append]
    | slot name =>
      simp only [expand] at left
      split at left
      · cases left
      · rename_i value bound
        obtain ⟨tail, expanded, rfl⟩ := map_eq_ok.mp left
        simp only [List.cons_append, expand, bound, ih expanded, Except.map, List.append_assoc]

theorem infix_of_expand {bindings : Bindings} {pieces : List Piece} {name value : String}
    {filled : List Char} (member : .slot name ∈ pieces) (bound : bindings.lookup name = some value)
    (expanded : expand bindings pieces = .ok filled) : value.toList <:+: filled := by
  induction pieces generalizing filled with
  | nil => cases member
  | cons piece pieces ih =>
    cases piece with
    | char c =>
      obtain ⟨rest, tail, rfl⟩ := map_eq_ok.mp expanded
      exact (ih (by simpa using member) tail).trans (List.suffix_cons c rest).isInfix
    | slot other =>
      simp only [expand] at expanded
      cases found : bindings.lookup other with
      | none => simp [found] at expanded
      | some text =>
        rw [found] at expanded
        obtain ⟨rest, tail, rfl⟩ := map_eq_ok.mp expanded
        rcases List.mem_cons.mp member with same | inside
        · cases same
          cases bound.symm.trans found
          exact (List.prefix_append _ _).isInfix
        · exact (ih inside tail).trans (List.suffix_append _ _).isInfix

def slots (pieces : List Piece) : List String :=
  pieces.filterMap fun
    | .char _ => none
    | .slot name => some name

theorem expand_succeeds {bindings : Bindings} {pieces : List Piece}
    (bound : ∀ name ∈ slots pieces, (bindings.lookup name).isSome) :
    ∃ filled, expand bindings pieces = .ok filled := by
  induction pieces with
  | nil => exact ⟨[], rfl⟩
  | cons piece pieces ih =>
    cases piece with
    | char c =>
      obtain ⟨filled, expanded⟩ := ih bound
      exact ⟨c :: filled, by rw [expand, expanded]; rfl⟩
    | slot name =>
      obtain ⟨value, found⟩ := Option.isSome_iff_exists.mp (bound name (by simp [slots]))
      obtain ⟨filled, expanded⟩ := ih fun other member => bound other (List.mem_cons_of_mem _ member)
      exact ⟨value.toList ++ filled, by simp only [expand, found, expanded]; rfl⟩

end Modelsmith.Template
