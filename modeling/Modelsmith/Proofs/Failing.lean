import Modelsmith.Model.Fault

/-! Computations that give a result or a failure: what a success says about their parts. -/

set_option autoImplicit false

namespace Modelsmith

variable {ε α β : Type}

theorem bind_eq_ok {first : Except ε α} {next : α → Except ε β} {result : β} :
    (first >>= next) = .ok result ↔ ∃ value, first = .ok value ∧ next value = .ok result := by
  cases first with
  | error fault => simp [Bind.bind, Except.bind]
  | ok value => simp [Bind.bind, Except.bind]

theorem ite_bind_eq_ok {condition : Prop} [Decidable condition] {first second : Except ε α}
    {next : α → Except ε β} {result : β} :
    (if condition then first >>= next else second >>= next) = .ok result ↔
      ∃ value, (if condition then first else second) = .ok value ∧ next value = .ok result := by
  by_cases holds : condition <;> simp [holds, bind_eq_ok]

@[simp] theorem ok_bind (value : α) (next : α → Except ε β) :
    ((.ok value : Except ε α) >>= next) = next value := rfl

@[simp] theorem require_eq_ok {condition : Bool} {fault : ModelFault} {result : Unit} :
    require condition fault = .ok result ↔ condition = true := by
  cases condition <;> simp [require]

theorem map_eq_ok {first : Except ε α} {f : α → β} {result : β} :
    first.map f = .ok result ↔ ∃ value, first = .ok value ∧ f value = result := by
  cases first with
  | error fault => simp [Except.map]
  | ok value => simp [Except.map]

theorem eq_ok_of_toOption {result : Except ε α} {value : α}
    (succeeds : result.toOption = some value) : result = .ok value := by
  cases result with
  | error fault => cases succeeds
  | ok found =>
    cases succeeds
    rfl

theorem mapM_eq_pure {m : Type → Type} [Monad m] [LawfulMonad m] {f : α → m β} {g : α → β}
    {items : List α} (succeeds : ∀ item ∈ items, f item = pure (g item)) :
    items.mapM f = pure (items.map g) := by
  induction items with
  | nil => simp
  | cons item items ih =>
    rw [List.mapM_cons, succeeds item (by simp), ih fun other member => succeeds other (by simp [member])]
    simp

theorem ok_of_mapM {f : α → Except ε β} {items : List α} {results : List β}
    (succeeds : items.mapM f = .ok results) : ∀ item ∈ items, ∃ result, f item = .ok result := by
  induction items generalizing results with
  | nil => simp
  | cons item items ih =>
    simp only [List.mapM_cons, bind_eq_ok] at succeeds
    obtain ⟨first, atItem, rest, atRest, -⟩ := succeeds
    rintro other member
    rcases List.mem_cons.mp member with rfl | inside
    · exact ⟨first, atItem⟩
    · exact ih atRest other inside

theorem exists_of_mem_mapM {f : α → Except ε β} {items : List α} {results : List β}
    (succeeds : items.mapM f = .ok results) :
    ∀ result ∈ results, ∃ item ∈ items, f item = .ok result := by
  induction items generalizing results with
  | nil =>
    cases succeeds
    simp
  | cons item items ih =>
    simp only [List.mapM_cons, bind_eq_ok] at succeeds
    obtain ⟨first, atItem, rest, atRest, same⟩ := succeeds
    cases same
    intro result member
    rcases List.mem_cons.mp member with rfl | inside
    · exact ⟨item, by simp, atItem⟩
    · obtain ⟨other, listed, found⟩ := ih atRest result inside
      exact ⟨other, by simp [listed], found⟩

def Succeeds (computation : Except ε α) : Prop := ∃ result, computation = .ok result

theorem Succeeds.bind {first : Except ε α} {next : α → Except ε β} (succeeds : Succeeds first)
    (continues : ∀ value, first = .ok value → Succeeds (next value)) : Succeeds (first >>= next) := by
  obtain ⟨value, rfl⟩ := succeeds
  exact continues value rfl

theorem Succeeds.mapM {f : α → Except ε β} {items : List α}
    (each : ∀ item ∈ items, Succeeds (f item)) : Succeeds (items.mapM f) := by
  induction items with
  | nil => exact ⟨[], rfl⟩
  | cons item items ih =>
    rw [List.mapM_cons]
    refine (each item (by simp)).bind fun first _ => ?_
    exact (ih fun other member => each other (by simp [member])).bind fun rest _ => ⟨_, rfl⟩

end Modelsmith
