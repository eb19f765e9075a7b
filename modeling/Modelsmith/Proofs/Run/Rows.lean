import Modelsmith.Run.Pool

/-! Rows of a batch under a shell that goes by the text of a command.

Such a shell gives a row one outcome, however often it is asked and whatever it did before. Outcomes
carry the number of their row, and each result is put into the slot with that number.
-/

set_option autoImplicit false

namespace Modelsmith.Run

/-! ## Slots -/

section Slots

variable {α : Type}

theorem fillSlots_of_ok {outcomes : List (Nat × Except Failure α)} (slots : List α)
    (succeed : ∀ entry ∈ outcomes, ∃ value, entry.2 = .ok value)
    (distinct : (outcomes.map Prod.fst).Nodup) :
    ∃ filled, fillSlots slots outcomes = .ok filled ∧ filled.length = slots.length ∧
      (∀ index value, (index, .ok value) ∈ outcomes → index < slots.length →
        filled[index]? = some value) ∧
      ∀ index, index ∉ outcomes.map Prod.fst → filled[index]? = slots[index]? := by
  induction outcomes generalizing slots with
  | nil => exact ⟨slots, rfl, rfl, by simp, by simp⟩
  | cons entry rest ih =>
    obtain ⟨index, outcome⟩ := entry
    obtain ⟨value, rfl⟩ := succeed _ List.mem_cons_self
    simp only [List.map_cons, List.nodup_cons] at distinct
    obtain ⟨filled, filling, length, inside, outside⟩ := ih (slots.set index value)
      (fun entry member => succeed entry (List.mem_cons_of_mem _ member)) distinct.2
    rw [List.length_set] at length inside
    refine ⟨filled, filling, length, ?_, ?_⟩
    · intro other found member bounded
      rcases List.mem_cons.mp member with same | later
      · cases same
        rw [outside index distinct.1, List.getElem?_set_self bounded]
      · exact inside other found later bounded
    · intro other absent
      simp only [List.map_cons, List.mem_cons, not_or] at absent
      rw [outside other absent.2, List.getElem?_set_ne (Ne.symm absent.1)]

theorem fillSlots_of_error {before after : List (Nat × Except Failure α)} (slots : List α)
    (index : Nat) (failure : Failure) (succeed : ∀ entry ∈ before, ∃ value, entry.2 = .ok value) :
    fillSlots slots (before ++ (index, .error failure) :: after) = .error failure := by
  induction before generalizing slots with
  | nil => rfl
  | cons entry rest ih =>
    obtain ⟨number, outcome⟩ := entry
    obtain ⟨value, rfl⟩ := succeed _ List.mem_cons_self
    exact ih _ fun entry member => succeed entry (List.mem_cons_of_mem _ member)

theorem eq_of_perm_of_keys {β : Type} {first second : List (Nat × β)} (perm : first.Perm second)
    (keys : first.map Prod.fst = second.map Prod.fst) (distinct : (first.map Prod.fst).Nodup) :
    first = second := by
  induction first generalizing second with
  | nil => exact (List.nil_perm.mp perm).symm
  | cons entry rest ih =>
    obtain ⟨key, value⟩ := entry
    cases second with
    | nil => exact absurd perm.eq_nil (by simp)
    | cons other tail =>
      obtain ⟨otherKey, otherValue⟩ := other
      simp only [List.map_cons, List.cons.injEq, List.nodup_cons] at keys distinct
      obtain ⟨rfl, sameKeys⟩ := keys
      -- The first entry stands in the second list, and only its head has this number.
      have head : (key, value) = (key, otherValue) := by
        rcases List.mem_cons.mp (perm.mem_iff.mp List.mem_cons_self) with same | later
        · exact same
        · exact absurd (sameKeys ▸ List.mem_map_of_mem (f := Prod.fst) later) distinct.1
      cases head
      rw [ih (List.perm_cons _ |>.mp perm) sameKeys distinct.2]

end Slots

/-! ## Outcomes by the text of a command -/

/-- What is made of the last attempt at a row. -/
def conclude (options : Options) (full : String) (answer : Answer) : Outcome := do
  let output ← verdict full (budget options) answer
  Prediction.parse full output.stdout options.strictOutput

variable {State : Type}

/-- A shell whose answers depend on the text of the command only. -/
def AnswersBy (shell : Shell State) (answer : String → Answer) : Prop :=
  ∀ state files command, (shell.run state files command).1 = answer command

theorem attempt_succ (shell : Shell State) (command : String) (total left : Nat) (last : String)
    (world : World State) :
    attempt shell command total (left + 1) last world =
      match verdict command total (ask shell world command).1 with
      | .ok output => (.ok output, (ask shell world command).2)
      | .error failure =>
        if left = 0 then (.error failure, (ask shell world command).2)
        else attempt shell command total left "" (ask shell world command).2 := by
  rw [attempt]
  obtain ⟨answer, later⟩ := ask shell world command
  -- A complaint is reported only when no attempt is left.
  have forgets : ∀ complaint : String, attempt shell command total left complaint later =
      if left = 0 then (.error (.execution command total complaint), later)
      else attempt shell command total left "" later := by
    intro complaint
    cases left with
    | zero => rfl
    | succ left => rfl
  cases answer with
  | error reason => exact forgets _
  | ok output =>
    cases success : output.success with
    | true => simp [verdict, success]
    | false => simpa [verdict, success] using forgets _

theorem row_eq_attempt (shell : Shell State) (options : Options) (command : String)
    (features : List Double) (world : World State) :
    row shell options command features world =
      let attempts := attempt shell (rowCommand command features) (budget options) (budget options) ""
        world
      (attempts.1 >>= fun output =>
        Prediction.parse (rowCommand command features) output.stdout options.strictOutput,
        attempts.2) := by
  rw [row, retry]
  unfold budget
  cases attempt shell (rowCommand command features) (max options.retryAttempts 1)
      (max options.retryAttempts 1) "" world with
  | mk result later => cases result <;> rfl

theorem budget_pos (options : Options) : 0 < budget options := Nat.le_max_right ..

variable {shell : Shell State} {answer : String → Answer} (byText : AnswersBy shell answer)
include byText

theorem attempt_eq (command : String) (total left : Nat) (last : String) (world : World State) :
    (attempt shell command total (left + 1) last world).1 = verdict command total (answer command) := by
  induction left generalizing last world with
  | zero =>
    rw [attempt_succ, show (ask shell world command).1 = answer command from byText ..]
    cases verdict command total (answer command) <;> rfl
  | succ left ih =>
    rw [attempt_succ, show (ask shell world command).1 = answer command from byText ..]
    cases judged : verdict command total (answer command) with
    | ok output => rfl
    | error failure => exact (ih "" _).trans judged

theorem row_eq (options : Options) (command : String) (features : List Double)
    (world : World State) :
    (row shell options command features world).1 =
      conclude options (rowCommand command features) (answer (rowCommand command features)) := by
  obtain ⟨left, enough⟩ := Nat.exists_eq_add_one.mpr (budget_pos options)
  rw [row_eq_attempt, conclude, ← attempt_eq byText _ _ left "" world, ← enough]

theorem outcomes_eq (options : Options) (command : String) (batch : List Task)
    (world : World State) :
    (outcomes shell options command batch world).1 = batch.map fun task =>
      (task.2, conclude options (rowCommand command task.1) (answer (rowCommand command task.1))) := by
  induction batch generalizing world with
  | nil => rfl
  | cons task rest ih =>
    obtain ⟨features, index⟩ := task
    rw [outcomes, List.map_cons, ← row_eq byText options command features world, ← ih]

end Modelsmith.Run
