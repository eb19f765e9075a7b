import Modelsmith.Proofs.Run.Rows

/-! What a shell is asked for the rows of a batch, and what it answers.

A shell may keep any state, so an answer can depend on all that was asked before. The exchanges with
it lead from one world to another; every row has its own run of them, and its outcome is what the last
of them makes it.
-/

set_option autoImplicit false

namespace Modelsmith

def Answer.succeeded : Answer → Bool
  | .ok output => output.success
  | .error _ => false

namespace Run

variable {State : Type}

/-- A command and the answer to it. -/
abbrev Exchange := String × Answer

/-- The shell is asked these commands one after the other, gives these answers, and nothing else
changes the world. -/
inductive Asks (shell : Shell State) : World State → List Exchange → World State → Prop where
  | nil (world : World State) : Asks shell world [] world
  | cons {world later : World State} {command : String} {rest : List Exchange} :
      Asks shell (ask shell world command).2 rest later →
      Asks shell world ((command, (ask shell world command).1) :: rest) later

namespace Asks

variable {shell : Shell State} {first second third : World State}

theorem append {before after : List Exchange} (left : Asks shell first before second)
    (right : Asks shell second after third) : Asks shell first (before ++ after) third := by
  induction left with
  | nil world => exact right
  | cons _ ih => exact .cons (ih right)

theorem once (shell : Shell State) (world : World State) (command : String) :
    Asks shell world [(command, (ask shell world command).1)] (ask shell world command).2 :=
  .cons (.nil _)

theorem logged {heard : List Exchange} (asks : Asks shell first heard second)
    {log : State → List String}
    (keeps : ∀ state files command,
      log (shell.run state files command).2.1 = log state ++ [command]) :
    log second.shell = log first.shell ++ heard.map Prod.fst := by
  induction asks with
  | nil world => simp
  | @cons world later command rest _ ih =>
    rw [ih, show log (ask shell world command).2.shell = log world.shell ++ [command] from keeps ..]
    simp

end Asks

/-! ## Attempts -/

/-- The attempts at a row: the answers before the last one, and the last one. -/
structure Trial where
  features : List Double
  earlier : List Answer
  last : Answer

namespace Trial

/-- Every attempt but the last failed, and so did the last only if it was the last allowed. -/
structure Within (budget : Nat) (trial : Trial) : Prop where
  failed : ∀ answer ∈ trial.earlier, answer.succeeded = false
  allowed : trial.earlier.length < budget
  ended : trial.last.succeeded = true ∨ trial.earlier.length + 1 = budget

def exchanges (command : String) (trial : Trial) : List Exchange :=
  (trial.earlier ++ [trial.last]).map (rowCommand command trial.features, ·)

def outcome (options : Options) (command : String) (trial : Trial) : Outcome :=
  conclude options (rowCommand command trial.features) trial.last

/-- The last attempt succeeded and, where that is asked for, printed a prediction. -/
def Answered (options : Options) (trial : Trial) : Prop :=
  ∃ output, trial.last = .ok output ∧ output.success = true ∧ (options.strictOutput = true →
    ∃ prediction, Prediction.read? .leading output.stdout.toList = some prediction)

end Trial

theorem verdict_isOk_iff (command : String) (total : Nat) (answer : Answer) :
    (∃ output, verdict command total answer = .ok output) ↔ answer.succeeded = true := by
  cases answer with
  | error reason => simp [verdict, Answer.succeeded]
  | ok output => cases success : output.success <;> simp [verdict, Answer.succeeded, success]

theorem attempt_asks (shell : Shell State) (command : String) (total left : Nat) (last : String)
    (world : World State) :
    ∃ (earlier : List Answer) (final : Answer),
      Asks shell world ((earlier ++ [final]).map (command, ·))
        (attempt shell command total (left + 1) last world).2 ∧
      (attempt shell command total (left + 1) last world).1 = verdict command total final ∧
      (∀ answer ∈ earlier, answer.succeeded = false) ∧ earlier.length < left + 1 ∧
      (final.succeeded = true ∨ earlier.length + 1 = left + 1) := by
  induction left generalizing last world with
  | zero =>
    refine ⟨[], (ask shell world command).1, ?_⟩
    rw [attempt_succ]
    cases judged : verdict command total (ask shell world command).1 with
    | ok output => exact ⟨.once .., rfl, by simp⟩
    | error failure => exact ⟨.once .., rfl, by simp⟩
  | succ left ih =>
    rw [attempt_succ]
    cases judged : verdict command total (ask shell world command).1 with
    | ok output =>
      have succeeded := (verdict_isOk_iff command total _).mp ⟨output, judged⟩
      exact ⟨[], _, .once .., judged.symm, by simp, by simp, .inl succeeded⟩
    | error failure =>
      obtain ⟨earlier, final, asks, result, failed, allowed, ended⟩ :=
        ih "" (ask shell world command).2
      refine ⟨(ask shell world command).1 :: earlier, final, .cons asks, result, ?_, ?_, ?_⟩
      · rintro answer (_ | ⟨_, member⟩)
        · refine Bool.eq_false_iff.mpr fun succeeded => ?_
          obtain ⟨output, other⟩ := (verdict_isOk_iff command total _).mpr succeeded
          cases judged.symm.trans other
        · exact failed answer member
      · simpa using allowed
      · exact ended.imp_right fun all => by simpa using all

theorem row_asks (shell : Shell State) (options : Options) (command : String)
    (features : List Double) (world : World State) :
    ∃ trial : Trial, trial.features = features ∧ trial.Within (budget options) ∧
      Asks shell world (trial.exchanges command) (row shell options command features world).2 ∧
      (row shell options command features world).1 = trial.outcome options command := by
  obtain ⟨left, enough⟩ := Nat.exists_eq_add_one.mpr (budget_pos options)
  obtain ⟨earlier, final, asks, result, failed, allowed, ended⟩ :=
    attempt_asks shell (rowCommand command features) (budget options) left "" world
  rw [← enough] at asks result allowed ended
  refine ⟨⟨features, earlier, final⟩, rfl, ⟨failed, allowed, ended⟩, ?_, ?_⟩
  · rw [row_eq_attempt]
    exact asks
  · rw [row_eq_attempt, Trial.outcome, conclude, ← result]

theorem outcomes_ask (shell : Shell State) (options : Options) (command : String)
    (batch : List Task) (world : World State) :
    ∃ trials : List Trial, trials.map Trial.features = batch.map Prod.fst ∧
      (∀ trial ∈ trials, trial.Within (budget options)) ∧
      Asks shell world (trials.flatMap (Trial.exchanges command))
        (outcomes shell options command batch world).2 ∧
      (outcomes shell options command batch world).1 =
        (batch.map Prod.snd).zip (trials.map (Trial.outcome options command)) := by
  induction batch generalizing world with
  | nil => exact ⟨[], rfl, by simp, .nil _, rfl⟩
  | cons task rest ih =>
    obtain ⟨features, index⟩ := task
    obtain ⟨trial, rfl, within, asks, result⟩ := row_asks shell options command features world
    obtain ⟨trials, same, each, others, results⟩ :=
      ih (row shell options command trial.features world).2
    refine ⟨trial :: trials, by simp [same], ?_, asks.append others, ?_⟩
    · exact List.forall_mem_cons.mpr ⟨within, each⟩
    · simp only [outcomes, result, results, List.map_cons, List.zip_cons_cons]

/-! ## Results -/

/-- The results of rows in their order, or the failure of the first row that failed. -/
structure Settles (outcomes : List Outcome) (result : Except Failure (List (Option Prediction))) :
    Prop where
  ok_iff : ∀ values, result = .ok values ↔ outcomes = values.map .ok
  error_iff : ∀ failure, result = .error failure ↔
    ∃ before after, outcomes = List.map .ok before ++ .error failure :: after

theorem exists_split (outcomes : List Outcome) :
    (∃ values, outcomes = List.map .ok values) ∨
      ∃ before failure after, outcomes = List.map .ok before ++ .error failure :: after := by
  induction outcomes with
  | nil => exact .inl ⟨[], rfl⟩
  | cons outcome rest ih =>
    cases outcome with
    | error failure => exact .inr ⟨[], failure, rest, rfl⟩
    | ok value =>
      rcases ih with ⟨values, rfl⟩ | ⟨before, failure, after, rfl⟩
      · exact .inl ⟨value :: values, rfl⟩
      · exact .inr ⟨value :: before, failure, after, rfl⟩

theorem Settles.intro {outcomes : List Outcome}
    {result : Except Failure (List (Option Prediction))}
    (all : ∀ values, outcomes = values.map .ok → result = .ok values)
    (first : ∀ before failure after, outcomes = List.map .ok before ++ .error failure :: after →
      result = .error failure) : Settles outcomes result := by
  rcases exists_split outcomes with ⟨values, same⟩ | ⟨before, failure, after, same⟩
  · have succeeds := all values same
    refine ⟨fun others => ⟨fun equal => ?_, all others⟩, fun failure => ⟨fun fails => ?_, ?_⟩⟩
    · cases succeeds.symm.trans equal
      exact same
    · cases succeeds.symm.trans fails
    · rintro ⟨before, after, other⟩
      exact first before failure after other
  · have fails := first before failure after same
    refine ⟨fun values => ⟨fun succeeds => ?_, all values⟩, fun other => ⟨fun equal => ?_, ?_⟩⟩
    · cases fails.symm.trans succeeds
    · cases fails.symm.trans equal
      exact ⟨before, after, same⟩
    · rintro ⟨front, back, split⟩
      exact first front other back split

theorem fillSlots_range' {α : Type} (done left values : List α)
    (same : left.length = values.length) :
    fillSlots (done ++ left) ((List.range' done.length values.length).zip (values.map .ok)) =
      .ok (done ++ values) := by
  induction values generalizing done left with
  | nil => simp_all [fillSlots]
  | cons value values ih =>
    obtain ⟨slot, left, rfl⟩ := List.exists_cons_of_length_eq_add_one same
    have shifted := ih (done ++ [value]) left (by simpa using same)
    rw [List.length_append, List.length_singleton] at shifted
    simpa [List.range'_succ, fillSlots] using shifted

theorem settle_settles (outcomes : List Outcome) : Settles outcomes
    (settle outcomes.length ((List.range outcomes.length).zip outcomes)) := by
  refine .intro ?_ ?_
  · rintro values rfl
    have filled := fillSlots_range' [] (List.replicate values.length none) values (by simp)
    rw [List.length_map, List.range_eq_range']
    exact filled
  · rintro before failure after rfl
    have split : (List.range (before.map (Except.ok (ε := Failure)) ++
          .error failure :: after).length).zip (List.map .ok before ++ .error failure :: after) =
        (List.range before.length).zip (before.map .ok) ++ (before.length, .error failure) ::
          (List.range' (before.length + 1) after.length).zip after := by
      rw [List.range_eq_range', List.length_append, List.length_map, List.length_cons,
        ← List.range'_append_1, List.zip_append (by simp), List.range_eq_range', List.range'_succ]
      simp
    rw [settle, split]
    refine fillSlots_of_error _ _ _ fun entry member => ?_
    obtain ⟨value, -, same⟩ := List.mem_map.mp (List.of_mem_zip member).2
    exact ⟨value, same.symm⟩

theorem conclude_isOk_iff (options : Options) (full : String) (answer : Answer) :
    (∃ value, conclude options full answer = .ok value) ↔
      ∃ output, answer = .ok output ∧ output.success = true ∧ (options.strictOutput = true →
        ∃ prediction, Prediction.read? .leading output.stdout.toList = some prediction) := by
  cases answer with
  | error reason => simp [conclude, verdict, Bind.bind, Except.bind]
  | ok output =>
    cases success : output.success with
    | false => simp [conclude, verdict, success, Bind.bind, Except.bind]
    | true =>
      cases read : Prediction.read? .leading output.stdout.toList <;>
        cases strict : options.strictOutput <;>
        simp [conclude, verdict, success, Prediction.parse, Prediction.parseBy, read, strict, Bind.bind,
          Except.bind]

/-- The trials of a batch and what comes of them: one for each row in order, whether or not those
before it failed. There are results, as many as rows, exactly when every row was answered. -/
structure Tried (options : Options) (command : String) (batch : List (List Double))
    (trials : List Trial) (result : Except Failure (List (Option Prediction))) : Prop where
  features : trials.map Trial.features = batch
  within : ∀ trial ∈ trials, trial.Within (budget options)
  settles : Settles (trials.map (Trial.outcome options command)) result
  answered : (∃ values, result = .ok values) ↔ ∀ trial ∈ trials, trial.Answered options
  count : ∀ values, result = .ok values → values.length = batch.length

theorem Settles.isOk_iff_answered {options : Options} {command : String} {trials : List Trial}
    {result : Except Failure (List (Option Prediction))}
    (settles : Settles (trials.map (Trial.outcome options command)) result) :
    (∃ values, result = .ok values) ↔ ∀ trial ∈ trials, trial.Answered options := by
  constructor
  · rintro ⟨values, succeeds⟩ trial member
    have outcome : trial.outcome options command ∈ List.map Except.ok values :=
      (settles.ok_iff values).mp succeeds ▸ List.mem_map_of_mem member
    obtain ⟨value, -, same⟩ := List.mem_map.mp outcome
    exact (conclude_isOk_iff ..).mp ⟨value, same.symm⟩
  · intro answered
    rcases exists_split (trials.map (Trial.outcome options command)) with
      ⟨values, all⟩ | ⟨before, failure, after, split⟩
    · exact ⟨values, (settles.ok_iff values).mpr all⟩
    · have member : Except.error failure ∈ trials.map (Trial.outcome options command) := by
        rw [split]
        simp
      obtain ⟨trial, inside, fails⟩ := List.mem_map.mp member
      obtain ⟨value, succeeds⟩ := (conclude_isOk_iff ..).mpr (answered trial inside)
      cases fails.symm.trans succeeds

theorem Settles.tried {options : Options} {command : String} {batch : List (List Double)}
    {trials : List Trial} {result : Except Failure (List (Option Prediction))}
    (settles : Settles (trials.map (Trial.outcome options command)) result)
    (features : trials.map Trial.features = batch)
    (within : ∀ trial ∈ trials, trial.Within (budget options)) :
    Tried options command batch trials result where
  features := features
  within := within
  settles := settles
  answered := settles.isOk_iff_answered
  count values succeeds := by
    have all := congrArg List.length ((settles.ok_iff values).mp succeeds)
    rw [List.length_map, List.length_map] at all
    rw [← all, ← features, List.length_map]

theorem rows_ask (shell : Shell State) (options : Options) (command : String)
    (batch : List (List Double)) (world : World State) :
    ∃ trials : List Trial,
      Asks shell world (trials.flatMap (Trial.exchanges command))
        (rows shell options command batch world).2 ∧
      Tried options command batch trials (rows shell options command batch world).1 := by
  obtain ⟨trials, same, within, asks, results⟩ :=
    outcomes_ask shell options command (tasks batch) world
  rw [tasks, List.zipIdx_map_fst] at same
  rw [show (tasks batch).map Prod.snd = List.range batch.length by
    rw [tasks, List.zipIdx_map_snd, List.range_eq_range']] at results
  refine ⟨trials, asks, Settles.tried ?_ same within⟩
  have length : batch.length = (trials.map (Trial.outcome options command)).length := by
    rw [← same, List.length_map, List.length_map]
  change Settles _ (settle batch.length (outcomes shell options command (tasks batch) world).1)
  rw [results, length]
  exact settle_settles _

end Run

end Modelsmith
