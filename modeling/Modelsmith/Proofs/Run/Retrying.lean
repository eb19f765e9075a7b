import Mathlib.Data.ENat.Lattice
import Modelsmith.Proofs.Run.Exchanges
import Modelsmith.Proofs.Text

/-! A command that is asked again until it succeeds.

What a shell would answer to the same command over and over is a sequence, whatever the shell keeps
in mind. The attempts at a command go through this sequence up to its first success or to the end of
their budget, and what they come to is told by the last answer alone.
-/

set_option autoImplicit false

namespace Modelsmith.Run

/-! ## Reports -/

/-- A text and what is left of it without the white space at its end. -/
def Stripped (text kept : List Char) : Prop :=
  ∃ blanks, text = kept ++ blanks ∧ (∀ c ∈ blanks, Text.isBlank c = true) ∧
    ∀ c, kept.getLast? = some c → Text.isBlank c = false

/-- What is told about an answer that is no success: both outputs, each stripped and left out when
nothing remains of it, one below the other; or why the command could not be started. -/
inductive Reports : Answer → String → Prop where
  | failed {output : Output} {stdout stderr : List Char} : output.success = false →
      Stripped output.stdout.toList stdout → Stripped output.stderr.toList stderr →
      Reports (.ok output)
        (String.ofList (Text.joinWith ['\n'] ([stdout, stderr].filter fun text => !text.isEmpty)))
  | unstarted {reason : String} : Reports (.error reason) ("cannot launch: " ++ reason)

theorem stripped_iff {text kept : List Char} : Stripped text kept ↔ kept = Text.trimEnd text := by
  constructor
  · rintro ⟨blanks, rfl, blank, solid⟩
    rw [Text.trimEnd, List.reverse_append, Text.dropWhile_append (by simpa using blank),
      List.reverse_reverse]
    intro c first
    exact solid c (by rwa [List.getLast?_eq_head?_reverse])
  · rintro rfl
    refine ⟨(text.reverse.takeWhile Text.isBlank).reverse, ?_, ?_, ?_⟩
    · rw [Text.trimEnd, ← List.reverse_append, List.takeWhile_append_dropWhile, List.reverse_reverse]
    · intro c member
      exact List.all_eq_true.mp List.all_takeWhile c (List.mem_reverse.mp member)
    · intro c last
      rw [Text.trimEnd, List.getLast?_reverse] at last
      have := List.head?_dropWhile_not Text.isBlank text.reverse
      rw [last] at this
      simpa using this

theorem reports_iff {answer : Answer} (failed : answer.succeeded = false) {report : String} :
    Reports answer report ↔ report = complaint answer := by
  cases answer with
  | error reason =>
    constructor
    · rintro ⟨⟩
      rfl
    · rintro rfl
      exact .unstarted
  | ok output =>
    have both : complaint (.ok output) = String.ofList (Text.joinWith ['\n']
        ([Text.trimEnd output.stdout.toList, Text.trimEnd output.stderr.toList].filter
          fun text => !text.isEmpty)) := by
      rw [complaint, Output.both]
      cases Text.trimEnd output.stdout.toList with
      | nil => cases Text.trimEnd output.stderr.toList <;> simp [Text.joinWith]
      | cons c stdout => cases Text.trimEnd output.stderr.toList <;> simp [Text.joinWith]
    rw [both]
    constructor
    · rintro ⟨-, first, second⟩
      rw [stripped_iff.mp first, stripped_iff.mp second]
    · rintro rfl
      exact .failed failed (stripped_iff.mpr rfl) (stripped_iff.mpr rfl)

/-! ## The answers to one command -/

section
variable {State : Type} (shell : Shell State) (command : String) (world : World State)

/-- The world after a command was run a number of times. -/
def worldAfter : Nat → World State
  | 0 => world
  | count + 1 => (ask shell (worldAfter count) command).2

def answerAfter (count : Nat) : Answer := (ask shell (worldAfter shell command world count) command).1

theorem worldAfter_ask (count : Nat) :
    worldAfter shell command (ask shell world command).2 count =
      worldAfter shell command world (count + 1) := by
  induction count with
  | zero => rfl
  | succ count ih => rw [worldAfter, ih, ← worldAfter]

theorem worldAfter_logged (log : Shell.Log) (count : Nat) :
    ∃ listing, worldAfter shell.logged command ⟨world.files, world.shell, log⟩ count =
      ⟨(worldAfter shell command world count).files, (worldAfter shell command world count).shell,
        ⟨List.replicate count command ++ log.commands, listing⟩⟩ := by
  induction count with
  | zero => exact ⟨log.filesAtStart, rfl⟩
  | succ count ih =>
    obtain ⟨listing, same⟩ := ih
    refine ⟨some (listing.getD (worldAfter shell command world count).files.listing), ?_⟩
    rw [worldAfter, same]
    rfl

theorem answerAfter_logged (log : Shell.Log) :
    answerAfter shell.logged command ⟨world.files, world.shell, log⟩ =
      answerAfter shell command world := by
  funext count
  obtain ⟨listing, same⟩ := worldAfter_logged shell command world log count
  rw [answerAfter, same]
  rfl

variable {shell command world}

theorem Asks.repeated {answers : List Answer} {later : World State}
    (asks : Asks shell world (answers.map (command, ·)) later) :
    later = worldAfter shell command world answers.length ∧
      ∀ count, count < answers.length →
        answers[count]? = some (answerAfter shell command world count) := by
  induction answers generalizing world with
  | nil =>
    cases asks
    exact ⟨rfl, by simp⟩
  | cons answer answers ih =>
    cases asks with
    | cons asks =>
      obtain ⟨rfl, each⟩ := ih asks
      refine ⟨worldAfter_ask .., fun count inside => ?_⟩
      cases count with
      | zero => rfl
      | succ count =>
        rw [List.getElem?_cons_succ, each count (by simpa using inside), answerAfter, worldAfter_ask]
        rfl

end

/-! ## The first success -/

/-- The position of the first success, counted from one; infinite when there is none. -/
noncomputable def firstSuccess (answers : Nat → Answer) : ℕ∞ :=
  ⨅ (count : Nat) (_ : (answers count).succeeded = true), ((count + 1 : Nat) : ℕ∞)

theorem lt_firstSuccess {answers : Nat → Answer} {count : Nat}
    (failed : ∀ earlier, earlier < count → (answers earlier).succeeded = false) :
    (count : ℕ∞) < firstSuccess answers := by
  refine lt_of_lt_of_le (Nat.cast_lt.mpr count.lt_succ_self) (le_iInf₂ fun later succeeded => ?_)
  refine Nat.cast_le.mpr (Nat.succ_le_succ (Nat.le_of_not_lt fun earlier => ?_))
  rw [failed later earlier] at succeeded
  cases succeeded

theorem firstSuccess_eq {answers : Nat → Answer} {count : Nat}
    (failed : ∀ earlier, earlier < count → (answers earlier).succeeded = false)
    (succeeded : (answers count).succeeded = true) :
    firstSuccess answers = ((count + 1 : Nat) : ℕ∞) :=
  le_antisymm (iInf₂_le count succeeded) (Order.add_one_le_of_lt (lt_firstSuccess failed))

/-! ## Attempts -/

/-- How attempts at a command with a budget end, told by the answers that it would get. -/
structure Retried (command : String) (budget : Nat) (answers : Nat → Answer) (calls : Nat)
    (outcome : Except Failure Output) : Prop where
  calls_eq : (calls : ℕ∞) = min (budget : ℕ∞) (firstSuccess answers)
  ok_iff : ∀ output, outcome = .ok output ↔ ∃ count : Nat,
    firstSuccess answers = ((count + 1 : Nat) : ℕ∞) ∧ count + 1 ≤ budget ∧
      answers count = .ok output
  error_iff : ∀ failure, outcome = .error failure ↔ (budget : ℕ∞) < firstSuccess answers ∧
    ∃ report, Reports (answers (budget - 1)) report ∧ failure = .execution command budget report

theorem Retried.of_success {command : String} {budget count : Nat} {answers : Nat → Answer}
    (failed : ∀ earlier, earlier < count → (answers earlier).succeeded = false)
    (succeeded : (answers count).succeeded = true) (allowed : count + 1 ≤ budget) :
    Retried command budget answers (count + 1) (verdict command budget (answers count)) := by
  have first := firstSuccess_eq failed succeeded
  obtain ⟨output, stands⟩ := (verdict_isOk_iff command budget _).mpr succeeded
  have answered : answers count = .ok output := by
    cases answer : answers count with
    | error reason => simp [answer, Answer.succeeded] at succeeded
    | ok found =>
      rw [answer, Answer.succeeded] at succeeded
      simpa [answer, verdict, succeeded] using stands
  refine ⟨?_, fun found => ?_, fun failure => ?_⟩
  · rw [first, min_eq_right (Nat.cast_le.mpr allowed)]
  · rw [stands]
    constructor
    · rintro ⟨⟩
      exact ⟨count, first, allowed, answered⟩
    · rintro ⟨other, again, -, same⟩
      obtain rfl : count = other := by simpa using Nat.cast_inj.mp (first.symm.trans again)
      cases answered.symm.trans same
      rfl
  · rw [stands]
    constructor
    · rintro ⟨⟩
    · rintro ⟨beyond, -⟩
      rw [first] at beyond
      exact absurd (Nat.cast_lt.mp beyond) (Nat.not_lt_of_le allowed)

theorem Retried.of_failures {command : String} {count : Nat} {answers : Nat → Answer}
    (failed : ∀ earlier, earlier < count + 1 → (answers earlier).succeeded = false) :
    Retried command (count + 1) answers (count + 1)
      (verdict command (count + 1) (answers count)) := by
  have beyond := lt_firstSuccess failed
  have last := failed count count.lt_succ_self
  have stands : verdict command (count + 1) (answers count) =
      .error (.execution command (count + 1) (complaint (answers count))) := by
    cases answer : answers count with
    | error reason => rfl
    | ok output =>
      rw [answer, Answer.succeeded] at last
      simp [verdict, last]
  refine ⟨(min_eq_left beyond.le).symm, fun output => ?_, fun failure => ?_⟩
  · rw [stands]
    constructor
    · rintro ⟨⟩
    · rintro ⟨other, first, allowed, -⟩
      rw [first] at beyond
      exact absurd (Nat.cast_lt.mp beyond) (Nat.not_lt_of_le allowed)
  · rw [stands, Nat.add_sub_cancel]
    constructor
    · rintro ⟨⟩
      exact ⟨beyond, _, (reports_iff last).mpr rfl, rfl⟩
    · rintro ⟨-, report, reports, rfl⟩
      rw [(reports_iff last).mp reports]

theorem retry_retried {State : Type} (shell : Shell State) (command : String) (attempts : Nat)
    (world : World State) :
    ∃ calls, Retried command (max attempts 1) (answerAfter shell command world) calls
        (retry shell command attempts world).1 ∧
      (retry shell command attempts world).2 = worldAfter shell command world calls := by
  obtain ⟨left, enough⟩ := Nat.exists_eq_add_one.mpr (Nat.le_max_right attempts 1)
  obtain ⟨earlier, final, asks, result, failed, allowed, ended⟩ :=
    attempt_asks shell command (max attempts 1) left "" world
  rw [← enough] at asks result allowed ended
  obtain ⟨later, each⟩ := asks.repeated
  rw [List.length_append, List.length_singleton] at later each
  have last : answerAfter shell command world earlier.length = final := by
    have read := each earlier.length (Nat.lt_succ_self _)
    rw [List.getElem?_concat_length] at read
    exact (Option.some.inj read).symm
  have before : ∀ count, count < earlier.length →
      (answerAfter shell command world count).succeeded = false := by
    intro count inside
    have read := each count (Nat.lt_succ_of_lt inside)
    rw [List.getElem?_append_left inside] at read
    exact failed _ (List.mem_of_getElem? read)
  -- All but the last answer are failures; the last is a success or has used up the budget.
  refine ⟨earlier.length + 1, ?_, later⟩
  change Retried command _ _ _ (attempt shell command _ _ "" world).1
  rw [result, ← last]
  cases succeeded : final.succeeded with
  | true => exact .of_success before (last ▸ succeeded) allowed
  | false =>
    obtain all : earlier.length + 1 = max attempts 1 := by simpa [succeeded] using ended
    rw [← all]
    refine .of_failures fun count inside => ?_
    rcases Nat.lt_succ_iff_lt_or_eq.mp inside with less | rfl
    · exact before count less
    · rw [last, succeeded]

/-- A command is asked as often as its budget allows, at least once, but not again after its first
success. Its outcome is that success; when it is out of reach, it is a failure that tells the
command, the budget and the last answer only. A log of the shell shows the command and nothing
else. -/
theorem retry_stops_at_first_success {State : Type} (shell : Shell State) (command : String)
    (attempts : Nat) (world : World State) (log : Shell.Log) :
    ∃ calls, Retried command (max attempts 1) (answerAfter shell command world) calls
        (retry shell command attempts world).1 ∧
      (retry shell command attempts world).2 = worldAfter shell command world calls ∧
      (retry shell.logged command attempts ⟨world.files, world.shell, log⟩).2.shell.2.commands =
        List.replicate calls command ++ log.commands := by
  obtain ⟨calls, retried, later⟩ := retry_retried shell command attempts world
  obtain ⟨heard, again, after⟩ :=
    retry_retried shell.logged command attempts ⟨world.files, world.shell, log⟩
  rw [answerAfter_logged] at again
  obtain rfl : heard = calls := Nat.cast_inj.mp (again.calls_eq.trans retried.calls_eq.symm)
  obtain ⟨listing, same⟩ := worldAfter_logged shell command world log heard
  exact ⟨heard, retried, later, by rw [after, same]⟩

end Modelsmith.Run
