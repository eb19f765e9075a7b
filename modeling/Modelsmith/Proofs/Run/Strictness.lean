import Modelsmith.Proofs.Run.Scoring
import Modelsmith.Proofs.Run.Stages

/-! Runs that fail on output without a prediction, and runs that leave a gap there.

Two runs that differ in this alone give their rows the same command, and a row has the same answer in
both. They part only at a row whose program succeeded without printing a prediction. How the workers
of either run take turns plays no part, nor does the name of a fresh directory, as long as the shell
does not go by it.
-/

set_option autoImplicit false

namespace Modelsmith.Run

variable {State : Type}

/-! ## One row -/

/-- What becomes of a row under both ways of taking its output, whatever its command is. -/
inductive Reply (options : Options) (answer : Answer) : Prop where
  | failed {text : String} : (∀ full strict,
      conclude { options with strictOutput := strict } full answer =
        .error (.execution full (budget options) text)) → Reply options answer
  | predicted {output : Output} {prediction : Prediction} : answer = .ok output →
      output.success = true → Prediction.read? .leading output.stdout.toList = some prediction →
      (∀ full strict, conclude { options with strictOutput := strict } full answer =
        .ok (some prediction)) → Reply options answer
  | garbled {output : Output} : answer = .ok output → output.success = true →
      Prediction.read? .leading output.stdout.toList = none →
      (∀ full, conclude { options with strictOutput := true } full answer =
        .error (.malformedOutput full output.stdout)) →
      (∀ full, conclude { options with strictOutput := false } full answer = .ok none) →
      Reply options answer

theorem reply_cases (options : Options) (answer : Answer) : Reply options answer := by
  cases answer with
  | error reason => exact @Reply.failed _ _ (complaint (.error reason)) fun _ _ => rfl
  | ok output =>
    cases success : output.success with
    | false =>
      refine @Reply.failed _ _ (complaint (.ok output)) fun _ _ => ?_
      rw [conclude, verdict, success]
      rfl
    | true =>
      have judged (full : String) (strict : Bool) :
          conclude { options with strictOutput := strict } full (.ok output) =
            Prediction.parse full output.stdout strict := by
        rw [conclude, verdict, success]
        rfl
      cases read : Prediction.read? .leading output.stdout.toList with
      | some prediction =>
        refine .predicted rfl success read fun full strict => ?_
        rw [judged, Prediction.parse, Prediction.parseBy, read]
      | none =>
        refine .garbled rfl success read (fun full => ?_) (fun full => ?_)
        · rw [judged, Prediction.parse, Prediction.parseBy, read]
          rfl
        · rw [judged, Prediction.parse, Prediction.parseBy, read]
          rfl

theorem conclude_strict_iff {options : Options} {full other : String} {answer : Answer}
    {value : Option Prediction} :
    conclude { options with strictOutput := true } full answer = .ok value ↔
      conclude { options with strictOutput := false } other answer = .ok value ∧ value ≠ none := by
  cases reply_cases options answer with
  | failed both => simp [both]
  | predicted _ _ _ both =>
    rw [both, both]
    constructor
    · rintro ⟨⟩
      exact ⟨rfl, Option.some_ne_none _⟩
    · exact And.left
  | garbled _ _ _ strict lenient =>
    rw [strict, lenient]
    constructor
    · rintro ⟨⟩
    · rintro ⟨⟨⟩, gap⟩
      exact absurd rfl gap

/-! ## A batch -/

def outcomeOf (options : Options) (command : String) (answer : String → Answer)
    (features : List Double) : Outcome :=
  conclude options (rowCommand command features) (answer (rowCommand command features))

theorem outcomes_strict_iff {options : Options} {command other : String} {answer : String → Answer}
    {batch : List (List Double)} {results : List (Option Prediction)}
    (answers : ∀ features ∈ batch,
      answer (rowCommand command features) = answer (rowCommand other features)) :
    batch.map (outcomeOf { options with strictOutput := true } command answer) =
        results.map .ok ↔
      batch.map (outcomeOf { options with strictOutput := false } other answer) =
        results.map .ok ∧ none ∉ results := by
  induction batch generalizing results with
  | nil =>
    cases results with
    | nil => simp
    | cons result results => simp
  | cons features batch ih =>
    obtain ⟨first, rest⟩ := List.forall_mem_cons.mp answers
    cases results with
    | nil => simp
    | cons result results =>
      simp only [List.map_cons, List.cons.injEq, List.mem_cons, not_or, ih rest]
      rw [outcomeOf, outcomeOf, first, conclude_strict_iff, ne_comm]
      exact and_and_and_comm

variable {shell : Shell State} {answer : String → Answer} {batch : List (List Double)}

/-- The command that a run gives its rows, when it comes to that. -/
def rowsCommand (answer : String → Answer) (host : Host) (options : Options) (toolchain : Toolchain)
    (program : Program) (world : World State) : Except Failure String := do
  let prepared ← ((prepare host options toolchain program).run ⟨world, {}⟩).1
  if let some command := prepared.2 then judge command (answer command)
  prepared.1.runCommand toolchain

section
variable (byText : AnswersBy shell answer)
include byText

theorem rows_settle (options : Options) (command : String) (world : World State) :
    Settles (batch.map (outcomeOf options command answer))
      (rows shell options command batch world).1 := by
  have numbered : (tasks batch).map (Pool.ownOutcome options command answer) =
      (List.range batch.length).zip (batch.map (outcomeOf options command answer)) := by
    apply List.ext_getElem
    · simp [tasks]
    · intro index _ _
      simp [tasks, Pool.ownOutcome, outcomeOf]
  rw [rows_eq byText, numbered]
  have settles := settle_settles (batch.map (outcomeOf options command answer))
  rwa [List.length_map] at settles

theorem proceed_byText (host : Host) (options : Options) (toolchain : Toolchain) (placement : Placement)
    (compiler : Option String) (start : Session State) (world : World State) :
    ((proceed shell host options toolchain batch placement compiler).run start).1 = (do
      if let some command := compiler then judge command (answer command)
      let command ← placement.runCommand toolchain
      (rows shell options command batch world).1) := by
  have finish (later : Session State) : ((do
      let command ← placement.runCommand toolchain
      runRows shell host options command batch : Step State _).run later).1 =
        placement.runCommand toolchain >>= fun command =>
          (rows shell options command batch world).1 := by
    rw [run_bind]
    cases placement.runCommand toolchain with
    | error failure => rfl
    | ok command =>
      have inTurn := eq_rows_of_returns byText
        (allRows_returns shell host options command batch later.world)
      exact inTurn.trans ((rows_eq byText _).trans (rows_eq byText _).symm)
  cases compiler with
  | none => exact finish start
  | some command =>
    -- Whatever the compiler leaves behind, the answers to later commands stay what they are.
    have answered : ((askShell shell command).run start).1 = .ok (answer command) :=
      congrArg Except.ok (byText _ _ _)
    rcases asked : (askShell shell command).run start with ⟨result, later⟩
    rw [asked] at answered
    cases answered
    simp only [proceed, run_bind (askShell shell command), asked]
    rw [run_bind, traceCompiled_run]
    simp only
    rw [run_bind]
    cases judge command (answer command) with
    | error failure => rfl
    | ok _ => exact finish _

theorem batch_byText (host : Host) (options : Options) (toolchain : Toolchain) (program : Program)
    (world : World State) :
    (Run.batch shell host options toolchain program batch world).1 =
      rowsCommand answer host options toolchain program world >>= fun command =>
        (rows shell options command batch world).1 := by
  rw [batch_eq, rowsCommand]
  rcases (prepare host options toolchain program).run ⟨world, {}⟩ with
    ⟨failure | ⟨placement, compiler⟩, session⟩
  · rfl
  · simp only
    rw [proceed_byText byText host options toolchain placement compiler session world, ok_bind]
    cases compiler with
    | none => rfl
    | some command => exact (bind_assoc ..).symm

end

theorem prepare_stage {host : Host} {options : Options} {toolchain : Toolchain} {program : Program}
    {session : Session State} {failure : Failure}
    (failed : ((prepare host options toolchain program).run session).1 = .error failure) :
    failure.stage ≠ .running := by
  rw [prepare_run] at failed
  split at failed
  · rw [arrange_failsAt host options toolchain program session failure failed]
    decide
  · rename_i missing unready
    cases failed
    split at unready
    · rw [requirePrograms_failsAt _ _ _ failure unready]
      decide
    · cases unready

theorem rowsCommand_stage {host : Host} {options : Options} {toolchain : Toolchain}
    {program : Program} {world : World State} {failure : Failure}
    (failed : rowsCommand answer host options toolchain program world = .error failure) :
    failure.stage ≠ .running := by
  rw [rowsCommand] at failed
  cases prepared : ((prepare host options toolchain program).run ⟨world, {}⟩).1 with
  | error fault =>
    rw [prepared] at failed
    cases failed
    exact prepare_stage prepared
  | ok result =>
    obtain ⟨placement, compiler⟩ := result
    rw [prepared, ok_bind] at failed
    have rendering {fault : Failure} (unrendered : placement.runCommand toolchain = .error fault) :
        fault.stage ≠ .running := by
      rw [placement.runCommand_failsAt toolchain fault unrendered]
      decide
    cases compiler with
    | none => exact rendering failed
    | some command =>
      simp only at failed
      cases judged : judge command (answer command) with
      | ok _ =>
        rw [judged] at failed
        exact rendering failed
      | error fault =>
        rw [judged] at failed
        cases failed
        rw [judge_failsAt command (answer command) failure judged]
        decide

/-! ## Two runs -/

/-- Two runs whose rows have these commands come to their rows both or neither, and each row gets the
same answer in both. -/
structure Alike (answer : String → Answer) (batch : List (List Double))
    (first second : Except Failure String) : Prop where
  both : (∃ command, first = .ok command) ↔ ∃ command, second = .ok command
  answers : ∀ command other, first = .ok command → second = .ok other → ∀ features ∈ batch,
    answer (rowCommand command features) = answer (rowCommand other features)

theorem Alike.refl (answer : String → Answer) (batch : List (List Double))
    (command : Except Failure String) : Alike answer batch command command :=
  ⟨Iff.rfl, fun _ _ first second _ _ => by cases first.symm.trans second; rfl⟩

theorem Alike.error {first second : Except Failure String} {failure : Failure}
    (alike : Alike answer batch first second) (fails : first = .error failure) :
    ∃ other, second = .error other := by
  cases given : second with
  | error other => exact ⟨other, rfl⟩
  | ok command => simpa [fails] using alike.both.mpr ⟨command, given⟩

theorem prepare_congr {host other : Host} {options : Options}
    (environment : host.environment = other.environment) (download : host.download = other.download)
    (fresh : options.directory = none → host.fresh = other.fresh) (toolchain : Toolchain)
    (program : Program) :
    (prepare host options toolchain program : Step State _) =
      prepare other options toolchain program := by
  obtain ⟨_, _, _, _, _⟩ := host
  obtain ⟨_, _, _, _, _⟩ := other
  simp only at environment download fresh
  subst environment download
  cases given : options.directory with
  | none =>
    cases fresh given
    rfl
  | some directory =>
    simp only [prepare, arrange, given, Option.getD_some]
    rfl

section
variable {options : Options} {command : String}

theorem gap_iff {results : List (Option Prediction)}
    (all : batch.map (outcomeOf { options with strictOutput := false } command answer) =
      results.map .ok) {index : Nat} {features : List Double} (found : batch[index]? = some features) :
    ∃ output, answer (rowCommand command features) = .ok output ∧ output.success = true ∧
      (results[index]? = some none ↔ Prediction.read? .leading output.stdout.toList = none) := by
  have own := congrArg (·[index]?) all
  simp only [List.getElem?_map, found, Option.map_some] at own
  obtain ⟨value, stands, concluded⟩ := Option.map_eq_some_iff.mp own.symm
  rw [stands, Option.some.injEq]
  rw [outcomeOf] at concluded
  cases reply_cases options (answer (rowCommand command features)) with
  | failed both =>
    rw [both] at concluded
    cases concluded
  | @predicted output prediction answered success read both =>
    rw [both] at concluded
    cases concluded
    exact ⟨output, answered, success, by simp [read]⟩
  | @garbled output answered success read _ lenient =>
    rw [lenient] at concluded
    cases concluded
    exact ⟨output, answered, success, by simp [read]⟩

theorem reported_first {before : List (Option Prediction)} {after : List Outcome}
    {reported output : String}
    (split : batch.map (outcomeOf { options with strictOutput := true } command answer) =
      List.map .ok before ++ .error (.malformedOutput reported output) :: after) :
    ∃ front features back, batch = front ++ features :: back ∧
      rowCommand command features = reported ∧
      ∀ earlier ∈ front, rowCommand command earlier ≠ reported ∧ ∃ value,
        outcomeOf { options with strictOutput := true } command answer earlier = .ok value := by
  obtain ⟨front, rest, rfl, ofFront, ofRest⟩ := List.map_eq_append_iff.mp split
  obtain ⟨features, back, rfl, own, -⟩ := List.map_eq_cons_iff.mp ofRest
  have spelled : rowCommand command features = reported := by
    rw [outcomeOf] at own
    cases reply_cases options (answer (rowCommand command features)) with
    | failed both =>
      rw [both] at own
      cases own
    | predicted _ _ _ both =>
      rw [both] at own
      cases own
    | garbled _ _ _ strict _ =>
      rw [strict] at own
      cases own
      rfl
  refine ⟨front, features, back, rfl, spelled, fun earlier member => ?_⟩
  have inside : outcomeOf { options with strictOutput := true } command answer earlier ∈
      List.map Except.ok before := ofFront ▸ List.mem_map_of_mem member
  obtain ⟨value, -, well⟩ := List.mem_map.mp inside
  refine ⟨fun same => ?_, value, well.symm⟩
  -- The answer goes by the command, so a row with this command would have failed before.
  rw [outcomeOf, same, ← spelled, ← outcomeOf, own] at well
  cases well

end

/-- Two runs that differ in strictness alone, on hosts with the same environment and the same
downloads, are alike: their workers may differ, and where a directory is given, also the name of a
fresh one. Of two runs that are alike, the strict one gives results exactly when the other gives the
same without a gap. A gap stands exactly where a row succeeded and printed no prediction. When the
strict run reports such a row, all rows before the first one with its command do well in both runs. -/
theorem strict_and_lenient_agree (byText : AnswersBy shell answer) (host other : Host)
    (options : Options) (toolchain : Toolchain) (program : Program) (batch : List (List Double))
    (world : World State) :
    let strictly := (Run.batch shell host { options with strictOutput := true } toolchain program
      batch world).1
    let leniently := (Run.batch shell other { options with strictOutput := false } toolchain program
      batch world).1
    let command := rowsCommand answer host options toolchain program world
    let otherCommand := rowsCommand answer other options toolchain program world
    (host.environment = other.environment → host.download = other.download →
      (options.directory = none → host.fresh = other.fresh) →
      Alike answer batch command otherCommand) ∧
    (Alike answer batch command otherCommand →
      (∀ results, strictly = .ok results ↔ leniently = .ok results ∧ none ∉ results) ∧
      (∀ results, leniently = .ok results → ∃ shared, otherCommand = .ok shared ∧
        results.length = batch.length ∧
        ∀ (index : Nat) (features : List Double), batch[index]? = some features →
          ∃ output, answer (rowCommand shared features) = .ok output ∧ output.success = true ∧
            (results[index]? = some none ↔
              Prediction.read? .leading output.stdout.toList = none)) ∧
      ∀ reported output, strictly = .error (.malformedOutput reported output) →
        ∃ strictCommand lenientCommand before features after,
          command = .ok strictCommand ∧ otherCommand = .ok lenientCommand ∧
          batch = before ++ features :: after ∧ rowCommand strictCommand features = reported ∧
          ∀ earlier ∈ before, rowCommand strictCommand earlier ≠ reported ∧ ∀ start,
            (∃ value, (row shell { options with strictOutput := true } strictCommand earlier
              start).1 = .ok value) ∧
            ∃ value, (row shell { options with strictOutput := false } lenientCommand earlier
              start).1 = .ok value) := by
  intro strictly leniently command otherCommand
  have strictRun : strictly = command >>= fun shared =>
      (rows shell { options with strictOutput := true } shared batch world).1 :=
    batch_byText byText host { options with strictOutput := true } toolchain program world
  have lenientRun : leniently = otherCommand >>= fun shared =>
      (rows shell { options with strictOutput := false } shared batch world).1 :=
    batch_byText byText other { options with strictOutput := false } toolchain program world
  refine ⟨fun environment download fresh => ?_, fun alike => ?_⟩
  · have same : command = otherCommand := by
      change rowsCommand answer host options toolchain program world = _
      rw [rowsCommand, prepare_congr environment download fresh]
      rfl
    rw [same]
    exact .refl answer batch otherCommand
  -- Both runs fail before their rows, or both have a command for them.
  cases given : command with
  | error failure =>
    obtain ⟨otherFailure, otherGiven⟩ := alike.error given
    rw [given] at strictRun
    rw [otherGiven] at lenientRun
    have strictFails : strictly = .error failure := strictRun
    have lenientFails : leniently = .error otherFailure := lenientRun
    simp only [strictFails, lenientFails, reduceCtorEq, false_and, false_imp_iff, implies_true,
      true_and, iff_self]
    rintro reported output ⟨⟩
    exact absurd rfl (rowsCommand_stage given)
  | ok shared =>
    obtain ⟨otherShared, otherGiven⟩ := alike.both.mp ⟨shared, given⟩
    have answers := alike.answers shared otherShared given otherGiven
    rw [given] at strictRun
    rw [otherGiven] at lenientRun
    have strictSettles : Settles
        (batch.map (outcomeOf { options with strictOutput := true } shared answer)) strictly :=
      strictRun ▸ rows_settle byText _ _ _
    have lenientSettles : Settles
        (batch.map (outcomeOf { options with strictOutput := false } otherShared answer)) leniently :=
      lenientRun ▸ rows_settle byText _ _ _
    refine ⟨fun results => ?_, fun results succeeds => ?_, fun reported output fails => ?_⟩
    · rw [strictSettles.ok_iff, lenientSettles.ok_iff]
      exact outcomes_strict_iff answers
    · have all := (lenientSettles.ok_iff results).mp succeeds
      have length := congrArg List.length all
      rw [List.length_map, List.length_map] at length
      exact ⟨otherShared, otherGiven, length.symm, fun index features found => gap_iff all found⟩
    · obtain ⟨before, after, split⟩ := (strictSettles.error_iff _).mp fails
      obtain ⟨front, features, back, isBatch, spelled, well⟩ := reported_first split
      refine ⟨shared, otherShared, front, features, back, rfl, otherGiven, isBatch, spelled,
        fun earlier member => ?_⟩
      obtain ⟨apart, value, succeeds⟩ := well earlier member
      have inside : earlier ∈ batch := isBatch ▸ List.mem_append_left _ member
      simp only [row_eq byText]
      refine ⟨apart, fun _ => ⟨⟨value, succeeds⟩, value, ?_⟩⟩
      rw [← answers earlier inside]
      exact (conclude_strict_iff.mp succeeds).1

/-- A shell whose programs print a prediction, but for the one row of a one. -/
def mumbled (command : String) : Answer :=
  .ok ⟨true, if command = "node '/w/Stump.js' 1.0" then "?" else "[0]", ""⟩

def mumbling : Shell Unit where
  run state files command := (mumbled command, state, files)

def mumbler : Program := ⟨"Stump", .javaScript, .combined, .predict, "js", "", none⟩

def mumblerRows : List (List Double) := [[Double.zero], [Double.one], [Double.one]]

theorem mumbling_byText : AnswersBy mumbling mumbled := fun _ _ _ => rfl

theorem batch_mumbling (host : Host) :
    (Run.batch mumbling host { Deployment.stumpOptions with strictOutput := false }
      Deployment.stumpDeployment.toolchain mumbler mumblerRows ⟨workshop, ()⟩).1 =
      .ok [some ⟨Double.zero, none⟩, none, none] := by
  obtain ⟨files, written⟩ := Deployment.writeFile_opened Deployment.workshop_opens ""
  have existing : workshop.exists "/w" = true := rfl
  have interpreted : Deployment.stumpDeployment.toolchain.compile = none := rfl
  have path : Path.join "/w" mumbler.sourceFile = "/w/Stump.js" := rfl
  have command : (Placement.ofProgram mumbler "/w").runCommand Deployment.stumpDeployment.toolchain =
      .ok "node '/w/Stump.js'" := eq_ok_of_toOption rfl
  rw [@batch_eq_rows _ mumbling host { Deployment.stumpOptions with strictOutput := false } _ mumbler
    mumblerRows ⟨workshop, ()⟩ "/w" "node '/w/Stump.js'" files rfl rfl existing interpreted rfl
    (by rw [path]; exact written) command,
    eq_rows_of_returns mumbling_byText (allRows_returns ..), rows_eq mumbling_byText]
  exact eq_ok_of_toOption (by decide +kernel)

/-- A host without a pool of workers, with another name for a fresh directory. -/
def poolless : Host where
  environment := []
  fresh := "1"
  turns := none

/-- Two rows leave a gap, and so a strict run gives no results. -/
theorem strict_and_lenient_agree_mumbling :
    (Run.batch mumbling poolless { Deployment.stumpOptions with strictOutput := false }
      Deployment.stumpDeployment.toolchain mumbler mumblerRows ⟨workshop, ()⟩).1 =
        .ok [some ⟨Double.zero, none⟩, none, none] ∧
      ∀ results, (Run.batch mumbling .standard { Deployment.stumpOptions with strictOutput := true }
        Deployment.stumpDeployment.toolchain mumbler mumblerRows ⟨workshop, ()⟩).1 ≠ .ok results := by
  refine ⟨batch_mumbling poolless, fun results succeeds => ?_⟩
  obtain ⟨alike, agree⟩ := strict_and_lenient_agree mumbling_byText .standard poolless
    Deployment.stumpOptions Deployment.stumpDeployment.toolchain mumbler mumblerRows ⟨workshop, ()⟩
  obtain ⟨lenient, noGap⟩ := ((agree (alike rfl rfl fun none => nomatch none)).1 results).mp succeeds
  cases (batch_mumbling poolless).symm.trans lenient
  exact noGap (List.mem_cons_of_mem _ List.mem_cons_self)

end Modelsmith.Run
