import Modelsmith.Proofs.Program.Source
import Modelsmith.Proofs.Run.Course

/-! The stages at which a run can fail.

Everything that is checked first is checked before a file is written or a command is asked. What fails
later is told from it by the kind of the failure.
-/

set_option autoImplicit false

namespace Modelsmith

inductive Stage where
  /-- Nothing was done yet. -/
  | checking
  /-- Files are being written and commands rendered. -/
  | arranging
  | compiling
  | running
  deriving DecidableEq

def Failure.stage : Failure → Stage
  | .file .. | .download _ | .input (.unknownSlot ..) | .input .classPath => .arranging
  | .compilation .. => .compiling
  | .execution .. | .malformedOutput .. | .input (.predictionCount ..) => .running
  | _ => .checking

/-- All failures of a computation are found at one stage. -/
def FailsAt {α : Type} (stage : Stage) (result : Except Failure α) : Prop :=
  ∀ failure, result = .error failure → failure.stage = stage

section
variable {stage : Stage} {α β : Type}

theorem FailsAt.ok (value : α) : FailsAt stage (.ok value) := fun _ failed => nomatch failed

theorem FailsAt.error {failure : Failure} (found : failure.stage = stage) :
    FailsAt stage (.error failure : Except Failure α) := by
  rintro _ ⟨⟩
  exact found

theorem FailsAt.bind {first : Except Failure α} {next : α → Except Failure β}
    (fails : FailsAt stage first) (later : ∀ value, FailsAt stage (next value)) :
    FailsAt stage (first >>= next) := by
  cases first with
  | error failure => exact .error (fails failure rfl)
  | ok value => exact later value

end

/-! ## Before the first command -/

theorem Placement.render_failsAt (placement : Placement) (template : String) :
    FailsAt .arranging (placement.render template) := by
  unfold Placement.render
  refine .bind ?_ fun classPath => ?_
  · unfold Placement.classPathArgument
    split
    · exact .ok _
    · split
      · exact .error rfl
      · exact .ok _
  · dsimp only
    split
    · exact .ok _
    · exact .error rfl

theorem Placement.runCommand_failsAt (placement : Placement) (toolchain : Toolchain) :
    FailsAt .arranging (placement.runCommand toolchain) :=
  .bind (placement.render_failsAt _) fun _ => .ok _

namespace Run

variable {State : Type}

theorem requirePrograms_failsAt (host : Host) (files : Files) (toolchain : Toolchain) :
    FailsAt .checking (requirePrograms host files toolchain) := by
  unfold requirePrograms
  split
  · exact .error rfl
  · exact .ok _

theorem openDirectory_failsAt (directory : String) (session : Session State) :
    FailsAt .arranging ((openDirectory directory).run session).1 := by
  rw [openDirectory_run]
  split
  · exact .ok _
  · unfold Program.createDirectory
    rcases session.world.files.createDirectories directory with ⟨_ | _, _⟩
    · exact .error rfl
    · exact .ok _

theorem writeTraced_failsAt (path content : String) (session : Session State) :
    FailsAt .arranging ((writeTraced path content).run session).1 := by
  rw [writeTraced_run]
  unfold Program.writeFile
  cases session.world.files.writeText path content with
  | error fault => exact .error rfl
  | ok files => exact .ok _

theorem run_bind_failsAt {α β : Type} {stage : Stage} {first : Step State α}
    {next : α → Step State β} (fails : ∀ session, FailsAt stage (first.run session).1)
    (later : ∀ value session, FailsAt stage ((next value).run session).1)
    (session : Session State) : FailsAt stage ((first >>= next).run session).1 := by
  rw [run_bind]
  have start := fails session
  rcases result : first.run session with ⟨failure | value, later'⟩
  · rw [result] at start
    exact .error (start failure rfl)
  · exact later value later'

theorem lift_failsAt {α : Type} {stage : Stage} {result : Except Failure α}
    (fails : FailsAt stage result) (session : Session State) :
    FailsAt stage ((liftM result : Step State α).run session).1 := by
  cases result with
  | error failure => exact fails
  | ok value => exact .ok _

theorem writeProgram_failsAt (program : Program) (placement : Placement) (session : Session State) :
    FailsAt .arranging ((writeProgram program placement).run session).1 := by
  unfold writeProgram
  refine run_bind_failsAt (writeTraced_failsAt _ _) (fun _ session => ?_) session
  split
  · exact writeTraced_failsAt _ _ session
  · exact .ok _

theorem provideLibrary_failsAt (host : Host) (toolchain : Toolchain) (packaging : Packaging)
    (directory : String) (session : Session State) :
    FailsAt .arranging ((provideLibrary host toolchain packaging directory).run session).1 := by
  unfold provideLibrary
  split
  · rw [fetchLibrary_run]
    split
    · exact .ok _
    · split
      · exact .error rfl
      · split
        · exact .ok _
        · exact .error rfl
  · exact .ok _

theorem plan_failsAt (host : Host) (toolchain : Toolchain) (program : Program) (directory : String)
    (files : Files) : FailsAt .arranging (plan host toolchain program directory files) := by
  refine .bind ?_ fun classPath => ?_
  · unfold classPath locateLibrary
    split
    · exact .ok _
    · split
      · dsimp only
        split
        · exact .ok _
        · split
          · exact .ok _
          · exact .error rfl
      · exact .ok _
  · dsimp only
    split
    · exact .ok _
    · exact .bind (Placement.render_failsAt _ _) fun _ => .ok _

theorem arrange_failsAt (host : Host) (options : Options) (toolchain : Toolchain) (program : Program)
    (session : Session State) :
    FailsAt .arranging ((arrange host options toolchain program).run session).1 := by
  unfold arrange
  refine run_bind_failsAt (openDirectory_failsAt _) (fun _ => ?_) session
  refine run_bind_failsAt (writeProgram_failsAt _ _) fun _ => ?_
  refine run_bind_failsAt (provideLibrary_failsAt _ _ _ _) fun _ => ?_
  refine run_bind_failsAt (fun _ => .ok _) fun files session => ?_
  exact lift_failsAt (plan_failsAt host toolchain program _ files) session

theorem judge_failsAt (command : String) (answer : Answer) :
    FailsAt .compiling (judge command answer) := by
  unfold judge
  split
  · exact .error rfl
  · split
    · exact .ok _
    · exact .error rfl

theorem conclude_failsAt (options : Options) (full : String) (answer : Answer) :
    FailsAt .running (conclude options full answer) := by
  unfold conclude
  refine .bind ?_ fun output => ?_
  · unfold verdict
    split
    · split
      · exact .ok _
      · exact .error rfl
    · exact .error rfl
  · unfold Prediction.parse Prediction.parseBy
    split
    · exact .ok _
    · split
      · exact .error rfl
      · exact .ok _

theorem Course.stage_ne_checking {shell : Shell State} {host : Host} {options : Options}
    {toolchain : Toolchain} {batch : List (List Double)} {start ended : Session State}
    {prepared : Placement × Option String} {heard : List Exchange} {failure : Failure}
    (course : Course shell host options toolchain batch start (.ok prepared) heard ended
      (.error failure)) : failure.stage ≠ .checking := by
  cases course with
  | uncompiled _ judged =>
    rw [judge_failsAt _ _ _ judged]
    decide
  | unrendered _ unrendered =>
    rw [Placement.runCommand_failsAt _ _ _ unrendered]
    decide
  | @ran _ _ _ command trials _ _ _ _ _ _ _ _ _ tried =>
    -- What the rows fail with is the outcome of one of them.
    obtain ⟨before, after, split⟩ := (tried.settles.error_iff failure).mp rfl
    have member : Except.error failure ∈ trials.map (Trial.outcome options command) := by
      rw [split]
      exact List.mem_append_right _ List.mem_cons_self
    obtain ⟨trial, -, concluded⟩ := List.mem_map.mp member
    rw [conclude_failsAt _ _ _ _ concluded]
    decide

theorem batch_of_checking {shell : Shell State} {host : Host} {options : Options}
    {toolchain : Toolchain} {program : Program} {rows : List (List Double)} {world : World State}
    {failure : Failure}
    (failed : (batch shell host options toolchain program rows world).1 = .error failure)
    (checking : failure.stage = .checking) (other : Shell State) :
    batch other host options toolchain program rows world = (.error failure, world) := by
  obtain ⟨heard, ended, course, -⟩ :=
    batch_course shell host options toolchain program rows world
  rw [failed, prepare_run] at course
  cases ready : if options.checkDependencies then requirePrograms host world.files toolchain
    else .ok () with
  | error missing =>
    rw [ready] at course
    cases course
    rw [batch, ready]
  | ok _ =>
    -- With all programs there, nothing that can still fail is one of the checks.
    rw [ready] at course
    have arranging := arrange_failsAt host options toolchain program (⟨world, {}⟩ : Session State)
    generalize (arrange host options toolchain program).run ⟨world, {}⟩ = arranged
      at course arranging
    obtain ⟨fault | prepared, session⟩ := arranged
    · cases course
      rw [arranging failure rfl] at checking
      cases checking
    · exact absurd checking course.stage_ne_checking

end Run

namespace Deployment
variable {State : Type}

/-! ## Rows -/

def Admissible (width : Nat) (row : List Double) : Prop :=
  row.length = width ∧ ∀ value ∈ row, value.isFinite = true

/-- What a row is refused for: its width, or else its first value that is not finite. -/
inductive RowRefused (width index : Nat) (row : List Double) : Failure → Prop where
  | width : row.length ≠ width → RowRefused width index row (.input (.rowWidth index row.length width))
  | value {front back : List Double} {value : Double} : row.length = width →
      row = front ++ value :: back → (∀ earlier ∈ front, earlier.isFinite = true) →
      value.isFinite = false →
      RowRefused width index row (.input (.rowValue index front.length value))

theorem exists_numbered {row : List Double} {value : Double} (member : value ∈ row) :
    ∃ entry ∈ row.zipIdx, entry.1 = value := by
  rw [← List.zipIdx_map_fst 0 row] at member
  exact List.mem_map.mp member

theorem split_of_found {row : List Double} {feature : Nat} {value : Double}
    (found : (row.zipIdx.find? fun entry => !entry.1.isFinite) = some (value, feature)) :
    ∃ front back, row = front ++ value :: back ∧ (∀ earlier ∈ front, earlier.isFinite = true) ∧
      value.isFinite = false ∧ feature = front.length := by
  obtain ⟨infinite, before, after, split, finite⟩ := List.find?_eq_some_iff_append.mp found
  -- The numbered row splits where the row does, and the number is the length of the front.
  obtain ⟨front, rest, rfl, rfl, tail⟩ := List.zipIdx_eq_append_iff.mp split
  obtain ⟨_, back, rfl, same, -⟩ := List.zipIdx_eq_cons_iff.mp tail.symm
  obtain ⟨rfl, place⟩ := Prod.mk.inj same
  refine ⟨front, back, rfl, fun earlier member => ?_, by simpa using infinite, by omega⟩
  obtain ⟨entry, inside, rfl⟩ := exists_numbered member
  simpa using finite entry inside

theorem checkRow_cases (width index : Nat) (row : List Double) :
    (checkRow width index row = .ok () ∧ Admissible width row) ∨
      ∃ failure, checkRow width index row = .error failure ∧ RowRefused width index row failure := by
  unfold checkRow
  by_cases same : row.length = width
  · rw [if_neg (not_not_intro same)]
    split
    · rename_i value feature found
      obtain ⟨front, back, split, finite, infinite, rfl⟩ := split_of_found found
      exact .inr ⟨_, rfl, .value same split finite infinite⟩
    · rename_i none
      refine .inl ⟨rfl, same, fun value member => ?_⟩
      obtain ⟨entry, inside, rfl⟩ := exists_numbered member
      simpa using List.find?_eq_none.mp none entry inside
  · rw [if_pos same]
    exact .inr ⟨_, rfl, .width same⟩

theorem RowRefused.not_admissible {width index : Nat} {row : List Double} {failure : Failure}
    (refused : RowRefused width index row failure) : ¬ Admissible width row := by
  rintro ⟨same, finite⟩
  cases refused with
  | width other => exact other same
  | value _ split _ infinite =>
    rw [finite _ (split ▸ List.mem_append_right _ List.mem_cons_self)] at infinite
    cases infinite

theorem checkRowsFrom_cases (width index : Nat) (rows : List (List Double)) :
    (checkRowsFrom width index rows = .ok () ∧ ∀ row ∈ rows, Admissible width row) ∨
      ∃ before row after failure, rows = before ++ row :: after ∧
        (∀ earlier ∈ before, Admissible width earlier) ∧
        RowRefused width (index + before.length) row failure ∧
        checkRowsFrom width index rows = .error failure := by
  induction rows generalizing index with
  | nil => exact .inl ⟨rfl, List.forall_mem_nil _⟩
  | cons row rest ih =>
    rw [checkRowsFrom]
    rcases checkRow_cases width index row with ⟨passed, admissible⟩ | ⟨failure, failed, refused⟩
    · -- The rest is numbered from the next index on, so the row in front counts as one before it.
      rw [passed]
      rcases ih (index + 1) with
        ⟨all, admitted⟩ | ⟨before, other, after, failure, rfl, earlier, refused, failed⟩
      · exact .inl ⟨all, List.forall_mem_cons.mpr ⟨admissible, admitted⟩⟩
      · refine .inr ⟨row :: before, other, after, failure, rfl, ?_, ?_, failed⟩
        · exact List.forall_mem_cons.mpr ⟨admissible, earlier⟩
        · rwa [List.length_cons, Nat.add_comm before.length, ← Nat.add_assoc]
    · rw [failed]
      exact .inr ⟨[], row, rest, failure, rfl, List.forall_mem_nil _, refused, rfl⟩

theorem checkRows_fails_iff (deployment : Deployment) (rows : List (List Double)) :
    (∃ failure, deployment.checkRows rows = .error failure) ↔
      ∃ row ∈ rows, ¬ Admissible deployment.model.featureCount row := by
  rcases checkRowsFrom_cases deployment.model.featureCount 0 rows with
    ⟨passed, all⟩ | ⟨before, row, after, failure, rfl, -, refused, failed⟩
  · constructor
    · rintro ⟨failure, failed⟩
      cases passed.symm.trans failed
    · rintro ⟨row, member, inadmissible⟩
      exact absurd (all row member) inadmissible
  · refine ⟨fun _ => ⟨row, ?_, refused.not_admissible⟩, fun _ => ⟨failure, failed⟩⟩
    exact List.mem_append_right _ List.mem_cons_self

theorem checkRows_names_first {deployment : Deployment} {rows : List (List Double)}
    {failure : Failure} (failed : deployment.checkRows rows = .error failure) :
    ∃ before row after, rows = before ++ row :: after ∧
      (∀ earlier ∈ before, Admissible deployment.model.featureCount earlier) ∧
      RowRefused deployment.model.featureCount before.length row failure := by
  rcases checkRowsFrom_cases deployment.model.featureCount 0 rows with
    ⟨passed, -⟩ | ⟨before, row, after, other, split, earlier, refused, otherFailed⟩
  · cases passed.symm.trans failed
  · cases otherFailed.symm.trans failed
    rw [Nat.zero_add] at refused
    exact ⟨before, row, after, split, earlier, refused⟩

/-! ## Failures without effects -/

section
variable {deployment : Deployment} {host : Host} {options : Options} {rows : List (List Double)}
  {world : World State} {failure : Failure}

theorem predict_of_refused (refused : deployment.checkRows rows = .error failure)
    (shell : Shell State) :
    deployment.predict shell host options rows world = (.error failure, world) := by
  rw [predict, refused]
  rfl

theorem predict_of_checking {shell : Shell State}
    (failed : (deployment.predict shell host options rows world).1 = .error failure)
    (checking : failure.stage = .checking) (other : Shell State) :
    deployment.predict other host options rows world = (.error failure, world) := by
  cases generated : (do deployment.checkRows rows; deployment.program : Except Failure Program) with
  | error fault =>
    simp only [predict, generated] at failed ⊢
    rw [Except.error.inj failed]
  | ok program =>
    simp only [predict, generated] at failed ⊢
    split at failed
    · cases failed
    · rename_i some
      rw [if_neg some]
      exact Run.batch_of_checking failed checking other

theorem score_of_checking {shell : Shell State} {expected : Option (List Double)} {normalize : Bool}
    (failed : (deployment.score shell host options rows expected normalize world).1 = .error failure)
    (checking : failure.stage = .checking) (other : Shell State) :
    deployment.score other host options rows expected normalize world = (.error failure, world) := by
  cases found : deployment.labels rows expected with
  | error fault =>
    simp only [score, found] at failed ⊢
    rw [Except.error.inj failed]
  | ok labels =>
    simp only [score, found] at failed ⊢
    split at failed
    · rename_i fault later predicted
      have same : fault = failure := Except.error.inj failed
      rw [predict_of_checking (by rw [predicted, same]) checking other]
    · -- The only fault of a score itself is one of the results of a run.
      rename_i predictions later predicted
      unfold Score.accuracy at failed
      split at failed
      · cases Except.error.inj failed
        cases checking
      · split at failed <;> cases failed

theorem predict_empty (deployment : Deployment) (host : Host) (options : Options)
    (world : World State) : ∃ result, ∀ shell : Shell State,
      deployment.predict shell host options [] world = (result, world) := by
  unfold predict
  cases (do deployment.checkRows []; deployment.program : Except Failure Program) with
  | error failure => exact ⟨_, fun _ => rfl⟩
  | ok program => exact ⟨_, fun _ => rfl⟩

theorem score_empty (deployment : Deployment) (host : Host) (options : Options)
    (expected : Option (List Double)) (normalize : Bool) (world : World State) :
    ∃ result, ∀ shell : Shell State,
      deployment.score shell host options [] expected normalize world = (result, world) := by
  obtain ⟨predicted, isPredicted⟩ := deployment.predict_empty host options world
  simp only [score, isPredicted]
  cases deployment.labels [] expected with
  | error failure => exact ⟨_, fun _ => rfl⟩
  | ok labels =>
    cases predicted with
    | error failure => exact ⟨_, fun _ => rfl⟩
    | ok predictions => exact ⟨_, fun _ => rfl⟩

end

/-- A prediction or a score that fails in its checks, or that is asked for no rows, comes out the
same under every shell, and leaves the files and the shell as they were. The checks of rows fail for
the first row that is not as wide as the model or not finite, and nothing is saved of a program that
cannot be generated. -/
theorem checks_come_first (deployment : Deployment) (shell : Shell State) (host : Host)
    (options : Options) (rows : List (List Double)) (expected : Option (List Double))
    (normalize : Bool) (world : World State) :
    (∀ failure, (deployment.predict shell host options rows world).1 = .error failure →
      failure.stage = .checking → ∀ other : Shell State,
        deployment.predict other host options rows world = (.error failure, world)) ∧
    (∀ failure,
      (deployment.score shell host options rows expected normalize world).1 = .error failure →
      failure.stage = .checking → ∀ other : Shell State,
        deployment.score other host options rows expected normalize world =
          (.error failure, world)) ∧
    (∃ result, ∀ other : Shell State,
      deployment.predict other host options [] world = (result, world)) ∧
    (∃ result, ∀ other : Shell State,
      deployment.score other host options [] expected normalize world = (result, world)) ∧
    ((∃ failure, deployment.checkRows rows = .error failure) ↔
      ∃ row ∈ rows, ¬ Admissible deployment.model.featureCount row) ∧
    (∀ failure, deployment.checkRows rows = .error failure →
      ∃ before row after, rows = before ++ row :: after ∧
        (∀ earlier ∈ before, Admissible deployment.model.featureCount earlier) ∧
        RowRefused deployment.model.featureCount before.length row failure) ∧
    ∀ (failure : Failure) (directory : String) (files : Files),
      deployment.program = .error failure →
        deployment.save directory files = (.error failure, files) := by
  refine ⟨fun failure => predict_of_checking, fun failure => score_of_checking,
    deployment.predict_empty host options world,
    deployment.score_empty host options expected normalize world, deployment.checkRows_fails_iff rows,
    fun failure => checkRows_names_first, fun failure directory files refused => ?_⟩
  rw [save, refused]

/-- A shell that starts nothing. -/
def broken : Shell Unit where
  run state files _ := (.error "not found", state, files)

def wideRows : List (List Double) := [[Double.zero, Double.one], []]

/-- Neither row is as wide as a root with two leaves, and the first is told. -/
theorem checks_come_first_wide : ∀ other : Shell Unit,
    (ofModel (.ofTree Source.stump)).predict other .standard {} wideRows ⟨Run.workshop, ()⟩ =
      (.error (.input (.rowWidth 0 2 1)), ⟨Run.workshop, ()⟩) := by
  have width : Model.featureCount (.ofTree Source.stump) = 1 := by decide +kernel
  have refused : (ofModel (.ofTree Source.stump)).checkRows wideRows =
      .error (.input (.rowWidth 0 2 1)) := by
    rw [checkRows, show (ofModel (.ofTree Source.stump)).model.featureCount = 1 from width]
    rfl
  have failed : ((ofModel (.ofTree Source.stump)).predict broken .standard {} wideRows
      ⟨Run.workshop, ()⟩).1 = .error (.input (.rowWidth 0 2 1)) :=
    congrArg Prod.fst (predict_of_refused refused broken)
  exact (checks_come_first (ofModel (.ofTree Source.stump)) broken .standard {} wideRows none false
    ⟨Run.workshop, ()⟩).1 _ failed rfl

end Deployment

end Modelsmith
