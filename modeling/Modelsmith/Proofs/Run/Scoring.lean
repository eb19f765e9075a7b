import Modelsmith.Proofs.Double.Rounding
import Modelsmith.Proofs.Failing
import Modelsmith.Proofs.Program.Generation
import Modelsmith.Proofs.Run.Course

/-! A score counts the rows whose own last answer printed the label that belongs to the row. -/

set_option autoImplicit false

namespace Modelsmith

namespace Run

variable {State : Type}

/-- These are the trials that a run makes at its rows, once the program is compiled: one after the
other, or mixed when there are several workers. -/
def MakesTrials (shell : Shell State) (host : Host) (options : Options) (toolchain : Toolchain)
    (program : Program) (rows : List (List Double)) (world : World State) (trials : List Trial) :
    Prop :=
  ∃ placement compiler start compiled later command heard after,
    (prepare host options toolchain program).run ⟨world, {}⟩ =
      (.ok (placement, compiler), start) ∧
    Compiles shell toolchain placement start compiler compiled later ∧
    placement.runCommand toolchain = .ok command ∧
    Asks shell later.world heard after ∧ Interleaves command trials heard ∧
    (InTurn host options rows → heard = trials.flatMap (Trial.exchanges command)) ∧
    trials.map Trial.features = rows ∧ ∀ trial ∈ trials, trial.Within (budget options)

theorem batch_makesTrials {shell : Shell State} {host : Host} {options : Options}
    {toolchain : Toolchain} {program : Program} {rows : List (List Double)} {world : World State}
    {values : List (Option Prediction)}
    (succeeds : (batch shell host options toolchain program rows world).1 = .ok values) :
    ∃ command trials, MakesTrials shell host options toolchain program rows world trials ∧
      trials.map (Trial.outcome options command) = values.map .ok := by
  obtain ⟨heard, ended, course, -⟩ :=
    batch_course shell host options toolchain program rows world
  rw [succeeds] at course
  generalize prepared : (prepare host options toolchain program).run ⟨world, {}⟩ = arranged at course
  obtain ⟨result, start⟩ := arranged
  cases course with
  | @ran placement compiler compiled command trials asked later after _ compiles rendered asks
      interleaves inTurn tried =>
    exact ⟨command, trials, ⟨placement, compiler, start, compiled, later, command, asked, after,
      prepared, compiles, rendered, asks, interleaves, inTurn, tried.features, tried.within⟩,
      (tried.settles.ok_iff values).mp rfl⟩

end Run

namespace Deployment

open Run

variable {State : Type} {deployment : Deployment} {rows : List (List Double)}

theorem predict_makesTrials {shell : Shell State} {host : Host} {options : Options}
    {world : World State} {values : List (Option Prediction)}
    (succeeds : (deployment.predict shell host options rows world).1 = .ok values) :
    ∃ command trials, trials.map Trial.features = rows ∧
      trials.map (Trial.outcome options command) = values.map .ok ∧
      (rows ≠ [] → ∃ program, deployment.program = .ok program ∧
        MakesTrials shell host options deployment.toolchain program rows world trials) := by
  unfold predict at succeeds
  split at succeeds
  · cases succeeds
  rename_i program checked
  obtain ⟨-, -, generated⟩ := bind_eq_ok.mp checked
  cases rows with
  | nil =>
    cases succeeds
    exact ⟨"", [], rfl, rfl, fun nonempty => absurd rfl nonempty⟩
  | cons row rows =>
    obtain ⟨command, trials, made, all⟩ := batch_makesTrials succeeds
    obtain ⟨_, _, _, _, _, _, _, _, -, -, -, -, -, -, features, -⟩ := id made
    exact ⟨command, trials, features, all, fun _ => ⟨program, generated, made⟩⟩

theorem predict_eq_batch {deployment : Deployment} {shell : Shell State} {host : Host}
    {options : Options} {rows : List (List Double)} {world : World State} {program : Program}
    (checked : deployment.checkRows rows = .ok ()) (generated : deployment.program = .ok program)
    (nonempty : rows.isEmpty = false) :
    deployment.predict shell host options rows world =
      Run.batch shell host options deployment.toolchain program rows world := by
  rw [predict, checked, ok_bind, generated]
  simp [nonempty]

def sureOutput : Output := ⟨true, "\x7b\"predict\": 1\x7d", ""⟩

theorem sureOutput_read :
    Prediction.read? .leading sureOutput.stdout.toList = some ⟨Double.one, none⟩ := by
  decide +kernel

/-- A shell in which every command prints the same prediction. -/
def sure : Shell Unit where
  run state files _ := (.ok sureOutput, state, files)

def stumpDeployment : Deployment where
  model := .ofTree Source.stump
  language := .javaScript
  packaging := .combined
  className := "Stump"

def stumpOptions : Options where
  checkDependencies := false
  directory := some "/w"
  workers := some 2

def stumpRows : List (List Double) := [[Double.one], [Double.zero]]

theorem writeFile_opened {files : Files} {path : String}
    (opens : ((files.openToWrite path).toOption.map fun opened => opened.2.1.kind) =
      some (.file [])) (content : String) :
    ∃ later, Program.writeFile files path content = .ok later := by
  cases opened : files.openToWrite path with
  | error fault =>
    rw [opened] at opens
    cases opens
  | ok opening =>
    rw [opened] at opens
    obtain ⟨number, node, files⟩ := opening
    have empty : node.kind = .file [] := Option.some.inj opens
    rw [Program.writeFile, Files.writeText, Files.write, opened, ok_bind]
    simp only [empty]
    exact ⟨_, rfl⟩

theorem allRows_constant {shell : Shell State} {output : Output} {prediction : Prediction}
    (byText : AnswersBy shell fun _ => .ok output) (success : output.success = true)
    (read : Prediction.read? .leading output.stdout.toList = some prediction) (host : Host)
    (options : Options) (command : String) (batch : List (List Double)) (world : World State) :
    (allRows shell host options command batch world).1 =
      .ok (batch.map fun _ => some prediction) := by
  have concluded (full : String) : conclude options full (.ok output) = .ok (some prediction) := by
    rw [conclude, verdict, if_pos success, ok_bind, Prediction.parse, Prediction.parseBy, read]
  obtain ⟨slots, settled, same⟩ := @settle_of_ok options command (fun _ => .ok output) batch _
    (.refl _) fun features _ => ⟨_, concluded (rowCommand command features)⟩
  rw [eq_rows_of_returns byText (allRows_returns ..), rows_eq byText, settled]
  simp only [concluded] at same
  rw [(List.map_inj_right fun _ _ => Except.ok.inj).mp (same.trans (List.map_map ..).symm)]

theorem predict_sure {deployment : Deployment} (model : deployment.model = stumpDeployment.model)
    (target : deployment.target = stumpDeployment.target)
    (toolchain : deployment.toolchain = stumpDeployment.toolchain) (host : Host) {options : Options}
    {files : Files} (unchecked : options.checkDependencies = false)
    (given : options.directory = some "/w") (existing : files.exists "/w" = true)
    (opens : ((files.openToWrite "/w/Stump.js").toOption.map fun opened => opened.2.1.kind) =
      some (.file [])) :
    (deployment.predict sure host options stumpRows ⟨files, ()⟩).1 =
      .ok (stumpRows.map fun _ => some ⟨Double.one, none⟩) := by
  have checked : stumpDeployment.target.check stumpDeployment.model.kind = .ok () :=
    eq_ok_of_toOption rfl
  have rowsChecked : stumpDeployment.checkRows stumpRows = .ok () :=
    eq_ok_of_toOption (by decide +kernel)
  obtain ⟨source, -, generated⟩ := @generate_checked stumpDeployment.model stumpDeployment.target
    _ (fun _ => rfl) Source.stump_valid checked
  rw [if_neg (by decide), ← model, ← target, ← program] at generated
  rw [checkRows, ← model, ← checkRows] at rowsChecked
  obtain ⟨later, written⟩ := writeFile_opened opens source
  have path : Path.join "/w" (deployment.target.program source none).sourceFile = "/w/Stump.js" := by
    rw [target]
    exact show Path.join "/w" (stumpDeployment.className ++ "." ++
      stumpDeployment.toolchain.extension) = _ by decide
  have command : (Placement.ofProgram (deployment.target.program source none) "/w").runCommand
      deployment.toolchain = .ok "node '/w/Stump.js'" := by
    have rendered : (Placement.mk "/w" "Stump" "/w/Stump.js" none []).runCommand
        stumpDeployment.toolchain = .ok "node '/w/Stump.js'" := eq_ok_of_toOption rfl
    rw [Placement.ofProgram, path, toolchain, target]
    exact rendered
  have interpreted : deployment.toolchain.compile = none :=
    (congrArg Toolchain.compile toolchain).trans rfl
  have byText : AnswersBy sure fun _ => .ok sureOutput := fun _ _ _ => rfl
  rw [predict_eq_batch rowsChecked generated rfl, @batch_eq_rows _ sure host options _
    (deployment.target.program source none) stumpRows ⟨files, ()⟩ "/w" "node '/w/Stump.js'" later
    unchecked given existing interpreted rfl (by rw [path]; exact written) command]
  exact allRows_constant byText rfl sureOutput_read ..

theorem workshop_opens : ((workshop.openToWrite "/w/Stump.js").toOption.map fun opened =>
    opened.2.1.kind) = some (.file []) := rfl

end Deployment

end Modelsmith
