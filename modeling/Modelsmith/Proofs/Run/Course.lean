import Modelsmith.Deployment
import Modelsmith.Proofs.Failing
import Modelsmith.Proofs.Run.Interleaving

/-! The course of a run: what is done before the first command, then the compiler, then the rows.

`prepare` collects everything that asks no shell; `Course` says what happens after it, for each way a
run can end, with the exchanges, the session it ends in and its result.
-/

set_option autoImplicit false

namespace Modelsmith.Run

variable {State : Type}

/-! ## Steps -/

theorem run_bind {α β : Type} (first : Step State α) (next : α → Step State β)
    (session : Session State) :
    (first >>= next).run session =
      match first.run session with
      | (.ok value, later) => (next value).run later
      | (.error failure, later) => (.error failure, later) := by
  change (ExceptT.bind first next) session = _
  simp only [ExceptT.bind, ExceptT.mk, ExceptT.run, Bind.bind, StateT.bind]
  cases first session with
  | mk result later => cases result <;> rfl

theorem files_run (session : Session State) :
    (files : Step State Files).run session = (.ok session.world.files, session) := rfl

theorem openDirectory_run (directory : String) (session : Session State) :
    (openDirectory directory).run session =
      if session.world.files.exists directory then (.ok (), session)
      else
        match Program.createDirectory session.world.files directory with
        | (.ok _, files) => (.ok (), {
            world := { session.world with files }
            traces := session.traces.addDirectory directory })
        | (.error failure, files) =>
          (.error failure, { session with world := { session.world with files } }) := by
  rw [openDirectory, run_bind, files_run]
  cases found : session.world.files.exists directory with
  | true =>
    simp only [found, Bool.not_true, Bool.false_eq_true, if_false, if_true]
    rfl
  | false =>
    simp only [found, Bool.not_false, if_true, run_bind, files_run, Bool.false_eq_true, if_false]
    rcases Program.createDirectory session.world.files directory with ⟨_ | _, _⟩ <;> rfl

theorem writeTraced_run (path content : String) (session : Session State) :
    (writeTraced path content).run session =
      match Program.writeFile session.world.files path content with
      | .ok files => (.ok (), {
          world := { session.world with files }
          traces := session.traces.add path })
      | .error failure => (.error failure, { session with traces := session.traces.add path }) := by
  have opened : (writeTraced path content).run session =
      (do
        setFiles (← Program.writeFile session.world.files path content) : Step State Unit).run
          { session with traces := session.traces.add path } := rfl
  rw [opened, run_bind]
  cases Program.writeFile session.world.files path content <;> rfl

theorem fetchLibrary_run (host : Host) (library : Library) (directory : String)
    (session : Session State) :
    (fetchLibrary host library directory).run session =
      if (locateLibrary host library session.world.files directory).isOk then (.ok (), session)
      else
        match host.download (libraryAddress host library) with
        | none => (.error (.download (libraryAddress host library)), session)
        | some content =>
          match session.world.files.write (Path.join directory library.fileName) content with
          | .ok files => (.ok (), {
              world := { session.world with files }
              traces := session.traces.add (Path.join directory library.fileName) })
          | .error fault =>
            (.error (.file .write (Path.join directory library.fileName) fault), session) := by
  rw [fetchLibrary, run_bind, files_run]
  cases located : (locateLibrary host library session.world.files directory).isOk with
  | true =>
    simp only [located, if_true]
    rfl
  | false =>
    simp only [located, Bool.false_eq_true, if_false]
    cases host.download (libraryAddress host library) with
    | none => rfl
    | some content =>
      simp only [run_bind, files_run]
      cases session.world.files.write (Path.join directory library.fileName) content <;> rfl

/-- A step that leaves the shell as it is. -/
def Quiet {α : Type} (step : Step State α) : Prop :=
  ∀ session, (step.run session).2.world.shell = session.world.shell

theorem Quiet.bind {α β : Type} {first : Step State α} {next : α → Step State β}
    (quiet : Quiet first) (quietly : ∀ value, Quiet (next value)) : Quiet (first >>= next) := by
  intro session
  rw [run_bind]
  have start := quiet session
  rcases result : first.run session with ⟨_ | value, later⟩ <;> rw [result] at start
  · exact start
  · exact (quietly value later).trans start

theorem quiet_lift {α : Type} (result : Except Failure α) :
    Quiet (liftM result : Step State α) := fun session => by
  cases result <;> rfl

theorem quiet_openDirectory (directory : String) : Quiet (openDirectory directory : Step State _) := by
  unfold openDirectory
  refine .bind (fun _ => rfl) fun files => ?_
  cases files.exists directory with
  | true => exact fun _ => rfl
  | false =>
    refine .bind (fun _ => rfl) fun files => .bind (fun _ => rfl) fun _ => ?_
    exact .bind (quiet_lift _) fun _ _ => rfl

theorem quiet_writeTraced (path content : String) :
    Quiet (writeTraced path content : Step State _) :=
  .bind (fun _ => rfl) fun _ => .bind (fun _ => rfl) fun _ => .bind (quiet_lift _) fun _ _ => rfl

theorem quiet_writeProgram (program : Program) (placement : Placement) :
    Quiet (writeProgram program placement : Step State _) := by
  refine .bind (quiet_writeTraced _ _) fun _ => ?_
  split
  · exact quiet_writeTraced _ _
  · exact fun _ => rfl

theorem quiet_provideLibrary (host : Host) (toolchain : Toolchain) (packaging : Packaging)
    (directory : String) :
    Quiet (provideLibrary host toolchain packaging directory : Step State _) := by
  intro session
  unfold provideLibrary
  split
  · rw [fetchLibrary_run]
    split
    · rfl
    · split
      · rfl
      · split <;> rfl
  · rfl

def plan (host : Host) (toolchain : Toolchain) (program : Program) (directory : String)
    (files : Files) : Except Failure (Placement × Option String) := do
  let classPath ← classPath host toolchain program.packaging files directory
  let placement := { Placement.ofProgram program directory with classPath }
  match toolchain.compile with
  | none => return (placement, none)
  | some template => return (placement, some (← placement.render template))

/-- Everything in the open working directory before the first command. -/
def equip (host : Host) (toolchain : Toolchain) (program : Program) (directory : String) :
    Step State (Placement × Option String) := do
  writeProgram program (Placement.ofProgram program directory)
  provideLibrary host toolchain program.packaging directory
  plan host toolchain program directory (← files)

def arrange (host : Host) (options : Options) (toolchain : Toolchain) (program : Program) :
    Step State (Placement × Option String) := do
  let directory := options.directory.getD host.freshDirectory
  openDirectory directory
  equip host toolchain program directory

theorem equip_run (host : Host) (toolchain : Toolchain) (program : Program) (directory : String)
    (session : Session State) :
    (equip host toolchain program directory).run session =
      match (writeProgram program (Placement.ofProgram program directory)).run session with
      | (.error failure, later) => (.error failure, later)
      | (.ok _, written) =>
        match (provideLibrary host toolchain program.packaging directory).run written with
        | (.error failure, later) => (.error failure, later)
        | (.ok _, provided) =>
          (plan host toolchain program directory provided.world.files, provided) := by
  rw [equip, run_bind]
  rcases (writeProgram program (Placement.ofProgram program directory)).run session with
    ⟨_ | _, written⟩
  · rfl
  simp only [run_bind]
  rcases (provideLibrary host toolchain program.packaging directory).run written with
    ⟨_ | _, provided⟩
  · rfl
  simp only [files_run]
  cases plan host toolchain program directory provided.world.files <;> rfl

theorem arrange_run (host : Host) (options : Options) (toolchain : Toolchain) (program : Program)
    (session : Session State) :
    let directory := options.directory.getD host.freshDirectory
    (arrange host options toolchain program).run session =
      match (openDirectory directory).run session with
      | (.error failure, later) => (.error failure, later)
      | (.ok _, opened) => (equip host toolchain program directory).run opened := by
  intro directory
  rw [arrange, run_bind]
  rcases (openDirectory directory).run session with ⟨_ | _, opened⟩ <;> rfl

/-- Everything before the first command. -/
def prepare (host : Host) (options : Options) (toolchain : Toolchain) (program : Program) :
    Step State (Placement × Option String) := do
  if options.checkDependencies then requirePrograms host (← files) toolchain
  arrange host options toolchain program

def judge (command : String) : Answer → Except Failure Unit
  | .error reason => .error (.compilation .failed command reason)
  | .ok output =>
    if output.success then .ok ()
    else .error (.compilation (compilerFault output.both) command output.both)

def compiledTraces (toolchain : Toolchain) (placement : Placement) (files : Files)
    (traces : Traces) : Traces :=
  if toolchain.language = .java then
    traces.addClassFiles files placement.directory placement.className
  else if !Path.same placement.binary placement.source then traces.add placement.binary
  else traces

/-- Everything from the first command on. -/
def proceed (shell : Shell State) (host : Host) (options : Options) (toolchain : Toolchain)
    (batch : List (List Double)) (placement : Placement) (compiler : Option String) :
    Step State (List (Option Prediction)) := do
  if let some command := compiler then
    let answer ← askShell shell command
    traceCompiled toolchain placement
    judge command answer
  let command ← placement.runCommand toolchain
  runRows shell host options command batch

theorem quiet_arrange (host : Host) (options : Options) (toolchain : Toolchain)
    (program : Program) : Quiet (arrange host options toolchain program : Step State _) := by
  refine .bind (quiet_openDirectory _) fun _ => .bind (quiet_writeProgram _ _) fun _ => ?_
  exact .bind (quiet_provideLibrary _ _ _ _) fun _ => .bind (fun _ => rfl) fun _ => quiet_lift _

theorem compile_eq {toolchain : Toolchain} {template : String}
    (compiled : toolchain.compile = some template) (shell : Shell State) (placement : Placement) :
    compile shell toolchain placement = (do
      let command ← placement.render template
      let answer ← askShell shell command
      traceCompiled toolchain placement
      judge command answer) := by
  simp only [compile, compiled]
  congr 1
  funext command
  congr 1
  funext answer
  congr 1
  funext _
  cases answer with
  | error reason => rfl
  | ok output => cases success : output.success <;> simp [judge, success] <;> rfl

theorem steps_eq (shell : Shell State) (host : Host) (options : Options) (toolchain : Toolchain)
    (program : Program) (batch : List (List Double)) :
    steps shell host options toolchain program batch = (do
      let (placement, compiler) ← arrange host options toolchain program
      proceed shell host options toolchain batch placement compiler) := by
  cases compiled : toolchain.compile with
  | none => simp [steps, arrange, equip, plan, compile, compiled, proceed]
  | some template => simp [steps, arrange, equip, plan, proceed, compiled, compile_eq compiled]

theorem prepare_run (host : Host) (options : Options) (toolchain : Toolchain) (program : Program)
    (session : Session State) :
    (prepare host options toolchain program).run session =
      match (if options.checkDependencies then requirePrograms host session.world.files toolchain
        else .ok ()) with
      | .ok _ => (arrange host options toolchain program).run session
      | .error failure => (.error failure, session) := by
  cases check : options.checkDependencies with
  | false => simp [prepare, check]
  | true =>
    have opened : (prepare host options toolchain program).run session =
        ((requirePrograms host session.world.files toolchain : Step State Unit) >>= fun _ =>
          arrange host options toolchain program).run session := by
      simp only [prepare, check]
      rfl
    rw [opened, run_bind]
    cases requirePrograms host session.world.files toolchain <;> rfl

theorem quiet_prepare (host : Host) (options : Options) (toolchain : Toolchain)
    (program : Program) : Quiet (prepare host options toolchain program : Step State _) := by
  intro session
  rw [prepare_run]
  split
  · exact quiet_arrange host options toolchain program session
  · rfl

theorem batch_eq (shell : Shell State) (host : Host) (options : Options) (toolchain : Toolchain)
    (program : Program) (rows : List (List Double)) (world : World State) :
    batch shell host options toolchain program rows world =
      let ended := match (prepare host options toolchain program).run ⟨world, {}⟩ with
        | (.ok (placement, compiler), session) =>
          (proceed shell host options toolchain rows placement compiler).run session
        | (.error failure, session) => (.error failure, session)
      (ended.1, (if options.cleanup then ended.2.cleanUp else ended.2).world) := by
  rw [batch, steps_eq, prepare_run]
  cases if options.checkDependencies then requirePrograms host world.files toolchain else .ok () with
  | ok _ =>
    rw [run_bind]
    rcases (arrange host options toolchain program).run ⟨world, {}⟩ with ⟨_ | _, _⟩ <;> rfl
  | error failure =>
    -- Nothing left a trace, so there is nothing to remove.
    have kept : (Session.cleanUp ⟨world, {}⟩).world = world := rfl
    cases cleanup : options.cleanup <;> simp [kept]

theorem writeProgram_of_bare {program : Program} {directory : String} {files : Files}
    {world : World State} (bare : program.data = none)
    (written : Program.writeFile world.files (Path.join directory program.sourceFile)
      program.source = .ok files) :
    ((writeProgram program (Placement.ofProgram program directory)).run ⟨world, {}⟩ :
      _ × Session State) =
      (.ok (), ⟨⟨files, world.shell⟩, Traces.add {} (Path.join directory program.sourceFile)⟩) := by
  have source : (Placement.ofProgram program directory).source =
      Path.join directory program.sourceFile := rfl
  rw [writeProgram, run_bind, writeTraced_run, source, written]
  simp only [bare]
  rfl

theorem provideLibrary_of_interpreted {toolchain : Toolchain} (interpreted : toolchain.compile = none)
    (host : Host) (packaging : Packaging) (directory : String) (session : Session State) :
    (provideLibrary host toolchain packaging directory).run session = (.ok (), session) := by
  have bare : neededLibrary? toolchain packaging = none := by
    simp [neededLibrary?, Toolchain.isCompiled, interpreted]
  rw [provideLibrary, bare]
  rfl

theorem plan_of_interpreted {toolchain : Toolchain} (interpreted : toolchain.compile = none)
    (host : Host) (program : Program) (directory : String) (files : Files) :
    plan host toolchain program directory files =
      .ok (Placement.ofProgram program directory, none) := by
  simp only [plan, classPath, Toolchain.isCompiled, interpreted, Option.isSome_none, Bool.not_false,
    if_true, ok_bind]
  rfl

theorem batch_eq_rows {shell : Shell State} {host : Host} {options : Options}
    {toolchain : Toolchain} {program : Program} {batch : List (List Double)} {world : World State}
    {directory command : String} {files : Files} (unchecked : options.checkDependencies = false)
    (given : options.directory = some directory) (existing : world.files.exists directory = true)
    (interpreted : toolchain.compile = none) (bare : program.data = none)
    (written : Program.writeFile world.files (Path.join directory program.sourceFile)
      program.source = .ok files)
    (rendered : (Placement.ofProgram program directory).runCommand toolchain = .ok command) :
    (Run.batch shell host options toolchain program batch world).1 =
      (allRows shell host options command batch ⟨files, world.shell⟩).1 := by
  have prepared : (prepare host options toolchain program).run ⟨world, {}⟩ =
      (.ok (Placement.ofProgram program directory, none), ⟨⟨files, world.shell⟩,
        Traces.add {} (Path.join directory program.sourceFile)⟩) := by
    rw [prepare_run, unchecked, if_neg Bool.false_ne_true]
    simp only
    rw [arrange_run, given, Option.getD_some, openDirectory_run, if_pos existing]
    simp only
    rw [equip_run, writeProgram_of_bare bare written]
    simp only
    rw [provideLibrary_of_interpreted interpreted]
    simp only
    rw [plan_of_interpreted interpreted]
  rw [batch_eq, prepared]
  simp only [proceed]
  rw [run_bind, rendered]
  rfl

/-! ## Courses -/

/-- The compiler succeeds, or nothing is compiled. -/
inductive Compiles (shell : Shell State) (toolchain : Toolchain) (placement : Placement)
    (start : Session State) : Option String → List Exchange → Session State → Prop where
  | nothing : Compiles shell toolchain placement start none [] start
  | done {command : String} {answer : Answer} {world : World State} :
      ask shell start.world command = (answer, world) → judge command answer = .ok () →
      Compiles shell toolchain placement start (some command) [(command, answer)]
        ⟨world, compiledTraces toolchain placement world.files start.traces⟩

/-- What follows from what was prepared: the exchanges, the session in which they end, and the
result. -/
inductive Course (shell : Shell State) (host : Host) (options : Options) (toolchain : Toolchain)
    (batch : List (List Double)) (start : Session State) :
    Except Failure (Placement × Option String) → List Exchange → Session State →
      Except Failure (List (Option Prediction)) → Prop where
  | unprepared {failure : Failure} :
      Course shell host options toolchain batch start (.error failure) [] start (.error failure)
  | uncompiled {placement : Placement} {command : String} {answer : Answer} {failure : Failure}
      {world : World State} :
      ask shell start.world command = (answer, world) → judge command answer = .error failure →
      Course shell host options toolchain batch start (.ok (placement, some command))
        [(command, answer)]
        ⟨world, compiledTraces toolchain placement world.files start.traces⟩ (.error failure)
  | unrendered {placement : Placement} {compiler : Option String} {compiled : List Exchange}
      {failure : Failure} {later : Session State} :
      Compiles shell toolchain placement start compiler compiled later →
      placement.runCommand toolchain = .error failure →
      Course shell host options toolchain batch start (.ok (placement, compiler)) compiled later
        (.error failure)
  | ran {placement : Placement} {compiler : Option String} {compiled : List Exchange}
      {command : String} {trials : List Trial} {heard : List Exchange} {later : Session State}
      {world : World State} {result : Except Failure (List (Option Prediction))} :
      Compiles shell toolchain placement start compiler compiled later →
      placement.runCommand toolchain = .ok command →
      Asks shell later.world heard world → Interleaves command trials heard →
      (InTurn host options batch → heard = trials.flatMap (Trial.exchanges command)) →
      Tried options command batch trials result →
      Course shell host options toolchain batch start (.ok (placement, compiler))
        (compiled ++ heard) ⟨world, later.traces⟩ result

section

variable {shell : Shell State} {host : Host} {options : Options} {toolchain : Toolchain}
  {batch : List (List Double)} {placement : Placement} {compiler : Option String}
  {start ended : Session State} {heard : List Exchange}

theorem Compiles.asks (compiles : Compiles shell toolchain placement start compiler heard ended) :
    Asks shell start.world heard ended.world := by
  cases compiles with
  | nothing => exact .nil _
  | @done command answer world asked _ =>
    have once := Asks.once shell start.world command
    rwa [asked] at once

theorem Course.asks {prepared : Except Failure (Placement × Option String)}
    {result : Except Failure (List (Option Prediction))}
    (course : Course shell host options toolchain batch start prepared heard ended result) :
    Asks shell start.world heard ended.world := by
  cases course with
  | unprepared => exact .nil _
  | @uncompiled _ command answer _ world asked _ =>
    have once := Asks.once shell start.world command
    rwa [asked] at once
  | unrendered compiles _ => exact compiles.asks
  | ran compiles _ asks _ _ _ => exact compiles.asks.append asks

end

theorem run_rows_course {shell : Shell State} {host : Host} {options : Options}
    {toolchain : Toolchain} {batch : List (List Double)} {placement : Placement} {compiler : Option String}
    {start later : Session State} {compiled : List Exchange}
    (compiles : Compiles shell toolchain placement start compiler compiled later) :
    let ended := (do
      let command ← placement.runCommand toolchain
      runRows shell host options command batch : Step State _).run later
    ∃ heard, Course shell host options toolchain batch start (.ok (placement, compiler)) heard
      ended.2 ended.1 := by
  rw [run_bind]
  cases rendered : placement.runCommand toolchain with
  | error failure => exact ⟨compiled, .unrendered compiles rendered⟩
  | ok command =>
    obtain ⟨trials, heard, asks, interleaves, inTurn, tried⟩ :=
      allRows_ask shell host options command batch later.world
    exact ⟨_, .ran compiles rendered asks interleaves inTurn tried⟩

theorem traceCompiled_run (toolchain : Toolchain) (placement : Placement)
    (session : Session State) :
    (traceCompiled toolchain placement).run session =
      (.ok (), { session with
        traces := compiledTraces toolchain placement session.world.files session.traces }) := by
  unfold traceCompiled compiledTraces
  by_cases java : toolchain.language = .java
  · simp only [java, if_true]
    rfl
  · simp only [java, if_false]
    cases Path.same placement.binary placement.source <;> rfl

theorem proceed_run (shell : Shell State) (host : Host) (options : Options) (toolchain : Toolchain)
    (batch : List (List Double)) (placement : Placement) (compiler : Option String)
    (start : Session State) :
    let ended := (proceed shell host options toolchain batch placement compiler).run start
    ∃ heard, Course shell host options toolchain batch start (.ok (placement, compiler)) heard
      ended.2 ended.1 := by
  cases compiler with
  | none => exact run_rows_course .nothing
  | some command =>
    obtain ⟨⟨answer, world⟩, asked⟩ :
      ∃ answered, ask shell start.world command = answered := ⟨_, rfl⟩
    have answered : (askShell shell command).run start = (.ok answer, { start with world }) := by
      change (Except.ok (ask shell start.world command).1,
        { start with world := (ask shell start.world command).2 }) = _
      rw [asked]
    simp only [proceed, run_bind (askShell shell command), answered]
    rw [run_bind, traceCompiled_run]
    cases judged : judge command answer with
    | error failure => exact ⟨_, .uncompiled asked judged⟩
    | ok _ => exact run_rows_course (.done asked judged)

theorem batch_course (shell : Shell State) (host : Host) (options : Options)
    (toolchain : Toolchain) (program : Program) (rows : List (List Double))
    (world : World State) :
    let prepared := (prepare host options toolchain program).run ⟨world, {}⟩
    let ran := batch shell host options toolchain program rows world
    ∃ heard ended, Course shell host options toolchain rows prepared.2 prepared.1 heard ended ran.1 ∧
      ran.2 = (if options.cleanup then ended.cleanUp else ended).world := by
  rw [batch_eq]
  rcases (prepare host options toolchain program).run ⟨world, {}⟩ with
    ⟨failure | ⟨placement, compiler⟩, session⟩
  · exact ⟨[], session, .unprepared, rfl⟩
  · obtain ⟨heard, course⟩ :=
      proceed_run shell host options toolchain rows placement compiler session
    exact ⟨heard, _, course, rfl⟩

/-- The shape of every run, whatever there is to download. When something fails before the first
command, the shell is asked nothing. Otherwise it is asked to compile, once, if there is something to
compile, and if that succeeds and the command for the rows can be rendered, each row as often as
`Trial.Within` says, whatever became of the other rows: in order with one worker, and mixed with
several. There are results, one for each row, exactly when all rows were answered, and else the failure
of the first row that failed. -/
theorem batch_takes_course (shell : Shell State) (host : Host) (options : Options)
    (toolchain : Toolchain) (program : Program) (rows : List (List Double))
    (world : World State) :
    let prepared := (prepare host options toolchain program).run ⟨world, {}⟩
    let ran := batch shell host options toolchain program rows world
    prepared.2.world.shell = world.shell ∧
    ∃ heard ended,
      Course shell host options toolchain rows prepared.2 prepared.1 heard ended ran.1 ∧
      Asks shell prepared.2.world heard ended.world ∧
      ran.2.shell = ended.world.shell ∧
      ∀ log : State → List String,
        (∀ state files command,
          log (shell.run state files command).2.1 = log state ++ [command]) →
        log ran.2.shell = log world.shell ++ heard.map Prod.fst := by
  intro prepared ran
  obtain ⟨heard, ended, course, cleaned⟩ :=
    batch_course shell host options toolchain program rows world
  have quiet : prepared.2.world.shell = world.shell := quiet_prepare host options toolchain program _
  have shellKept : ran.2.shell = ended.world.shell := by
    rw [cleaned]
    cases options.cleanup <;> rfl
  refine ⟨quiet, heard, ended, course, course.asks, shellKept, fun log keeps => ?_⟩
  rw [shellKept, course.asks.logged keeps, quiet]

/-- A directory of the user, which is the current one. -/
def workshop : Files := .withDirectories ["w"] [["w"]]

end Modelsmith.Run
