import Modelsmith.Run.Host
import Modelsmith.Run.Placement
import Modelsmith.Run.Rows
import Modelsmith.Run.Traces

/-! A program run on a batch of rows: written into a working directory, compiled once, run row by
row, and cleaned up. -/

set_option autoImplicit false

namespace Modelsmith

namespace Run

variable {State : Type}

structure Session (State : Type) where
  world : World State
  traces : Traces := {}

def Session.cleanUp (session : Session State) : Session State where
  world := { session.world with files := session.traces.sweep session.world.files }

/-- A step of a run; what was done before a failure stays done. -/
abbrev Step (State : Type) := ExceptT Failure (StateM (Session State))

def setFiles (files : Files) : Step State Unit :=
  modify fun session => { session with world := { session.world with files } }

def trace (update : Traces → Traces) : Step State Unit :=
  modify fun session => { session with traces := update session.traces }

def files : Step State Files := do return (← get).world.files

/-- Writes a file; it leaves a trace even when writing fails. -/
def writeTraced (path content : String) : Step State Unit := do
  trace (·.add path)
  setFiles (← Program.writeFile (← files) path content)

def requirePrograms (host : Host) (files : Files) (toolchain : Toolchain) :
    Except Failure Unit :=
  match toolchain.dependencies.find? fun binary => !host.canStart files binary with
  | some binary => .error (.missingDependency toolchain.language binary)
  | none => .ok ()

def openDirectory (directory : String) : Step State Unit := do
  if !(← files).exists directory then
    let (created, files) := Program.createDirectory (← files) directory
    setFiles files
    created
    trace (·.addDirectory directory)

def writeProgram (program : Program) (placement : Placement) : Step State Unit := do
  writeTraced placement.source program.source
  match program.data, placement.data with
  | some data, some path => writeTraced path data
  | _, _ => return ()

def setting? (host : Host) (name : String) : Option String :=
  (host.environment.lookup name).filter (· ≠ "")

def libraryAddress (host : Host) (library : Library) : String :=
  (setting? host library.urlVariable).getD library.url

/-- The copy of a library: the one that the environment names, or the one in the working
directory. -/
def locateLibrary (host : Host) (library : Library) (files : Files) (directory : String) :
    Except Failure String :=
  match setting? host library.pathVariable with
  | some path => .ok path
  | none =>
    let path := Path.join directory library.fileName
    if files.exists path then .ok path else .error (.download (libraryAddress host library))

/-- Downloads a library of which there is no copy. It leaves a trace only once it is written. -/
def fetchLibrary (host : Host) (library : Library) (directory : String) : Step State Unit := do
  if (locateLibrary host library (← files) directory).isOk then return ()
  let some content := host.download (libraryAddress host library)
    | throw (.download (libraryAddress host library))
  let path := Path.join directory library.fileName
  match (← files).write path content with
  | .ok files =>
    setFiles files
    trace (·.add path)
  | .error fault => throw (.file .write path fault)

def neededLibrary? (toolchain : Toolchain) (packaging : Packaging) : Option Library :=
  if toolchain.isCompiled && packaging = .exported then toolchain.library else none

def provideLibrary (host : Host) (toolchain : Toolchain) (packaging : Packaging)
    (directory : String) : Step State Unit :=
  match neededLibrary? toolchain packaging with
  | some library => fetchLibrary host library directory
  | none => return ()

def classPath (host : Host) (toolchain : Toolchain) (packaging : Packaging) (files : Files)
    (directory : String) : Except Failure (List String) :=
  if !toolchain.isCompiled then .ok []
  else
    match neededLibrary? toolchain packaging with
    | some library =>
      (locateLibrary host library files directory).map fun path => [directory, path]
    | none => .ok [directory]

def compilerFault (output : String) : CompilerFault :=
  if Text.contains output.toList "code too large" then .codeTooLarge
  else if Text.contains output.toList "too many constants" then .tooManyConstants
  else .failed

def traceCompiled (toolchain : Toolchain) (placement : Placement) : Step State Unit := do
  let files ← files
  if toolchain.language = .java then
    trace (·.addClassFiles files placement.directory placement.className)
  else if !Path.same placement.binary placement.source then trace (·.add placement.binary)

def askShell (shell : Shell State) (command : String) : Step State Answer := do
  let session ← get
  let (answer, world) := ask shell session.world command
  set { session with world }
  return answer

def compile (shell : Shell State) (toolchain : Toolchain) (placement : Placement) :
    Step State Unit := do
  let some template := toolchain.compile | return ()
  let command ← placement.render template
  let answer ← askShell shell command
  traceCompiled toolchain placement
  match answer with
  | .error reason => throw (.compilation .failed command reason)
  | .ok output =>
    if output.success then return ()
    else throw (.compilation (compilerFault output.both) command output.both)

/-- Whether all files are there. Nothing else writes them, so looking again changes nothing. -/
def allExist (files : Files) (paths : List String) : Bool := paths.all files.exists

/-- The rows in turn, or by a pool where there are several workers and one can be started. -/
def allRows (shell : Shell State) (host : Host) (options : Options) (command : String)
    (batch : List (List Double)) (world : World State) :
    Except Failure (List (Option Prediction)) × World State :=
  let workers := workerCount options host.processors batch.length
  match host.turns with
  | none => rows shell options command batch world
  | some turns =>
    if workers ≤ 1 then rows shell options command batch world
    else pooledRows shell options command turns workers batch world

def runRows (shell : Shell State) (host : Host) (options : Options) (command : String)
    (batch : List (List Double)) : Step State (List (Option Prediction)) := do
  let session ← get
  let (result, world) := allRows shell host options command batch session.world
  set { session with world }
  result

def steps (shell : Shell State) (host : Host) (options : Options) (toolchain : Toolchain)
    (program : Program) (batch : List (List Double)) :
    Step State (List (Option Prediction)) := do
  let directory := options.directory.getD host.freshDirectory
  openDirectory directory
  let placement := Placement.ofProgram program directory
  writeProgram program placement
  provideLibrary host toolchain program.packaging directory
  let classPath ← classPath host toolchain program.packaging (← files) directory
  let placement := { placement with classPath }
  compile shell toolchain placement
  let command ← placement.runCommand toolchain
  runRows shell host options command batch

/-- Runs a program on every row. Result `i` belongs to row `i`, and is absent when the program
printed no prediction. -/
def batch (shell : Shell State) (host : Host) (options : Options) (toolchain : Toolchain)
    (program : Program) (rows : List (List Double)) (world : World State) :
    Except Failure (List (Option Prediction)) × World State :=
  let ready :=
    if options.checkDependencies then requirePrograms host world.files toolchain else .ok ()
  match ready with
  | .error failure => (.error failure, world)
  | .ok _ =>
    let (result, session) := (steps shell host options toolchain program rows).run ⟨world, {}⟩
    (result, (if options.cleanup then session.cleanUp else session).world)

end Run

end Modelsmith
