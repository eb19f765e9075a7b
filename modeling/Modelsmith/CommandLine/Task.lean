import Modelsmith.CommandLine.Request
import Modelsmith.Deployment

/-! Requests of the command line, carried out with any shell. -/

set_option autoImplicit false

namespace Modelsmith.CommandLine

inductive Refusal where
  | failed (failure : Failure)
  | malformedFile (path : String)
  | noWorkers

def Refusal.message : Refusal → String
  | .failed failure => failure.message
  | .malformedFile path => "cannot parse '" ++ path ++ "': not numbers in the right shape"
  | .noWorkers => "--workers must be at least 1"

structure Answer where
  stdout : String
  result : Except Refusal Unit
  files : Files

def refuse {α : Type} (result : Except Failure α) : Except Refusal α :=
  match result with
  | .ok value => .ok value
  | .error failure => .error (.failed failure)

def loadConfig (files : Files) (path : Option String) : Except Refusal Config :=
  refuse <| match path with
    | some path => Config.load files path
    | none => Config.discover files ("/" ++ "/".intercalate files.current)

def loadDeployment (files : Files) (path : String) (choices : Choices) (config : Config) :
    Except Refusal Deployment := do
  let deployment ← refuse (Deployment.create (← refuse (Model.load files path)))
  return { deployment with
    language := choices.language.getD deployment.language
    packaging := choices.packaging.getD deployment.packaging
    method := choices.method.getD deployment.method
    className := choices.className.getD deployment.className
    converter := (choices.precision.map Converter.fixed).getD deployment.converter
    config }

def loadNumbers {α : Type} (decode : Json → Option α) (files : Files) (path : String) :
    Except Refusal α :=
  match files.readText path with
  | .error fault => .error (.failed (.file .read path fault))
  | .ok text =>
    match (Json.read? text.toList).bind decode with
    | some numbers => .ok numbers
    | none => .error (.malformedFile path)

def loadRows : Files → String → Except Refusal (List (List Double)) :=
  loadNumbers (Json.list? (Json.list? (Json.double? .leading)))

def loadLabels : Files → String → Except Refusal (List Double) :=
  loadNumbers (Json.list? (Json.double? .leading))

def legend : String := "✓ supported, ᴀ attached, ᴄ combined, ᴇ exported, ᴾ with predict_proba"

def lines (texts : List String) : String := String.join (texts.map (· ++ "\n"))

def predictionLine : Option Prediction → String
  | some prediction => String.ofList prediction.text
  | none => "null"

def adjust (options : Options) (workers : Option Nat) (keepFiles : Bool) :
    Except Refusal Options :=
  if workers = some 0 then .error .noWorkers
  else .ok { options with
    workers := workers.or options.workers
    cleanup := options.cleanup && !keepFiles }

def generateTask (files : Files) (config : Option String) (model : String) (choices : Choices)
    (output : String) : Answer :=
  match (do loadDeployment files model choices (← loadConfig files config) :
      Except Refusal Deployment) with
  | .error refusal => ⟨"", .error refusal, files⟩
  | .ok deployment =>
    match deployment.save output files with
    | (.ok written, files) => ⟨lines written, .ok (), files⟩
    | (.error failure, files) => ⟨"", .error (.failed failure), files⟩

def loadBatch (files : Files) (config : Option String) (model rows : String) (choices : Choices)
    (workers : Option Nat) (keepFiles : Bool) :
    Except Refusal (Deployment × List (List Double)) := do
  let config ← loadConfig files config
  let options ← adjust config.options workers keepFiles
  let deployment ← loadDeployment files model choices { config with options }
  return (deployment, ← loadRows files rows)

section Runs

variable {State : Type}

/-- Predictions are printed a line each. `shells` tells which shell a name stands for. -/
def predictTask (shells : String → Shell State) (host : Host) (world : World State)
    (config : Option String) (model rows : String) (choices : Choices) (workers : Option Nat)
    (keepFiles : Bool) : Answer :=
  match loadBatch world.files config model rows choices workers keepFiles with
  | .error refusal => ⟨"", .error refusal, world.files⟩
  | .ok (deployment, rows) =>
    let options := deployment.config.options
    match deployment.predict (shells options.shell) host options rows world with
    | (.ok predictions, world) => ⟨lines (predictions.map predictionLine), .ok (), world.files⟩
    | (.error failure, world) => ⟨"", .error (.failed failure), world.files⟩

def scoreTask (shells : String → Shell State) (host : Host) (world : World State)
    (config : Option String) (model rows : String) (choices : Choices) (expected : Option String)
    (raw : Bool) : Answer :=
  let files := world.files
  let prepared : Except Refusal (Deployment × List (List Double) × Option (List Double)) := do
    let deployment ← loadDeployment files model choices (← loadConfig files config)
    let rows ← loadRows files rows
    let labels ← expected.mapM (loadLabels files)
    return (deployment, rows, labels)
  match prepared with
  | .error refusal => ⟨"", .error refusal, files⟩
  | .ok (deployment, rows, labels) =>
    let options := deployment.config.options
    match deployment.score (shells options.shell) host options rows labels (!raw) world with
    | (.ok score, world) =>
      ⟨lines [String.ofList (Double.Layout.positional.render score)], .ok (), world.files⟩
    | (.error failure, world) => ⟨"", .error (.failed failure), world.files⟩

def Request.carryOutBy (request : Request) (shells : String → Shell State) (host : Host)
    (world : World State) : Answer :=
  match request.task with
  | .report language => ⟨lines [Capability.report language, "", legend], .ok (), world.files⟩
  | .generate model choices output => generateTask world.files request.config model choices output
  | .predict model rows choices workers keepFiles =>
    predictTask shells host world request.config model rows choices workers keepFiles
  | .score model rows choices expected raw =>
    scoreTask shells host world request.config model rows choices expected raw

end Runs

end Modelsmith.CommandLine
