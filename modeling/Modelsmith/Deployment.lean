import Modelsmith.Program.Generation
import Modelsmith.Run.Basic

/-! A model with the target it is compiled for: generated, run and scored. -/

set_option autoImplicit false

namespace Modelsmith

structure Deployment where
  model : Model
  language : Language
  packaging : Packaging
  method : Method := .predict
  className : String
  converter : Converter := Converter.shortest
  config : Config := {}

namespace Deployment

/-- Aims a model at the default target of its kind, under the name of the kind. -/
def ofModel (model : Model) : Deployment :=
  let (language, packaging) := Capability.defaultTarget model.kind
  { model, language, packaging, className := model.kind.name }

def create (model : Model) : Except Failure Deployment := do
  model.check
  return ofModel model

def toolchain (deployment : Deployment) : Toolchain :=
  deployment.config.toolchain deployment.language

def target (deployment : Deployment) : Target where
  language := deployment.language
  packaging := deployment.packaging
  method := deployment.method
  className := deployment.className
  extension := deployment.toolchain.extension
  converter := deployment.converter

def program (deployment : Deployment) : Except Failure Program :=
  generate deployment.model deployment.target

def save (deployment : Deployment) (directory : String) (files : Files) :
    Except Failure (List String) × Files :=
  match deployment.program with
  | .ok program => program.save directory files
  | .error failure => (.error failure, files)

def checkRow (width : Nat) (index : Nat) (row : List Double) : Except Failure Unit :=
  if row.length ≠ width then .error (.input (.rowWidth index row.length width))
  else
    match row.zipIdx.find? fun (value, _) => !value.isFinite with
    | some (value, feature) => .error (.input (.rowValue index feature value))
    | none => .ok ()

def checkRowsFrom (width : Nat) : (index : Nat) → List (List Double) → Except Failure Unit
  | _, [] => .ok ()
  | index, row :: rest =>
    match checkRow width index row with
    | .error failure => .error failure
    | .ok _ => checkRowsFrom width (index + 1) rest

def checkRows (deployment : Deployment) (rows : List (List Double)) : Except Failure Unit :=
  checkRowsFrom deployment.model.featureCount 0 rows

section Runs

variable {State : Type}

def predict (deployment : Deployment) (shell : Shell State) (host : Host) (options : Options)
    (rows : List (List Double)) (world : World State) :
    Except Failure (List (Option Prediction)) × World State :=
  match (do deployment.checkRows rows; deployment.program : Except Failure Program) with
  | .error failure => (.error failure, world)
  | .ok program =>
    if rows.isEmpty then (.ok [], world)
    else Run.batch shell host options deployment.toolchain program rows world

def ownLabels (deployment : Deployment) (rows : List (List Double)) :
    Except Failure (List Double) := do
  deployment.checkRows rows
  match rows.mapM deployment.model.predict with
  | .ok labels => return labels
  | .error fault => throw (.evaluation fault)

/-- The labels to score against: those given, or the model's own. -/
def labels (deployment : Deployment) (rows : List (List Double)) (expected : Option (List Double)) :
    Except Failure (List Double) := do
  if !deployment.model.kind.isClassifier then throw (.unscorable deployment.model.kind)
  let labels ← match expected with
    | some labels => pure labels
    | none => deployment.ownLabels rows
  if labels.length ≠ rows.length then throw (.input (.labelCount rows.length labels.length))
  return labels

def score (deployment : Deployment) (shell : Shell State) (host : Host) (options : Options)
    (rows : List (List Double)) (expected : Option (List Double)) (normalize : Bool)
    (world : World State) : Except Failure Double × World State :=
  match deployment.labels rows expected with
  | .error failure => (.error failure, world)
  | .ok labels =>
    match deployment.predict shell host options rows world with
    | (.error failure, world) => (.error failure, world)
    | (.ok predictions, world) => (Score.accuracy predictions labels normalize, world)

end Runs

end Deployment

end Modelsmith
