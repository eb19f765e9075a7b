import Modelsmith.Double.Basic
import Modelsmith.Model.Fault

/-! Fully connected feed-forward networks and the shape they must have. -/

set_option autoImplicit false

namespace Modelsmith

inductive Activation where
  | identity
  | logistic
  | tanh
  | relu
  | softmax
  deriving DecidableEq

namespace Activation

def all : List Activation := [.identity, .logistic, .tanh, .relu, .softmax]

def key : Activation → String
  | .identity => "identity"
  | .logistic => "logistic"
  | .tanh => "tanh"
  | .relu => "relu"
  | .softmax => "softmax"

def ofKey? (key : String) : Option Activation := all.find? fun activation => activation.key = key

def allowedHidden (activation : Activation) : Bool := activation ≠ .softmax

def allowedOutput : Activation → Bool
  | .identity | .logistic | .softmax => true
  | .tanh | .relu => false

end Activation

structure Network where
  layers : List Nat
  /-- For each layer, a row of weights per input. -/
  weights : List (List (List Double))
  biases : List (List Double)
  hidden : Activation
  /-- Present for classifiers only. -/
  output : Option Activation
  deriving DecidableEq

namespace Network

def isClassifier (network : Network) : Bool := network.output.isSome

def inputCount (network : Network) : Nat := (network.weights.head?.getD []).length

def outputCount (network : Network) : Nat := network.layers.getLast?.getD 0

/-- A single output unit tells two classes apart. -/
def classCount (network : Network) : Nat :=
  if network.outputCount = 1 then 2 else network.outputCount

def checkLayer (layer inputs units : Nat) (weights : List (List Double)) (biases : List Double) :
    Except ModelFault Unit := do
  require (units ≠ 0) (.emptyLayer layer)
  require (weights.length = inputs) (.weightRows layer weights.length inputs)
  match firstFailing (fun row => row.length = units) weights with
  | some (row, found) => throw (.weightColumns layer row found.length units)
  | none => pure ()
  require (biases.length = units) (.biasCount layer biases.length units)

def checkLayers : (layer inputs : Nat) → List Nat → List (List (List Double)) →
    List (List Double) → Except ModelFault Unit
  | layer, inputs, units :: layers, weights :: allWeights, biases :: allBiases => do
    checkLayer layer inputs units weights biases
    checkLayers (layer + 1) units layers allWeights allBiases
  | _, _, _, _, _ => .ok ()

def validate (network : Network) : Except ModelFault Unit := do
  require (!network.layers.isEmpty) (.missing "layers")
  require (!network.weights.isEmpty) (.missing "weights")
  require (!network.biases.isEmpty) (.missing "biases")
  let count := network.layers.length
  require (network.weights.length = count && network.biases.length = count)
    (.layerCounts count network.weights.length network.biases.length)
  require (network.inputCount ≠ 0) .noInputs
  checkLayers 0 network.inputCount network.layers network.weights network.biases
  require network.hidden.allowedHidden (.hiddenActivation network.hidden.key)
  match network.output with
  | some output => require output.allowedOutput (.outputActivation output.key)
  | none => return ()

end Network

end Modelsmith
