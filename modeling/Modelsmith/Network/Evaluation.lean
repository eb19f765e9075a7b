import Modelsmith.Network.Basic
import Modelsmith.Double.Machine

/-! The forward pass of a network, over a given arithmetic. -/

set_option autoImplicit false

namespace Modelsmith

structure Arithmetic where
  add : Double → Double → Double
  mul : Double → Double → Double
  activate : Activation → List Double → List Double

namespace Activation

/-- Larger than zero or zero; what is no number counts as zero. -/
def rectify (value : Double) : Double := if Double.zero.lt value then value else Double.zero

def squash (value : Double) : Double := Double.one.div (Double.one.add value.neg.exp)

/-- Exponentials of the distances to the largest value, as shares of their sum. -/
def share (values : List Double) : List Double :=
  let largest := values.foldl Double.max (Double.infinity true)
  let powers := values.map fun value => (value.sub largest).exp
  let sum := powers.foldl Double.add Double.zero
  powers.map fun power => power.div sum

def apply : Activation → List Double → List Double
  | .identity, values => values
  | .logistic, values => values.map squash
  | .tanh, values => values.map Double.tanh
  | .relu, values => values.map rectify
  | .softmax, values => share values

end Activation

def Arithmetic.machine : Arithmetic := ⟨Double.add, Double.mul, Activation.apply⟩

namespace Network

/-- Adds to each unit an input times the weight that joins the two. There may be more weights than
units, but not fewer. -/
def addInput (arithmetic : Arithmetic) (input : Double) :
    (units row : List Double) → Except EvaluationFault (List Double)
  | [], _ => .ok []
  | unit :: units, weight :: row => do
    let rest ← addInput arithmetic input units row
    return arithmetic.add unit (arithmetic.mul input weight) :: rest
  | _ :: _, [] => .error .outOfRange

/-- Adds the inputs to the units, one after the other. A row of inputs may stop early, but may not
go past the weights. -/
def accumulate (arithmetic : Arithmetic) :
    (units inputs : List Double) → (weights : List (List Double)) →
      Except EvaluationFault (List Double)
  | units, [], _ => .ok units
  | units, input :: inputs, row :: weights => do
    accumulate arithmetic (← addInput arithmetic input units row) inputs weights
  | _, _ :: _, [] => .error .outOfRange

def forwardLayers (arithmetic : Arithmetic) (hidden last : Activation) :
    List (List (List Double)) → List (List Double) → List Double →
      Except EvaluationFault (List Double)
  | weights :: allWeights, biases :: allBiases, values => do
    let sums ← accumulate arithmetic biases values weights
    let activation := if allWeights.isEmpty then last else hidden
    forwardLayers arithmetic hidden last allWeights allBiases (arithmetic.activate activation sums)
  | _, _, values => .ok values

def forwardWith (arithmetic : Arithmetic) (network : Network) (row : List Double) :
    Except EvaluationFault (List Double) :=
  forwardLayers arithmetic network.hidden (network.output.getD .identity) network.weights
    network.biases row

def forward (network : Network) (row : List Double) : Except EvaluationFault (List Double) :=
  network.forwardWith .machine row

/-- One output is the probability of the second of two classes. -/
def outputShares : List Double → List Double
  | [only] => [Double.one.sub only, only]
  | outputs => outputs

def probabilities (network : Network) (row : List Double) :
    Except EvaluationFault (List Double) :=
  (network.forward row).map outputShares

/-- The first most probable class, or the first output of a regressor. -/
def predict (network : Network) (row : List Double) : Except EvaluationFault Double :=
  if network.isClassifier then
    (network.probabilities row).map fun shares =>
      Double.ofNat (firstLargest (fun share best => best.lt share) shares)
  else
    (network.forward row).bind fun
      | [] => .error .outOfRange
      | first :: _ => .ok first

end Network

end Modelsmith
