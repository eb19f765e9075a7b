import Modelsmith.Model.Kind
import Modelsmith.Tree.Validation
import Modelsmith.Tree.Evaluation
import Modelsmith.Network.Evaluation

/-! Fitted models: a tree or a network. -/

set_option autoImplicit false

namespace Modelsmith

inductive Model where
  | ofTree (tree : Tree)
  | ofNetwork (network : Network)
  deriving DecidableEq

namespace Model

def kind : Model → ModelKind
  | .ofTree _ => .treeClassifier
  | .ofNetwork network => if network.isClassifier then .networkClassifier else .networkRegressor

def validate : Model → Except ModelFault Unit
  | .ofTree tree => tree.validate
  | .ofNetwork network => network.validate

def featureCount : Model → Nat
  | .ofTree tree => tree.featureCount
  | .ofNetwork network => network.inputCount

def predict (row : List Double) : Model → Except EvaluationFault Double
  | .ofTree tree => (tree.predict row).map Double.ofNat
  | .ofNetwork network => network.predict row

/-- Class probabilities; a regressor has none. -/
def probabilities (row : List Double) : Model → Except EvaluationFault (Option (List Double))
  | .ofTree tree => (tree.probabilities row).map some
  | .ofNetwork network =>
    if network.isClassifier then (network.probabilities row).map some else .ok none

end Model

end Modelsmith
