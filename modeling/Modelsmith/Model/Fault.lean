/-! What can be wrong with the arrays of a fitted model. -/

set_option autoImplicit false

namespace Modelsmith

inductive ModelFault where
  | missing (field : String)
  /-- A tree array whose length differs from that of `lefts`. -/
  | entryCount (field : String) (found expected : Nat)
  | emptyClassRows
  | classRowLength (row found expected : Nat)
  | reachedTwice (node : Nat)
  | negativeFeature (node : Nat) (feature : Int)
  | featureTooLarge (node : Nat) (feature : Int) (width : Nat)
  | missingChild (node : Nat) (child : Int)
  | layerCounts (layers weights biases : Nat)
  | noInputs
  | emptyLayer (layer : Nat)
  | weightRows (layer found expected : Nat)
  | weightColumns (layer row found expected : Nat)
  | biasCount (layer found expected : Nat)
  | hiddenActivation (key : String)
  | outputActivation (key : String)
  deriving DecidableEq

/-- The reason as a sentence; for a missing array, its name. -/
def ModelFault.reason : ModelFault → String
  | .missing field => field
  | .entryCount field found expected => s!"`{field}` has {found} entries, `lefts` has {expected}"
  | .emptyClassRows => "class count rows are empty"
  | .classRowLength row found expected =>
    s!"class count row {row} has {found} entries, expected {expected}"
  | .reachedTwice node => s!"node {node} is reachable twice"
  | .negativeFeature node feature => s!"split node {node} has feature index {feature}"
  | .featureTooLarge node feature width =>
    s!"split node {node} uses feature {feature} but the model has {width} features"
  | .missingChild node child => s!"node {node} points to missing child {child}"
  | .layerCounts layers weights biases =>
    s!"{layers} layer sizes, {weights} weight matrices and {biases} bias vectors"
  | .noInputs => "the first weight matrix has no rows"
  | .emptyLayer layer => s!"layer {layer} has no units"
  | .weightRows layer found expected =>
    s!"layer {layer} weights have {found} rows, expected {expected}"
  | .weightColumns layer row found expected =>
    s!"layer {layer} weight row {row} has {found} columns, expected {expected}"
  | .biasCount layer found expected => s!"layer {layer} has {found} biases, expected {expected}"
  | .hiddenActivation key => s!"`{key}` is not a hidden activation"
  | .outputActivation key => s!"`{key}` is not an output activation"

def require (condition : Bool) (fault : ModelFault) : Except ModelFault Unit :=
  if condition then .ok () else .error fault

inductive EvaluationFault where
  /-- The row has no value for a feature that is asked for, or a value that nothing takes. -/
  | outOfRange
  /-- The walk does not end; accepted trees have no such walk. -/
  | endless
  /-- A sum that does not fit into a word of 64 bits. -/
  | overflow
  deriving DecidableEq

/-- The first position of a largest value, `above` telling which of two is strictly larger. -/
def firstLargest {α : Type} (above : α → α → Bool) : List α → Nat
  | [] => 0
  | first :: rest => go first 0 1 rest
where
  go (best : α) (bestIndex next : Nat) : List α → Nat
    | [] => bestIndex
    | value :: rest =>
      if above value best then go value next (next + 1) rest else go best bestIndex (next + 1) rest

def firstFailing {α : Type} (test : α → Bool) (items : List α) : Option (Nat × α) :=
  (items.zipIdx.find? fun (item, _) => !test item).map fun (item, index) => (index, item)

end Modelsmith
