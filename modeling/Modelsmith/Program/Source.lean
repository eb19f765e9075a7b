import Modelsmith.Dialect
import Modelsmith.Model.Basic
import Modelsmith.Program.Basic
import Modelsmith.Program.Branches

/-! The source text of a program. -/

set_option autoImplicit false

namespace Modelsmith.Source

open Literal

def treeDeclarations (dialect : Dialect) (converter : Converter) (tree : Tree) :
    Except RenderFault Template.Bindings := do
  let size := tree.size
  return [
    ("lefts", ← declare dialect .int "lefts" (← ints dialect tree.lefts) (.vector size)),
    ("rights", ← declare dialect .int "rights" (← ints dialect tree.rights) (.vector size)),
    ("thresholds", ← declare dialect .double "thresholds"
      (← doubles dialect converter tree.thresholds) (.vector size)),
    ("indices", ← declare dialect .int "indices" (← ints dialect tree.indices) (.vector size)),
    ("classes", ← declare dialect .int "classes" (← nested dialect (nats dialect) tree.classes)
      (.matrix size tree.classCount))]

def treeSkeleton : Packaging → String
  | .attached => "tree.attached"
  | .combined => "tree.combined"
  | .exported => "tree.exported"

def ofTree (dialect : Dialect) (target : Target) (tree : Tree) : Except RenderFault String := do
  let methods ← dialect.render "tree.methods" [("class_name", target.className)]
  let output ← dialect.text target.method.outputTemplate
  let declarations ←
    if target.packaging = .exported then pure []
    else treeDeclarations dialect target.converter tree
  let branches ←
    if target.packaging = .combined then Branches.text dialect target.converter tree else pure ""
  dialect.render (treeSkeleton target.packaging) <|
    [("class_name", target.className),
      ("n_features", intText tree.featureCount),
      ("n_classes", intText tree.classCount),
      ("methods", methods),
      ("output", output),
      ("tree", branches)] ++ declarations

/-- The arrays of a network, each under the name of its slot. Weights and biases are ragged, so
only their rank is declared. -/
def networkDeclarations (dialect : Dialect) (converter : Converter) (network : Network) :
    Except RenderFault Template.Bindings := do
  let row := doubles dialect converter
  return [
    ("layers", ← declare dialect .int "layers" (← nats dialect network.layers)
      (.vector network.layers.length)),
    ("weights", ← declare dialect .double "weights"
      (← nested dialect (nested dialect row) network.weights) .cube),
    ("bias", ← declare dialect .double "bias" (← nested dialect row network.biases)
      (.matrix network.layers.length 0))]

def networkSkeleton : Packaging → String
  | .attached => "mlp.attached"
  | .combined => "mlp.combined"
  | .exported => "mlp.exported"

def ofNetwork (dialect : Dialect) (target : Target) (network : Network) :
    Except RenderFault String := do
  let hidden ← dialect.text ("activation.hidden." ++ network.hidden.key)
  let output ← dialect.text ("activation.output." ++ (network.output.getD .identity).key)
  let methods ← dialect.text (if network.isClassifier then "mlp.classifier" else "mlp.regressor")
  let body ← dialect.render "mlp.class"
    [("class_name", target.className),
      ("hidden_activation", hidden),
      ("output_activation", output),
      ("methods", methods)]
  let printed ← dialect.text target.method.outputTemplate
  let declarations ←
    if target.packaging = .attached then networkDeclarations dialect target.converter network
    else pure []
  dialect.render (networkSkeleton target.packaging) <|
    [("class_name", target.className),
      ("class", body),
      ("n_features", intText network.inputCount),
      ("output", printed)] ++ declarations

def ofModel (target : Target) : Model → Except RenderFault String
  | .ofTree tree => ofTree target.language.dialect target tree
  | .ofNetwork network => ofNetwork target.language.dialect target network

end Modelsmith.Source
