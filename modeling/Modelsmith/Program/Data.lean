import Modelsmith.Program.Literal
import Modelsmith.Model.Basic
import Modelsmith.Json.Writer
import Modelsmith.Failure

/-! The data document beside an exported program. -/

set_option autoImplicit false

namespace Modelsmith.DataDocument

/-- A converted number, when its text is exactly one number in the range of a double. -/
def number (converter : Converter) (value : Double) : Except Failure Json :=
  match converter value with
  | .error fault => .error (.rendering fault)
  | .ok text =>
    let inRange numeral := (Numeral.Reading.leading numeral).isSome
    match (Numeral.ofText? text.toList).filter inRange with
    | some numeral => .ok (.number numeral)
    | none => .error (.invalidNumber value text)

def array {α : Type} (item : α → Except Failure Json) (items : List α) : Except Failure Json :=
  (items.mapM item).map Json.array

def ofTree (converter : Converter) (tree : Tree) : Except Failure Json := do
  let thresholds ← array (number converter) tree.thresholds
  return .object [
    ("lefts", .ofList .ofInt tree.lefts),
    ("rights", .ofList .ofInt tree.rights),
    ("thresholds", thresholds),
    ("indices", .ofList .ofInt tree.indices),
    ("classes", .ofList (.ofList .ofNat) tree.classes)]

def ofNetwork (converter : Converter) (network : Network) : Except Failure Json := do
  let weights ← array (array (array (number converter))) network.weights
  let biases ← array (array (number converter)) network.biases
  return .object [
    ("layers", .ofList .ofNat network.layers),
    ("weights", weights),
    ("bias", biases)]

def ofModel (converter : Converter) : Model → Except Failure Json
  | .ofTree tree => ofTree converter tree
  | .ofNetwork network => ofNetwork converter network

end Modelsmith.DataDocument
