import Modelsmith.Model.Basic
import Modelsmith.Json.Reader
import Modelsmith.Json.Writer

/-! Models as JSON documents.

A document is an object whose member `type` names the form of the model, in any position, or an
array that starts with that name and goes on with the fields in their order. Members with other
names are passed over; a member that counts may not be repeated.
-/

set_option autoImplicit false

namespace Modelsmith.Model

/-- The value of the one member with one of these names; none without such a member. Two of them
are refused. -/
def member? (names : List String) (members : List (String × Json)) : Option (Option Json) :=
  match members.filter fun (key, _) => names.contains key with
  | [] => some none
  | [(_, value)] => some (some value)
  | _ => none

def field? {α : Type} (decode : Json → Option α) (default : α) : Option Json → Option α
  | none => some default
  | some value => decode value

/-- An activation is named by a string, or by an object with that one name and nothing in it. -/
def activation? : Json → Option Activation
  | .string key => Activation.ofKey? key
  | .object [(key, .null)] => Activation.ofKey? key
  | .object [(key, .object [])] => Activation.ofKey? key
  | _ => none

def treeOfFields? (reading : Numeral.Reading)
    (lefts rights thresholds indices classes width : Option Json) : Option Tree := do
  return {
    lefts := ← field? (Json.list? Json.signed?) [] lefts
    rights := ← field? (Json.list? Json.signed?) [] rights
    thresholds := ← field? (Json.list? (Json.double? reading)) [] thresholds
    indices := ← field? (Json.list? Json.signed?) [] indices
    classes := ← field? (Json.list? (Json.list? Json.unsigned?)) [] classes
    width := ← field? (Json.optional? Json.unsigned?) none width }

def networkOfFields? (reading : Numeral.Reading)
    (layers weights biases hidden output : Option Json) : Option Network := do
  return {
    layers := ← field? (Json.list? Json.unsigned?) [] layers
    weights := ← field? (Json.list? (Json.list? (Json.list? (Json.double? reading)))) [] weights
    biases := ← field? (Json.list? (Json.list? (Json.double? reading))) [] biases
    hidden := ← field? activation? .relu hidden
    output := ← field? (Json.optional? activation?) none output }

def ofMembers? (reading : Numeral.Reading) (members : List (String × Json)) : Option Model := do
  let form ← ← member? ["type"] members
  match form with
  | .string "tree" =>
    let tree ← treeOfFields? reading (← member? ["lefts"] members) (← member? ["rights"] members)
      (← member? ["thresholds"] members) (← member? ["indices"] members)
      (← member? ["classes"] members) (← member? ["n_features"] members)
    return .ofTree tree
  | .string "mlp" =>
    let network ← networkOfFields? reading (← member? ["layers"] members)
      (← member? ["weights"] members) (← member? ["biases", "bias"] members)
      (← member? ["hidden_activation"] members) (← member? ["output_activation"] members)
    return .ofNetwork network
  | _ => none

def ofItems? (reading : Numeral.Reading) : List Json → Option Model
  | .string "tree" :: fields => do
    if 6 < fields.length then none
    let tree ← treeOfFields? reading fields[0]? fields[1]? fields[2]? fields[3]? fields[4]?
      fields[5]?
    return .ofTree tree
  | .string "mlp" :: fields => do
    if 5 < fields.length then none
    let network ← networkOfFields? reading fields[0]? fields[1]? fields[2]? fields[3]? fields[4]?
    return .ofNetwork network
  | _ => none

def ofJson? (reading : Numeral.Reading) : Json → Option Model
  | .object members => ofMembers? reading members
  | .array items => ofItems? reading items
  | _ => none

/-- The model a text describes, its shape not yet checked. -/
def read? (reading : Numeral.Reading) (text : List Char) : Option Model :=
  (Json.document? reading text).bind (ofJson? reading)

def toJson : Model → Json
  | .ofTree tree => .object <|
    [("type", .string "tree"),
      ("lefts", .ofList .ofInt tree.lefts),
      ("rights", .ofList .ofInt tree.rights),
      ("thresholds", .ofList .ofDouble tree.thresholds),
      ("indices", .ofList .ofInt tree.indices),
      ("classes", .ofList (.ofList .ofNat) tree.classes)] ++
      (tree.width.map fun width => ("n_features", Json.ofNat width)).toList
  | .ofNetwork network => .object <|
    [("type", .string "mlp"),
      ("layers", .ofList .ofNat network.layers),
      ("weights", .ofList (.ofList (.ofList .ofDouble)) network.weights),
      ("biases", .ofList (.ofList .ofDouble) network.biases),
      ("hidden_activation", .string network.hidden.key)] ++
      (network.output.map fun output => ("output_activation", Json.string output.key)).toList

def text (model : Model) : List Char := model.toJson.text

end Modelsmith.Model
