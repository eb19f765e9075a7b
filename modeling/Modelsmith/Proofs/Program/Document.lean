import Modelsmith.Proofs.Failing
import Modelsmith.Program.Data

/-! The data document as a whole.

The numbers of a model are written in the order of the document, and the first text that cannot
stand in it decides. Where all can, the document has the members of the model in their order.
-/

set_option autoImplicit false

namespace Modelsmith.DataDocument

/-- Whether a text is one numeral, in the range that its leading digits tell. -/
def accepts (text : String) : Bool :=
  ((Numeral.ofText? text.toList).filter fun numeral =>
    (Numeral.Reading.leading numeral).isSome).isSome

def entry (text : String) : Json :=
  match Numeral.ofText? text.toList with
  | some numeral => .number numeral
  | none => .null

def numbers : Model → List Double
  | .ofTree tree => tree.thresholds
  | .ofNetwork network => network.weights.flatten.flatten ++ network.biases.flatten

section
variable (write : Double → String)

def firstRejected? (values : List Double) : Option Double :=
  values.find? fun value => !accepts (write value)

/-- A result that stands unless one of some numbers is rejected. -/
def settle {α : Type} (values : List Double) (result : α) : Except Failure α :=
  match firstRejected? write values with
  | some value => .error (.invalidNumber value (write value))
  | none => .ok result

def members : Model → List (String × Json)
  | .ofTree tree => [
    ("lefts", .ofList .ofInt tree.lefts),
    ("rights", .ofList .ofInt tree.rights),
    ("thresholds", .ofList (fun value => entry (write value)) tree.thresholds),
    ("indices", .ofList .ofInt tree.indices),
    ("classes", .ofList (.ofList .ofNat) tree.classes)]
  | .ofNetwork network => [
    ("layers", .ofList .ofNat network.layers),
    ("weights", .ofList (.ofList (.ofList fun value => entry (write value))) network.weights),
    ("bias", .ofList (.ofList fun value => entry (write value)) network.biases)]

end

section
variable {write : Double → String}

theorem settle_bind {α β : Type} {next : α → Except Failure β} {first second : List Double}
    {result : α} {last : β} (continues : next result = settle write second last) :
    (settle write first result >>= next) = settle write (first ++ second) last := by
  unfold settle firstRejected? at *
  rw [List.find?_append]
  cases first.find? fun value => !accepts (write value) with
  | some value => rfl
  | none => exact continues

theorem settle_bind_ok {α β : Type} {next : α → Except Failure β} {values : List Double}
    {result : α} {last : β} (continues : next result = .ok last) :
    (settle write values result >>= next) = settle write values last := by
  have joined : (settle write values result >>= next) = settle write (values ++ []) last :=
    settle_bind continues
  rwa [List.append_nil] at joined

theorem settle_map {α β : Type} (f : α → β) (values : List Double) (result : α) :
    (settle write values result).map f = settle write values (f result) := by
  unfold settle
  cases firstRejected? write values <;> rfl

theorem mapM_settle {α β : Type} {item : α → Except Failure β} {parts : α → List Double}
    {result : α → β} (settles : ∀ value, item value = settle write (parts value) (result value))
    (items : List α) : items.mapM item = settle write (items.flatMap parts) (items.map result) := by
  induction items with
  | nil => rfl
  | cons first rest ih =>
    rw [List.mapM_cons, settles, ih]
    exact settle_bind (settle_bind_ok rfl)

theorem array_settle {α : Type} {item : α → Except Failure Json} {parts : α → List Double}
    {result : α → Json} (settles : ∀ value, item value = settle write (parts value) (result value))
    (items : List α) :
    array item items = settle write (items.flatMap parts) (.ofList result items) := by
  rw [array, mapM_settle settles, settle_map]
  rfl

variable {converter : Converter} (total : ∀ value, converter value = .ok (write value))
include total

theorem number_settle (value : Double) :
    number converter value = settle write [value] (entry (write value)) := by
  cases read : Numeral.ofText? (write value).toList with
  | none => simp [number, total, settle, firstRejected?, accepts, read]
  | some numeral =>
    cases inRange : (Numeral.Reading.leading numeral).isSome <;>
      simp [number, total, settle, firstRejected?, accepts, entry, read, Option.filter, inRange]

theorem ofModel_settle (model : Model) :
    ofModel converter model = settle write (numbers model) (.object (members write model)) := by
  have row (values : List Double) : array (number converter) values =
      settle write values (.ofList (fun value => entry (write value)) values) := by
    rw [array_settle (number_settle total), List.flatMap_singleton']
  have rows (values : List (List Double)) : array (array (number converter)) values =
      settle write values.flatten (.ofList (.ofList fun value => entry (write value)) values) := by
    rw [array_settle row, List.flatMap_id']
  cases model with
  | ofTree tree =>
    rw [ofModel, ofTree, row]
    exact settle_bind_ok rfl
  | ofNetwork network =>
    have layers := array_settle rows network.weights
    rw [List.flatMap_def, ← List.flatten_flatten] at layers
    rw [ofModel, ofNetwork, layers, rows]
    exact settle_bind (settle_bind_ok rfl)

end

end Modelsmith.DataDocument
