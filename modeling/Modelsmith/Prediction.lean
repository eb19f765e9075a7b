import Modelsmith.Json.Reader
import Modelsmith.Json.Writer
import Modelsmith.Failure
import Modelsmith.Double.Machine

/-! What a program prints for a row, and how many rows it gets right. -/

set_option autoImplicit false

namespace Modelsmith

structure Prediction where
  value : Double
  probabilities : Option (List Double)
  deriving DecidableEq

namespace Prediction

def toJson (prediction : Prediction) : Json :=
  .object <| ("predict", .ofDouble prediction.value) ::
    (prediction.probabilities.map fun shares =>
      ("predictProba", Json.ofList .ofDouble shares)).toList

def text (prediction : Prediction) : List Char := prediction.toJson.text

def probabilities? (reading : Numeral.Reading) : Json → Option (Option (List Double)) :=
  Json.optional? (Json.list? (Json.double? reading))

/-- The members `predict` and `predictProba`, neither twice; others are passed over. -/
def ofMembers? (reading : Numeral.Reading) (members : List (String × Json)) :
    Option Prediction := do
  let only (name : String) := members.filter fun (key, _) => key = name
  let [(_, value)] := only "predict" | none
  let value ← value.double? reading
  match only "predictProba" with
  | [] => return ⟨value, none⟩
  | [(_, shares)] => return ⟨value, ← probabilities? reading shares⟩
  | _ => none

def ofJson? (reading : Numeral.Reading) : Json → Option Prediction
  | .object members => ofMembers? reading members
  | .array [value] => do return ⟨← value.double? reading, none⟩
  | .array [value, shares] => do return ⟨← value.double? reading, ← probabilities? reading shares⟩
  | _ => none

def read? (reading : Numeral.Reading) (text : List Char) : Option Prediction :=
  (Json.read? (Text.trim text)).bind (ofJson? reading)

/-- The prediction a command printed. Without `strict`, other output leaves a gap. -/
def parseBy (reading : Numeral.Reading) (command stdout : String) (strict : Bool) :
    Except Failure (Option Prediction) :=
  match read? reading stdout.toList with
  | some prediction => .ok (some prediction)
  | none => if strict then .error (.malformedOutput command stdout) else .ok none

def parse (command stdout : String) (strict : Bool) : Except Failure (Option Prediction) :=
  parseBy .leading command stdout strict

end Prediction

namespace Score

/-- Whether a row was predicted as expected; a gap never is. -/
def isRight (prediction : Option Prediction) (expected : Double) : Bool :=
  match prediction with
  | some prediction => prediction.value.eq expected
  | none => false

def rightCount (predictions : List (Option Prediction)) (expected : List Double) : Nat :=
  (predictions.zip expected).countP fun (prediction, label) => isRight prediction label

/-- The number of rows predicted as expected, or their share; 0 for no rows. -/
def accuracy (predictions : List (Option Prediction)) (expected : List Double)
    (normalize : Bool) : Except Failure Double :=
  if predictions.length ≠ expected.length then
    .error (.input (.predictionCount predictions.length expected.length))
  else if predictions.isEmpty then .ok Double.zero
  else
    let right := Double.ofNat (rightCount predictions expected)
    .ok (if normalize then right.div (Double.ofNat predictions.length) else right)

end Score

end Modelsmith
