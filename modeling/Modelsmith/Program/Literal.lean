import Modelsmith.Dialect.Basic
import Modelsmith.Double.Layout

/-! Numbers and arrays as literals of a language. -/

set_option autoImplicit false

namespace Modelsmith

/-- The text of every double in a program and its data. -/
abbrev Converter := Double → Except RenderFault String

def Converter.shortest : Converter := fun value =>
  .ok (String.ofList (Double.Layout.exact.render value))

def Converter.placesLimit : Nat := 65535

def Converter.fixed (places : Nat) : Converter := fun value =>
  if places ≤ Converter.placesLimit then .ok (String.ofList (value.fixed places))
  else .error .tooManyPlaces

namespace Literal

def commaSeparated : List String → String
  | [] => ""
  | [last] => last
  | first :: rest => first ++ ", " ++ commaSeparated rest

def list (dialect : Dialect) (items : List String) : Except RenderFault String :=
  dialect.render "in_brackets" [("value", commaSeparated items)]

def intText (value : Int) : String := String.ofList (Numeral.ofInt value).text

def ints (dialect : Dialect) (values : List Int) : Except RenderFault String :=
  list dialect (values.map intText)

def nats (dialect : Dialect) (values : List Nat) : Except RenderFault String :=
  list dialect (values.map fun (value : Nat) => intText value)

def doubles (dialect : Dialect) (converter : Converter) (values : List Double) :
    Except RenderFault String := do
  list dialect (← values.mapM converter)

def nested {α : Type} (dialect : Dialect) (item : α → Except RenderFault String)
    (values : List α) : Except RenderFault String := do
  list dialect (← values.mapM item)

inductive Scalar where
  | int
  | double

def Scalar.template : Scalar → String
  | .int => "int"
  | .double => "double"

inductive Shape where
  | vector (size : Nat)
  | matrix (rows columns : Nat)
  | cube

def Shape.template : Shape → String
  | .vector _ => "arr[]"
  | .matrix _ _ => "arr[][]"
  | .cube => "arr[][][]"

def Shape.bindings : Shape → Template.Bindings
  | .vector size => [("n", intText size), ("m", "")]
  | .matrix rows columns => [("n", intText rows), ("m", intText columns)]
  | .cube => [("n", "0"), ("m", "0")]

def declare (dialect : Dialect) (scalar : Scalar) (name values : String) (shape : Shape) :
    Except RenderFault String := do
  let type ← dialect.text scalar.template
  dialect.render shape.template
    ([("type", type), ("name", dialect.sigil ++ name), ("values", values)] ++ shape.bindings)

end Literal

end Modelsmith
