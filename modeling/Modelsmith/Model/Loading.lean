import Modelsmith.Failure
import Modelsmith.Model.Document

/-! Models that are read and checked. -/

set_option autoImplicit false

namespace Modelsmith.Model

def check (model : Model) : Except Failure Unit :=
  match model.validate with
  | .ok _ => .ok ()
  | .error fault => .error (.model model.kind fault)

def parseBy (reading : Numeral.Reading) (text : List Char) : Except Failure Model := do
  let some model := read? reading text | throw .malformedModel
  model.check
  return model

def parse (text : List Char) : Except Failure Model := parseBy .leading text

def load (files : Files) (path : String) : Except Failure Model :=
  match files.readText path with
  | .ok text => parse text.toList
  | .error fault => .error (.file .read path fault)

end Modelsmith.Model
