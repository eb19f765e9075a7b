/-! The families of fitted models. -/

set_option autoImplicit false

namespace Modelsmith

inductive ModelKind where
  | treeClassifier
  | networkClassifier
  | networkRegressor
  deriving DecidableEq

namespace ModelKind

def all : List ModelKind := [.treeClassifier, .networkClassifier, .networkRegressor]

/-- The deployment's name, also the default class name of its programs. -/
def name : ModelKind → String
  | .treeClassifier => "DecisionTreeClassifier"
  | .networkClassifier => "MLPClassifier"
  | .networkRegressor => "MLPRegressor"

def ofName? (name : String) : Option ModelKind := all.find? fun kind => kind.name = name

def isClassifier (kind : ModelKind) : Bool := kind ≠ .networkRegressor

end ModelKind

end Modelsmith
