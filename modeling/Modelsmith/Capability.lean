import Modelsmith.Model.Kind
import Modelsmith.Target

/-! Which models can be generated in which languages, packagings and methods. -/

set_option autoImplicit false

namespace Modelsmith.Capability

structure Entry where
  kind : ModelKind
  languages : List Language
  packagings : List Packaging
  methods : List Method

def table : List Entry := [
  ⟨.treeClassifier, [.c], [.attached, .combined], Method.all⟩,
  ⟨.treeClassifier, [.go, .java, .javaScript, .php, .ruby], Packaging.all, Method.all⟩,
  ⟨.networkClassifier, [.java, .javaScript], [.attached, .exported], Method.all⟩,
  ⟨.networkRegressor, [.javaScript], [.attached, .exported], [.predict]⟩]

def entries (kind : ModelKind) (language : Language) : List Entry :=
  table.filter fun entry => entry.kind = kind && entry.languages.contains language

def supports (kind : ModelKind) (language : Language) (packaging : Packaging) (method : Method) :
    Bool :=
  (entries kind language).any fun entry =>
    entry.packagings.contains packaging && entry.methods.contains method

inductive Gap where
  | noLanguage (language : Language)
  | noPackaging (packaging : Packaging) (language : Language)
  | noMethod (method : Method) (language : Language) (packaging : Packaging)
  deriving DecidableEq

def Gap.text : Gap → String
  | .noLanguage language => "the language " ++ language.label
  | .noPackaging packaging language =>
    "the packaging mode '" ++ packaging.key ++ "' in " ++ language.label
  | .noMethod method language packaging =>
    "the method '" ++ method.key ++ "' in " ++ language.label ++ " (" ++ packaging.key ++ ")"

def gap? (kind : ModelKind) (language : Language) (packaging : Packaging) (method : Method) :
    Option Gap :=
  if (entries kind language).isEmpty then some (.noLanguage language)
  else if !(entries kind language).any fun entry => entry.packagings.contains packaging then
    some (.noPackaging packaging language)
  else if supports kind language packaging method then none
  else some (.noMethod method language packaging)

def languages (kind : ModelKind) : List Language :=
  Language.all.filter fun language => !(entries kind language).isEmpty

def defaultTarget : ModelKind → Language × Packaging
  | .treeClassifier => (.java, .attached)
  | .networkClassifier | .networkRegressor => (.javaScript, .attached)

/-- One mark per packaging, raised when probabilities are available. -/
def cell (kind : ModelKind) (language : Language) : String :=
  " | ".intercalate <| Packaging.all.map fun packaging =>
    if supports kind language packaging .probabilities then
      String.ofList ['✓', packaging.symbol, 'ᴾ']
    else if supports kind language packaging .predict then
      String.ofList ['✓', packaging.symbol, ' ']
    else "···"

def spaces (count : Nat) : String := String.ofList (List.replicate count ' ')

def padRight (width : Nat) (text : String) : String := text ++ spaces (width - text.length)

/-- The odd blank goes to the right. -/
def center (width : Nat) (text : String) : String :=
  let blank := width - text.length
  spaces (blank / 2) ++ text ++ spaces (blank - blank / 2)

def rowText (widths : List Nat) (cells : List String) : String :=
  let padded := (widths.zip cells).zipIdx.map fun ((width, text), column) =>
    " " ++ (if column = 0 then padRight width text else center width text) ++ " "
  String.ofList (("|".intercalate padded).toList.reverse.dropWhile (· = ' ')).reverse

def report (language : Option Language) : String :=
  let languages := match language with
    | some language => [language]
    | none => Language.all
  let header := "Estimator" :: languages.map Language.label
  let rows := ModelKind.all.map fun kind => kind.name :: languages.map (cell kind)
  let widths := (List.range header.length).map fun column =>
    ((header :: rows).map fun row => (row[column]?.getD "").length).foldl max 0
  let rule := "+".intercalate (widths.map fun width =>
    String.ofList (List.replicate (width + 2) '-'))
  "\n".intercalate (rowText widths header :: rule :: rows.map (rowText widths)) ++ "\n"

end Modelsmith.Capability
