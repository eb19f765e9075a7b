/-! What a program is generated for: its language, its packaging and the method it prints. -/

set_option autoImplicit false

namespace Modelsmith

inductive Language where
  | c
  | go
  | java
  | javaScript
  | php
  | ruby
  deriving DecidableEq

inductive Packaging where
  /-- Data as literals, evaluated by a lookup loop. -/
  | attached
  /-- Data as literals, evaluated by generated branches. -/
  | combined
  /-- Data in a file beside the program. -/
  | exported
  deriving DecidableEq

inductive Method where
  | predict
  | probabilities
  deriving DecidableEq

def lowercase (text : String) : String := String.ofList (text.toList.map Char.toLower)

inductive UnknownWord where
  | language (text : String)
  | packaging (text : String)
  | method (text : String)
  deriving DecidableEq

def UnknownWord.message : UnknownWord → String
  | .language text =>
    "unknown language '" ++ text ++ "' (expected one of: c, go, java, js, php, ruby)"
  | .packaging text =>
    "unknown packaging mode '" ++ text ++ "' (expected attached, combined or exported)"
  | .method text => "unknown method '" ++ text ++ "' (expected predict or predict_proba)"

namespace Language

def all : List Language := [.c, .go, .java, .javaScript, .php, .ruby]

def key : Language → String
  | .c => "c"
  | .go => "go"
  | .java => "java"
  | .javaScript => "js"
  | .php => "php"
  | .ruby => "ruby"

def label : Language → String
  | .c => "C"
  | .go => "Go"
  | .java => "Java"
  | .javaScript => "JavaScript"
  | .php => "PHP"
  | .ruby => "Ruby"

def extension : Language → String
  | .c => "c"
  | .go => "go"
  | .java => "java"
  | .javaScript => "js"
  | .php => "php"
  | .ruby => "rb"

def names : Language → List String
  | .javaScript => ["js", "javascript"]
  | .ruby => ["rb", "ruby"]
  | language => [language.key]

def ofText? (text : String) : Option Language :=
  all.find? fun language => language.names.contains (lowercase text)

def parse (text : String) : Except UnknownWord Language :=
  match ofText? text with
  | some language => .ok language
  | none => .error (.language text)

end Language

namespace Packaging

def all : List Packaging := [.attached, .combined, .exported]

def key : Packaging → String
  | .attached => "attached"
  | .combined => "combined"
  | .exported => "exported"

def symbol : Packaging → Char
  | .attached => 'ᴀ'
  | .combined => 'ᴄ'
  | .exported => 'ᴇ'

def parse (text : String) : Except UnknownWord Packaging :=
  match all.find? fun packaging => packaging.key = lowercase text with
  | some packaging => .ok packaging
  | none => .error (.packaging text)

end Packaging

namespace Method

def all : List Method := [.predict, .probabilities]

def key : Method → String
  | .predict => "predict"
  | .probabilities => "predict_proba"

/-- A hyphen may stand for the underscore. -/
def parse (text : String) : Except UnknownWord Method :=
  let word := String.ofList ((lowercase text).toList.map fun c => if c = '-' then '_' else c)
  match all.find? fun method => method.key = word with
  | some method => .ok method
  | none => .error (.method text)

end Method

end Modelsmith
