import Modelsmith.Target
import Modelsmith.Template

/-! The templates of a language, and what goes along with them. -/

set_option autoImplicit false

namespace Modelsmith

structure Dialect where
  language : Language
  sigil : String
  /-- How deep branches are nested in their method; none when they are not indented. -/
  depth : Option Nat
  entries : List (String × String)

inductive RenderFault where
  | unknown (template : String) (language : Language)
  | unbound (template slot : String)
  /-- A number was to have more digits after the point than can be counted. -/
  | tooManyPlaces
  deriving DecidableEq

def RenderFault.message : RenderFault → String
  | .unknown template language => "no template `" ++ template ++ "` for " ++ language.label
  | .unbound template slot => "template `" ++ template ++ "` has an unbound slot `" ++ slot ++ "`"
  | .tooManyPlaces => "Formatting argument out of range"

def lines : List String → String
  | [] => ""
  | [last] => last
  | first :: rest => first ++ "\n" ++ lines rest

namespace Dialect

def has (dialect : Dialect) (name : String) : Bool :=
  dialect.entries.any fun (entry, _) => entry = name

def text (dialect : Dialect) (name : String) : Except RenderFault String :=
  match dialect.entries.lookup name with
  | some text => .ok text
  | none => .error (.unknown name dialect.language)

def render (dialect : Dialect) (name : String) (bindings : Template.Bindings) :
    Except RenderFault String := do
  let text ← dialect.text name
  match Template.fill text bindings with
  | .ok filled => return filled
  | .error slot => throw (.unbound name slot)

def braced : List (String × String) := [
  ("if",
    "if (\x7b\x7bfeatures\x7d\x7d[\x7b\x7bindex\x7d\x7d] \x7b\x7bop\x7d\x7d \x7b\x7bthreshold\x7d\x7d) \x7b"),
  ("else", "\x7d else \x7b"),
  ("endif", "\x7d"),
  ("assign", "\x7b\x7bclasses\x7d\x7d[\x7b\x7bindex\x7d\x7d] = \x7b\x7bvalue\x7d\x7d"),
  ("join", ";")]

end Dialect

end Modelsmith
