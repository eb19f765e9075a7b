import Modelsmith.Numeral

/-! JSON values. Numbers keep their spelling, and objects keep the order and the repetitions of
their members. -/

set_option autoImplicit false

namespace Modelsmith

inductive Json where
  | null
  | bool (value : Bool)
  | number (numeral : Numeral)
  | string (text : String)
  /-- A string, or an object with a key, in which an escaped surrogate has no partner: well-formed,
  but no text. -/
  | garbled
  | array (items : List Json)
  | object (members : List (String × Json))

namespace Json

def ofInt (value : Int) : Json := .number (.ofInt value)

def ofNat (value : Nat) : Json := ofInt value

def ofList {α : Type} (encode : α → Json) (items : List α) : Json := .array (items.map encode)

mutual
/-- Whether every string is a text, every number is in the range of a double, and nesting is at
most `levels` deep. -/
def acceptable (reading : Numeral.Reading) (levels : Nat) : Json → Bool
  | .null => true
  | .bool _ => true
  | .number numeral => (reading numeral).isSome
  | .string _ => true
  | .garbled => false
  | .array items => decide (0 < levels) && acceptableItems reading (levels - 1) items
  | .object members => decide (0 < levels) && acceptableMembers reading (levels - 1) members

def acceptableItems (reading : Numeral.Reading) (levels : Nat) : List Json → Bool
  | [] => true
  | item :: rest => acceptable reading levels item && acceptableItems reading levels rest

def acceptableMembers (reading : Numeral.Reading) (levels : Nat) : List (String × Json) → Bool
  | [] => true
  | (_, value) :: rest => acceptable reading levels value && acceptableMembers reading levels rest
end

/-- How deep a document may nest; the outermost value counts as one level. -/
def levelLimit : Nat := 127

def integer? : Json → Option Int
  | .number numeral => numeral.integer?
  | _ => none

def signed? (value : Json) : Option Int := do
  let whole ← value.integer?
  if -(2 ^ 63) ≤ whole ∧ whole < 2 ^ 63 then some whole else none

def unsigned? (value : Json) : Option Nat := do
  let whole ← value.integer?
  if 0 ≤ whole ∧ whole < 2 ^ 64 then some whole.toNat else none

def double? (reading : Numeral.Reading) : Json → Option Double
  | .number numeral => reading numeral
  | _ => none

def list? {α : Type} (decode : Json → Option α) : Json → Option (List α)
  | .array items => items.mapM decode
  | _ => none

/-- An absent value is written as `null`. -/
def optional? {α : Type} (decode : Json → Option α) : Json → Option (Option α)
  | .null => some none
  | value => (decode value).map some

end Json

end Modelsmith
