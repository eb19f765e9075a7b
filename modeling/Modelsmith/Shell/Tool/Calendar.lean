import Modelsmith.Shell.Tool.Basic

/-! Days and times by their numbers, and the zones they are told in. -/

set_option autoImplicit false

namespace Modelsmith.Shell.Tool

def dayNumber (year : Int) (month : Nat) (day : Int) : Int :=
  let shifted : Int := if month ≤ 2 then year - 1 else year
  let place : Int := (month + 9) % 12
  365 * shifted + shifted / 4 - shifted / 100 + shifted / 400 + (153 * place + 2) / 5 + day - 719469

def startSecond : Int := dayNumber 2026 1 1 * 86400

def timeOf (seconds : Int) : Int := (seconds - startSecond) * 1000000

def monthNames : List String :=
  ["Jan", "Feb", "Mar", "Apr", "May", "Jun", "Jul", "Aug", "Sep", "Oct", "Nov", "Dec"]

def twoDigits (value : Nat) : Octets := if value < 10 then '0' :: natText value else natText value

def dateOf (day : Int) : Int × Nat × Nat :=
  let shifted := day + 719468
  let era := shifted / 146097
  let inEra := (shifted % 146097).toNat
  let yearOfEra := (inEra - inEra / 1460 + inEra / 36524 - inEra / 146096) / 365
  let inYear := inEra - (365 * yearOfEra + yearOfEra / 4 - yearOfEra / 100)
  let place := (5 * inYear + 2) / 153
  let month := if place < 10 then place + 3 else place - 9
  let year : Int := yearOfEra + era * 400
  (if month ≤ 2 then year + 1 else year, month, inYear - (153 * place + 2) / 5 + 1)

def weekday (day : Int) : Nat := ((day + 4) % 7).toNat

def monthOf (year month : Int) : Int × Nat :=
  let count := year * 12 + (month - 1)
  (count / 12, (count % 12).toNat + 1)

/-! Time zones that stay the same all year. -/

structure Zone where
  name : Octets
  offset : Int

namespace Zone

def universal : Zone := { name := "UTC", offset := 0 }

def ruleTime (text : Octets) : Int :=
  let (sign, body) := match text with
    | '-' :: body => ((-1 : Int), body)
    | '+' :: body => (1, body)
    | body => (1, body)
  let parts := (Expansion.splitOnChar ':' body).map digitValue
  sign * (parts.getD 0 0 * 3600 + parts.getD 1 0 * 60 + parts.getD 2 0 : Nat)

def named (text : Octets) : Zone :=
  let name := text.takeWhile Char.isAlpha
  if 3 ≤ name.length then { name, offset := -ruleTime (text.drop name.length) } else universal

def current : Step Zone := do
  match ← Step.value? "TZ" with
  | some text => return named text
  | none => return universal

end Zone

end Modelsmith.Shell.Tool
