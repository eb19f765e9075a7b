import Modelsmith.Shell.Tool.Content
import Modelsmith.Shell.Tool.Sorting
import Modelsmith.Shell.Tool.Text

/-! Numbers that people read: with letters for powers of a thousand. -/

set_option autoImplicit false

namespace Modelsmith.Shell.Tool

inductive Scaling where
  | none
  | thousands
  | binary
  deriving DecidableEq

def Scaling.base : Scaling → Nat
  | .binary => 1024
  | _ => 1000

structure QuantityStyle where
  source : Scaling := .none
  target : Scaling := .none

/-! Reading. -/

def powerLetters : List Char := "KMGTPEZY"

def decimalNumber (text : Octets) : Except String (Rat × Nat × Octets) := do
  let (negative, body) := match text with
    | '-' :: body => (true, body)
    | body => (false, body)
  let whole := body.takeWhile Char.isDigit
  let rest := body.drop whole.length
  let tooLong (digits : Octets) : Bool := 27 < (digits.dropWhile (· = '0')).length
  if tooLong whole then throw "value too large to be converted: "
  if whole.isEmpty && rest.head? ≠ some '.' then throw "invalid number: "
  let signed (value : Rat) : Rat := if negative then -value else value
  match rest with
  | '.' :: after =>
    let places := after.takeWhile Char.isDigit
    if tooLong places then throw "value too large to be converted: "
    if places.isEmpty && after.head? ≠ some '.' then throw "invalid number: "
    let value := mkRat (digitValue whole * 10 ^ places.length + digitValue places : Nat)
      (10 ^ places.length)
    return (signed value, places.length, after.drop places.length)
  | rest => return (signed (digitValue whole : Nat), 0, rest)

def humanNumber (scaling : Scaling) (text : Octets) : Except Octets (Rat × Nat) := do
  let (value, places, rest) ← match decimalNumber text with
    | .error words => throw (words.toList ++ cited text)
    | .ok read => pure read
  match rest with
  | [] => return (value, places)
  | letter :: after =>
    match powerLetters.findIdx? (· = letter), after with
    | none, _ => throw ("invalid suffix in input: " ++ cited text)
    | some index, after =>
      if scaling = .none then
        throw ("rejecting suffix in input: " ++ cited text ++ " (consider using --from)")
      else if after.isEmpty then return (value * (scaling.base ^ (index + 1) : Nat), 0)
      else throw ("invalid suffix in input " ++ cited text ++ ": " ++ cited after)

/-! Writing. -/

def placesText (places : Nat) (value : Rat) : Octets :=
  let scaled := value.num.natAbs * 10 ^ places
  let units := Double.roundHalfEven scaled value.den
  let digits := natText units
  let digits := List.replicate (places + 1 - digits.length) '0' ++ digits
  let whole := digits.take (digits.length - places)
  let text := if places = 0 then whole else whole ++ '.' :: digits.drop (digits.length - places)
  if value < 0 then '-' :: text else text

def powerOf (base : Nat) : (fuel : Nat) → Nat → Rat → Nat × Rat
  | 0, power, value => (power, value)
  | fuel + 1, power, value =>
    if value < base && -value < base then (power, value)
    else powerOf base fuel (power + 1) (value / base)

def humanText (style : QuantityStyle) (places : Nat) (value : Rat) : Octets :=
  let rounded (places : Nat) (value : Rat) : Rat :=
    let scaled := value * (10 ^ places : Nat)
    mkRat (if scaled < 0 then scaled.floor else scaled.ceil) (10 ^ places)
  if style.target = .none then placesText places (rounded places value)
  else
    let base := style.target.base
    let (power, value) := powerOf base 100 0 value
    let isSmall (value : Rat) : Bool := value < 10 && -value < 10
    let value := rounded (if isSmall value then 1 else 0) value
    let (power, value) := if value < base && -value < base then (power, value)
      else (power + 1, value / base)
    placesText (if value ≠ 0 && isSmall value && 0 < power then 1 else 0) value ++
      if power = 0 then [] else [powerLetters.getD (power - 1) 'Y']

def tooLarge? (style : QuantityStyle) (places : Nat) (value : Rat) : Option Octets :=
  let (power, _) := powerOf 10 400 0 value
  let text := Printing.doubleText {} 'g'
    (Double.ofDecimal (value < 0) (value.num.natAbs * 10 ^ 30 / value.den) (-30))
  if style.target = .none && 18 < power + places then
    some (if places = 0 then
        "value too large to be printed: '" ++ text ++ "' (consider using --to)"
      else
        "value/precision too large to be printed: '" ++ text ++
          s!"/{places}' (consider using --to)")
  else if 26 < power then
    some ("value too large to be printed: '" ++ text ++
      "' (cannot handle values > 999Y)")
  else none

def converted (style : QuantityStyle) (text : Octets) : Except Octets Octets :=
  match humanNumber style.source (text.dropWhile isBlankChar) with
  | .error words => .error words
  | .ok (value, places) =>
    match tooLarge? style places value with
    | some words => .error words
    | none => .ok (humanText style places value)

def numfmt : Tool := optioned ⟨"", "FT", [("from", 'F'), ("to", 'T')]⟩ 1 fun found => do
  let scalings : List (String × Scaling) :=
    [("none", .none), ("si", .thousands), ("iec", .binary)]
  let mut style : QuantityStyle := {}
  for (letter, text) in found.options do
    if letter = 'F' then
      match ← chosen "--from" scalings text with
      | some source => style := { style with source }
      | none => return 1
    else
      match ← chosen "--to" scalings text with
      | some target => style := { style with target }
      | none => return 1
  let mut rows := found.operands
  if rows.isEmpty then
    match ← content ['-'] with
    | .error reason =>
      complain ("error reading input: " ++ reason)
      return 1
    | .ok text => rows := bareLines text
  for row in rows do
    match converted style row with
    | .ok text => Step.printLine text
    | .error words =>
      complain words
      return 2
  return 0

end Modelsmith.Shell.Tool
