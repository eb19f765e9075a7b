import Modelsmith.Double.Machine
import Modelsmith.Shell.Printing

/-! Values of scripts, which are numbers and texts at once. -/

set_option autoImplicit false

namespace Modelsmith.Shell.Awk

inductive Value where
  | unset
  | ofNumber (value : Float)
  | ofText (value : Octets)
  | ofInput (value : Octets)
  deriving Inhabited

namespace Value

def decimal (digits : Octets) : Nat :=
  digits.foldl (fun value c => 10 * value + (c.toNat - '0'.toNat)) 0

def ofNat (value : Nat) : Value := .ofNumber (Float.ofNat value)

def ofBool (value : Bool) : Value := .ofNumber (if value then 1 else 0)

def scan (text : Octets) : Option (Float × Octets) :=
  let digits := text.takeWhile Char.isDigit
  let rest := text.drop digits.length
  let isPlain := match rest with
    | [] => true
    | c :: _ => c ≠ '.' && c.toLower ≠ 'e' && c.toLower ≠ 'x'
  if !digits.isEmpty && isPlain && digits.length ≤ 15 then some (Float.ofNat (decimal digits), rest)
  else (Printing.doublePrefix? text).map fun scanned => (scanned.value.toFloat, scanned.rest)

def numberOf (text : Octets) : Float := ((scan text).map Prod.fst).getD 0

def wholeNumber? (text : Octets) : Option Float :=
  match scan text with
  | some (value, rest) => if rest.all Arithmetic.isSpace then some value else none
  | none => none

def toNumber : Value → Float
  | .unset => 0
  | .ofNumber value => value
  | .ofText text | .ofInput text => numberOf text

def integerLimit : Float := 9223372036854775808.0

def toInt (value : Float) : Int :=
  if value.isNaN then 0
  else if integerLimit ≤ value then 2 ^ 63 - 1
  else if value ≤ -integerLimit then -(2 ^ 63 - 1)
  else value.toInt64.toInt

def toPosition (value : Float) : Int :=
  if value.isNaN then 0
  else if 2147483647 ≤ value then 2147483647
  else if value ≤ -2147483647 then -2147483647
  else value.toInt64.toInt

def isInteger (value : Float) : Bool :=
  value == value.floor && -integerLimit ≤ value && value ≤ integerLimit

def intText (value : Int) : Octets :=
  if value < 0 then '-' :: Nat.toDigits 10 value.natAbs else Nat.toDigits 10 value.natAbs

def doubleText (layout : Printing.Layout) (letter : Char) (value : Float) : Octets :=
  if value.isNaN then Printing.pad layout ((if letter.isUpper then "-NAN" else "-nan").toList)
  else Printing.doubleText layout letter (Double.ofFloat value)

/-! Formats. -/

inductive FormatFault where
  | tooFew
  | improper (number : Nat)

structure Directive where
  layout : Printing.Layout := {}
  widthGiven : Bool := false
  precisionGiven : Bool := false
  letter : Char

def directive? (text : Octets) : Option (Directive × Octets) :=
  let flags := text.takeWhile Printing.isFlag
  let rest := text.drop flags.length
  let (widthGiven, width, rest) := match rest with
    | '*' :: rest => (true, 0, rest)
    | rest =>
      let digits := rest.takeWhile Char.isDigit
      (false, decimal digits,
        rest.drop digits.length)
  let (precisionGiven, precision, rest) := match rest with
    | '.' :: '*' :: rest => (true, none, rest)
    | '.' :: rest =>
      let digits := rest.takeWhile Char.isDigit
      (false, some (decimal digits),
        rest.drop digits.length)
    | rest => (false, none, rest)
  let rest := rest.dropWhile fun c => c = 'l' || c = 'h'
  match rest with
  | [] => none
  | letter :: rest =>
    some ({
      layout := {
        left := flags.contains '-'
        zero := flags.contains '0'
        plus := flags.contains '+'
        space := flags.contains ' '
        alternate := flags.contains '#'
        width, precision }
      widthGiven, precisionGiven, letter }, rest)

def integerText (layout : Printing.Layout) (letter : Char) (value : Float) : Octets :=
  let large : Nat := if 18446744073709551616.0 ≤ value then 2 ^ 64 - 1 else value.toUInt64.toNat
  if letter = 'd' || letter = 'i' then
    if integerLimit ≤ value then Printing.unsignedText layout 'u' large
    else Printing.signedText layout (toInt value)
  else if integerLimit ≤ value then Printing.unsignedText layout letter large
  else Printing.unsignedText layout letter (toInt value % 2 ^ 64).toNat

def toText : Value → Octets
  | .unset => []
  | .ofNumber value => if isInteger value then intText (toInt value) else doubleText {} 'g' value
  | .ofText text | .ofInput text => text

def numeric? : Value → Option Float
  | .unset => some 0
  | .ofNumber value => some value
  | .ofText _ => none
  | .ofInput text => wholeNumber? text

def isTrue : Value → Bool
  | .unset => false
  | .ofNumber value => value != 0
  | .ofText text => !text.isEmpty
  | .ofInput text =>
    match wholeNumber? text with
    | some value => value != 0
    | none => !text.isEmpty

def fill : (fuel number : Nat) → Octets → List Value → List Octets → List Octets × Option FormatFault
  | 0, _, _, _, done => (done, none)
  | fuel + 1, number, text, values, done =>
    let plain := text.takeWhile (· ≠ '%')
    let done := if plain.isEmpty then done else plain :: done
    match text.drop plain.length with
    | [] => (done, none)
    | '%' :: '%' :: rest => fill fuel number rest values (['%'] :: done)
    | _ :: rest =>
      match directive? rest with
      | none => (done, some (.improper number))
      | some (directive, rest) =>
        let take (isWanted : Bool) (values : List Value) : Option (Option Value × List Value) :=
          match isWanted, values with
          | false, values => some (none, values)
          | true, value :: values => some (some value, values)
          | true, [] => none
        match take directive.widthGiven values with
        | none => (done, some .tooFew)
        | some (width, values) =>
          match take directive.precisionGiven values with
          | none => (done, some .tooFew)
          | some (precision, values) =>
            let layout := match width with
              | some width =>
                let width := toPosition width.toNumber
                { directive.layout with
                  left := directive.layout.left || width < 0
                  width := width.natAbs }
              | none => directive.layout
            let layout := match precision with
              | some precision =>
                let precision := toPosition precision.toNumber
                { layout with precision := if precision < 0 then none else some precision.toNat }
              | none => layout
            match values with
            | [] => (done, some .tooFew)
            | value :: values =>
              let go (text : Octets) : List Octets × Option FormatFault :=
                fill fuel (number + 1) rest values (text :: done)
              let letter := directive.letter
              if letter = 's' then
                let text := value.toText
                go (Printing.pad layout (text.take (layout.precision.getD text.length)))
              else if letter = 'c' then go (Printing.pad layout [character value])
              else if "diouxX".toList.contains letter then
                go (integerText layout letter value.toNumber)
              else if "efgEG".toList.contains letter then
                go (doubleText layout letter value.toNumber)
              else (done, some (.improper number))
where
  character : Value → Char
    | .unset => '\x00'
    | .ofNumber value => Char.ofNat (toInt value % 256).toNat
    | .ofText text => text.headD '\x00'
    | .ofInput text =>
      match wholeNumber? text with
      | some value => Char.ofNat (toInt value % 256).toNat
      | none => text.headD '\x00'

end Value

end Modelsmith.Shell.Awk
