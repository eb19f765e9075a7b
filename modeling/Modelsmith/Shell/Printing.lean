import Modelsmith.Double.Layout
import Modelsmith.Shell.Arithmetic

/-! Formatted printing: escapes and directives. -/

set_option autoImplicit false

namespace Modelsmith.Shell.Printing

def isOctal (c : Char) : Bool := '0' ≤ c && c ≤ '7'

def octal (digits : Octets) : Char :=
  Char.ofNat (digits.foldl (fun value c => 8 * value + (c.toNat - 48)) 0 % 256)

def escape : Octets → Char × Octets
  | 'a' :: rest => ('\x07', rest)
  | 'b' :: rest => ('\x08', rest)
  | 'e' :: rest => ('\x1b', rest)
  | 'f' :: rest => ('\x0c', rest)
  | 'n' :: rest => ('\n', rest)
  | 'r' :: rest => ('\r', rest)
  | 't' :: rest => ('\t', rest)
  | 'v' :: rest => ('\x0b', rest)
  | '\\' :: rest => ('\\', rest)
  | text =>
    let digits := (text.take 3).takeWhile isOctal
    if digits.isEmpty then ('\\', text) else (octal digits, text.drop digits.length)

def escapesAfter (done : Octets) : (fuel : Nat) → Octets → Octets × Bool
  | 0, _ => (done.reverse, false)
  | _, [] => (done.reverse, false)
  | _ + 1, '\\' :: 'c' :: _ => (done.reverse, true)
  | fuel + 1, '\\' :: '0' :: rest =>
    let digits := (rest.take 3).takeWhile isOctal
    escapesAfter (octal digits :: done) fuel (rest.drop digits.length)
  | fuel + 1, '\\' :: rest =>
    let (c, rest) := escape rest
    escapesAfter (c :: done) fuel rest
  | fuel + 1, c :: rest => escapesAfter (c :: done) fuel rest

def escapes (text : Octets) : Octets × Bool := escapesAfter [] text.length text

structure Layout where
  left : Bool := false
  zero : Bool := false
  plus : Bool := false
  space : Bool := false
  alternate : Bool := false
  width : Nat := 0
  precision : Option Nat := none

def pad (layout : Layout) (text : Octets) : Octets :=
  let fill := List.replicate (layout.width - text.length) ' '
  if layout.left then text ++ fill else fill ++ text

def sign (layout : Layout) (negative : Bool) : Octets :=
  if negative then ['-'] else if layout.plus then ['+'] else if layout.space then [' '] else []

def padNumber (layout : Layout) (zeros : Bool) (lead digits : Octets) : Octets :=
  let fill :=
    if layout.zero && !layout.left && zeros then
      List.replicate (layout.width - lead.length - digits.length) '0'
    else []
  pad layout (lead ++ fill ++ digits)

def integerDigits (layout : Layout) (base : Nat) (value : Nat) : Octets :=
  let digits := if value = 0 && layout.precision = some 0 then [] else Nat.toDigits base value
  List.replicate (layout.precision.getD 0 - digits.length) '0' ++ digits

def signedText (layout : Layout) (value : Int) : Octets :=
  padNumber layout layout.precision.isNone (sign layout (value < 0))
    (integerDigits layout 10 value.natAbs)

def unsignedText (layout : Layout) (letter : Char) (value : Nat) : Octets :=
  let base := if letter = 'u' then 10 else if letter = 'o' then 8 else 16
  let digits := integerDigits layout base value
  let digits :=
    if letter = 'o' && layout.alternate && digits.head? ≠ some '0' then '0' :: digits else digits
  let lead := if base = 16 && layout.alternate && value ≠ 0 then ['0', 'x'] else []
  let upper (text : Octets) := if letter = 'X' then text.map Char.toUpper else text
  padNumber layout layout.precision.isNone (upper lead) (upper digits)

/-! Doubles. -/

def pointed (alternate : Bool) (whole fraction : Octets) : Octets :=
  if fraction.isEmpty && !alternate then whole else whole ++ '.' :: fraction

def fixedDigits (alternate : Bool) (places : Nat) (value : Double) : Octets :=
  let scaled := Double.roundHalfEven (value.units * 10 ^ places) (2 ^ 1074)
  let digits := Nat.toDigits 10 scaled
  let digits := List.replicate (places + 1 - digits.length) '0' ++ digits
  pointed alternate (digits.take (digits.length - places)) (digits.drop (digits.length - places))

def leadingDigits (places : Nat) (value : Double) : Octets × Int :=
  if value.units = 0 then (List.replicate (places + 1) '0', 0)
  else
    let exponent := value.magnitude - 1
    let shift := (places : Int) - exponent
    let scaled :=
      if 0 ≤ shift then Double.roundHalfEven (value.units * 10 ^ shift.toNat) (2 ^ 1074)
      else Double.roundHalfEven value.units (2 ^ 1074 * 10 ^ (-shift).toNat)
    let digits := Nat.toDigits 10 scaled
    if digits.length = places + 1 then (digits, exponent)
    else (digits.take (places + 1), exponent + 1)

def exponentText (exponent : Int) : Octets :=
  let digits := Nat.toDigits 10 exponent.natAbs
  let digits := List.replicate (2 - digits.length) '0' ++ digits
  'e' :: (if exponent < 0 then '-' else '+') :: digits

def scientificText (alternate : Bool) (digits : Octets) (exponent : Int) : Octets :=
  pointed alternate (digits.take 1) (digits.drop 1) ++ exponentText exponent

def trimmedPlaces (text : Octets) : Octets :=
  if !text.contains '.' then text
  else
    let kept := (text.reverse.dropWhile (· = '0'))
    (match kept with
      | '.' :: rest => rest
      | rest => rest).reverse

def generalDigits (alternate : Bool) (precision : Nat) (value : Double) : Octets :=
  let precision := if precision = 0 then 1 else precision
  let (digits, exponent) := leadingDigits (precision - 1) value
  let trim (text : Octets) : Octets := if alternate then text else trimmedPlaces text
  if -4 ≤ exponent ∧ exponent < precision then
    trim (fixedDigits alternate ((precision : Int) - 1 - exponent).toNat value)
  else trim (pointed alternate (digits.take 1) (digits.drop 1)) ++ exponentText exponent

def hexadecimalDigits (precision : Option Nat) (alternate : Bool) (value : Double) : Octets :=
  let lead := if value.exponent.val = 0 then 0 else 1
  let exponent : Int :=
    if value.units = 0 then 0
    else if value.exponent.val = 0 then -1022 else (value.exponent.val : Int) - 1023
  let mantissa := lead * 2 ^ 52 + value.fraction.val
  let (mantissa, places) := match precision with
    | some places =>
      if places < 13 then (Double.roundHalfEven mantissa (16 ^ (13 - places)), places)
      else (mantissa * 16 ^ (places - 13), places)
    | none => (mantissa, 13)
  let digits := Nat.toDigits 16 mantissa
  let digits := List.replicate (places + 1 - digits.length) '0' ++ digits
  let fraction := digits.drop (digits.length - places)
  let fraction := match precision with
    | none => (fraction.reverse.dropWhile (· = '0')).reverse
    | some _ => fraction
  pointed alternate (digits.take (digits.length - places)) fraction ++
    'p' :: (if exponent < 0 then '-' else '+') :: Nat.toDigits 10 exponent.natAbs

def doubleText (layout : Layout) (letter : Char) (value : Double) : Octets :=
  let lead := sign layout (value.negative && !value.isNaN)
  let upper (text : Octets) := if letter.isUpper then text.map Char.toUpper else text
  if value.isNaN then pad layout (upper (lead ++ "nan"))
  else if !value.isFinite then pad layout (upper (lead ++ "inf"))
  else
    let precision := layout.precision.getD 6
    let magnitude : Double := { value with negative := false }
    match letter.toLower with
    | 'f' => padNumber layout true lead (fixedDigits layout.alternate precision magnitude)
    | 'e' =>
      let (digits, exponent) := leadingDigits precision magnitude
      padNumber layout true lead (upper (scientificText layout.alternate digits exponent))
    | 'a' =>
      padNumber layout true (lead ++ upper ['0', 'x'])
        (upper (hexadecimalDigits layout.precision layout.alternate magnitude))
    | _ => padNumber layout true lead (upper (generalDigits layout.alternate precision magnitude))

/-! Arguments. -/

inductive Doubt where
  | none
  | noNumber
  | incomplete
  | outOfRange

def Doubt.message? : Doubt → Option String
  | .none => Option.none
  | .noNumber => some "expected numeric value"
  | .incomplete => some "not completely converted"
  | .outOfRange => some "Numerical result out of range"

def quotedCode? : Octets → Option Nat
  | '\x27' :: rest | '"' :: rest => some ((rest.headD '\x00').toNat)
  | _ => none

def integer (signed : Bool) (argument : Octets) : Int × Doubt :=
  match quotedCode? argument with
  | some code => (code, .none)
  | none =>
    let text := argument.dropWhile Arithmetic.isSpace
    let (negative, body) := match text with
      | '-' :: body => (true, body)
      | '+' :: body => (false, body)
      | body => (false, body)
    if !(body.head?.any Char.isDigit) then
      (0, if argument.isEmpty then .none else .noNumber)
    else
      let (magnitude, rest) := Arithmetic.magnitude none body
      let limit := if !signed then 2 ^ 64 - 1 else if negative then 2 ^ 63 else 2 ^ 63 - 1
      let value : Int :=
        if limit < magnitude then
          if signed && negative then -(limit : Nat) else (limit : Nat)
        else if negative then -(magnitude : Nat) else (magnitude : Nat)
      (value, if !rest.isEmpty then .incomplete else if limit < magnitude then .outOfRange
        else .none)

def afterWord? (word : String) (text : Octets) : Option Octets :=
  if (text.take word.length).map Char.toLower = word.toList then some (text.drop word.length)
  else none

def exponentPart? (text : Octets) : Option (Int × Octets) :=
  let (down, digits) := match text with
    | '-' :: after => (true, after)
    | '+' :: after => (false, after)
    | after => (false, after)
  let exponent := digits.takeWhile Char.isDigit
  if exponent.isEmpty then none
  else
    let value : Int := (min (digitValue exponent) 100000 : Nat)
    some (if down then -value else value, digits.drop exponent.length)

structure Scanned where
  value : Double
  outOfRange : Bool := false
  rest : Octets

def nearest (negative : Bool) (mantissa : Nat) (exponent : Int) (rest : Octets) : Scanned :=
  let value := Double.ofDecimal negative mantissa exponent
  let isTiny := value.exponent.val = 0 && value.units * 10 ^ (-exponent).toNat ≠ mantissa * 2 ^ 1074
  ⟨value, !value.isFinite || (mantissa ≠ 0 && isTiny), rest⟩

def scaled (negative : Bool) (mantissa : Nat) (exponent : Int) (rest : Octets) : Scanned :=
  if 0 ≤ exponent then nearest negative (mantissa * 2 ^ exponent.toNat) 0 rest
  else nearest negative (mantissa * 5 ^ exponent.natAbs) exponent rest

def hexadecimalPrefix? (negative : Bool) (text : Octets) : Option Scanned :=
  let (whole, rest) := Arithmetic.digits 16 text
  let (fraction, rest) := match rest with
    | '.' :: after =>
      let (fraction, behind) := Arithmetic.digits 16 after
      if whole.isEmpty && fraction.isEmpty then ([], rest) else (fraction, behind)
    | _ => ([], rest)
  if whole.isEmpty && fraction.isEmpty then none
  else
    let (exponent, rest) : Int × Octets := match rest with
      | p :: after => if p = 'p' || p = 'P' then (exponentPart? after).getD (0, rest) else (0, rest)
      | [] => (0, rest)
    let mantissa := (whole ++ fraction).foldl (fun value digit => 16 * value + digit) 0
    let exponent := if mantissa = 0 then 0 else exponent - 4 * fraction.length
    some (scaled negative mantissa (max (-20000) (min 20000 exponent)) rest)

def doublePrefix? (text : Octets) : Option Scanned :=
  let text := text.dropWhile Arithmetic.isSpace
  let (negative, body) := match text with
    | '-' :: body => (true, body)
    | '+' :: body => (false, body)
    | body => (false, body)
  let named := ((afterWord? "infinity" body).or (afterWord? "inf" body)).map fun rest =>
    { value := Double.infinity negative, rest : Scanned }
  let named := named.or ((afterWord? "nan" body).map fun rest => { value := Double.nan, rest })
  named.or <| ((afterWord? "0x" body).bind (hexadecimalPrefix? negative)).or <|
    let whole := body.takeWhile Char.isDigit
    let rest := body.drop whole.length
    let (fraction, rest) := match rest with
      | '.' :: after =>
        let fraction := after.takeWhile Char.isDigit
        if whole.isEmpty && fraction.isEmpty then ([], rest)
        else (fraction, after.drop fraction.length)
      | _ => ([], rest)
    if whole.isEmpty && fraction.isEmpty then none
    else
      let (exponent, rest) : Int × Octets := match rest with
        | e :: after => if e = 'e' || e = 'E' then (exponentPart? after).getD (0, rest) else (0, rest)
        | [] => (0, rest)
      some (nearest negative (digitValue (whole ++ fraction)) (exponent - fraction.length) rest)

def double (argument : Octets) : Double × Doubt :=
  match quotedCode? argument with
  | some code => (Double.ofNat code, .none)
  | none =>
    match doublePrefix? argument with
    | some scanned =>
      (scanned.value, if !scanned.rest.isEmpty then .incomplete
        else if scanned.outOfRange then .outOfRange else .none)
    | none => (Double.zero, if argument.isEmpty then .none else .noNumber)

/-! Formats. -/

structure Progress where
  chunks : List Octets := []
  arguments : List Octets
  complaints : List Octets := []
  stopped : Bool := false
  refused : Option Octets := none

namespace Progress

def add (progress : Progress) (text : Octets) : Progress :=
  { progress with chunks := text :: progress.chunks }

def next (progress : Progress) : Octets × Progress :=
  (progress.arguments.headD [], { progress with arguments := progress.arguments.tail })

def doubt (progress : Progress) (argument : Octets) (doubt : Doubt) : Progress :=
  match doubt.message? with
  | none => progress
  | some message =>
    { progress with complaints := (argument ++ ": " ++ message)
        :: progress.complaints }

def nextInteger (progress : Progress) (signed : Bool) : Int × Progress :=
  let (argument, progress) := progress.next
  let (value, doubt) := integer signed argument
  (value, progress.doubt argument doubt)

end Progress

def count (text : Octets) (progress : Progress) : Int × Octets × Progress :=
  match text with
  | '*' :: rest =>
    let (value, progress) := progress.nextInteger true
    (Int.bmod value (2 ^ 32), rest, progress)
  | _ =>
    let digits := text.takeWhile Char.isDigit
    ((digitValue digits : Nat), text.drop digits.length, progress)

def isFlag (c : Char) : Bool := "#-+ 0".toList.contains c

def layout (text : Octets) (progress : Progress) : Layout × Octets × Progress :=
  let flags := text.takeWhile isFlag
  let (width, rest, progress) := count (text.drop flags.length) progress
  let (precision, rest, progress) : Option Int × Octets × Progress := match rest with
    | '.' :: rest =>
      let (precision, rest, progress) := count rest progress
      (some precision, rest, progress)
    | rest => (none, rest, progress)
  let precision := precision.bind fun value => if value < 0 then none else some value.toNat
  (⟨flags.contains '-' || width < 0, flags.contains '0', flags.contains '+', flags.contains ' ',
    flags.contains '#', width.natAbs, precision⟩, rest, progress)

def directive? (layout : Layout) (letter : Char) (progress : Progress) : Option Progress :=
  if letter = 's' then
    let (argument, progress) := progress.next
    some (progress.add (pad layout (argument.take (layout.precision.getD argument.length))))
  else if letter = 'b' then
    let (argument, progress) := progress.next
    let (text, stopped) := escapes argument
    some { progress.add (pad layout (text.take (layout.precision.getD text.length))) with stopped }
  else if letter = 'c' then
    let (argument, progress) := progress.next
    some (progress.add (pad layout [argument.headD '\x00']))
  else if letter = 'd' || letter = 'i' then
    let (value, progress) := progress.nextInteger true
    some (progress.add (signedText layout value))
  else if "ouxX".toList.contains letter then
    let (value, progress) := progress.nextInteger false
    some (progress.add (unsignedText layout letter (value % 2 ^ 64).toNat))
  else if "aAeEfFgG".toList.contains letter then
    let (argument, progress) := progress.next
    let (value, doubt) := double argument
    some ((progress.doubt argument doubt).add (doubleText layout letter value))
  else none

def pass : (fuel : Nat) → Octets → Progress → Progress
  | 0, _, progress => progress
  | fuel + 1, text, progress =>
    if progress.stopped || progress.refused.isSome then progress
    else
      let plain := text.takeWhile fun c => c ≠ '\\' && c ≠ '%'
      let progress := if plain.isEmpty then progress else progress.add plain
      match text.drop plain.length with
      | [] => progress
      | '\\' :: rest =>
        let (c, rest) := escape rest
        pass fuel rest (progress.add [c])
      | '%' :: '%' :: rest => pass fuel rest (progress.add ['%'])
      | _ :: rest =>
        match layout rest progress with
        | (_, [], progress) => { progress with refused := some "missing format character" }
        | (layout, letter :: after, progress) =>
          match directive? layout letter progress with
          | some progress => pass fuel after progress
          | none =>
            let spelled := '%' :: rest.take (rest.length - after.length)
            { progress with refused := some (spelled ++ ": invalid directive") }

def format (text : Octets) : (fuel : Nat) → Progress → Progress
  | 0, progress => progress
  | fuel + 1, progress =>
    let after := pass (text.length + 1) text progress
    if after.stopped || after.refused.isSome || after.arguments.isEmpty ||
        after.arguments.length = progress.arguments.length then after
    else format text fuel after

def run (text : Octets) (arguments : List Octets) : Progress :=
  format text (arguments.length + 1) { arguments }

end Modelsmith.Shell.Printing
