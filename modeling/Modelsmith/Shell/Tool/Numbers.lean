import Modelsmith.Shell.Condition
import Modelsmith.Shell.Regex.Matching
import Modelsmith.Shell.Tool.Sequences

/-! Programs on numbers and expressions, and those that only print. -/

set_option autoImplicit false

namespace Modelsmith.Shell.Tool

/-! Expressions. -/

namespace Calculation

inductive Fault where
  | missing (after : Octets)
  | unexpected (text : Octets)
  | noInteger
  | zero
  | expected (text : String) (after : Octets)
  | instead (text : String) (found : Octets)
  | unopened
  | regex (message : String)

def Fault.message : Fault → Octets
  | .missing [] => "missing operand"
  | .missing after => "syntax error: missing argument after " ++ cited after
  | .unexpected text => "syntax error: unexpected argument " ++ cited text
  | .noInteger => "non-integer argument"
  | .zero => "division by zero"
  | .expected text after =>
    "syntax error: expecting " ++ cited text ++ " after " ++ cited after
  | .instead text found =>
    "syntax error: expecting " ++ cited text ++ " instead of " ++ cited found
  | .unopened => "syntax error: unexpected ')'"
  | .regex message => message.toList

abbrev Result := Except Fault (Octets × List Octets × Octets)

def integer? (text : Octets) : Option Int :=
  let digits := match text with
    | '-' :: digits => digits
    | digits => digits
  if digits.isEmpty || !digits.all Char.isDigit then none
  else
    let value : Int := (digitValue digits : Nat)
    some (if text.head? = some '-' then -value else value)

def isNull (text : Octets) : Bool := text.isEmpty || integer? text = some 0

def matched (text pattern : Octets) : Except Fault Octets :=
  match Regex.read false pattern with
  | .error message => .error (.regex message)
  | .ok regex =>
    let grouped := (List.range pattern.length).any fun index =>
      pattern[index]? = some '\\' && pattern[index + 1]? = some '('
    let subject := Regex.Subject.ofOctets text
    match (regex.matcher false).matchAt subject 0 with
    | some found => .ok (if grouped then found.text subject 1 else natText found.finish)
    | none => .ok (if grouped then [] else ['0'])

def level (operator : Octets) : Option Nat :=
  match String.ofList operator with
  | "|" => some 0
  | "&" => some 1
  | "<" | "<=" | "=" | "==" | "!=" | ">=" | ">" => some 2
  | "+" | "-" => some 3
  | "*" | "/" | "%" => some 4
  | ":" => some 5
  | _ => none

def truth (value : Bool) : Octets := if value then ['1'] else ['0']

def apply (operator left right : Octets) : Except Fault Octets :=
  let arithmetic (act : Int → Int → Except Fault Int) : Except Fault Octets :=
    match integer? left, integer? right with
    | some first, some second => (act first second).map fun value => (toString value).toList
    | _, _ => .error .noInteger
  let order : Ordering :=
    match integer? left, integer? right with
    | some first, some second => compare first second
    | _, _ => if left = right then .eq else if Text.precedes left right then .lt else .gt
  match String.ofList operator with
  | "|" => .ok (if isNull left then if isNull right then ['0'] else right else left)
  | "&" => .ok (if isNull left || isNull right then ['0'] else left)
  | "<" => .ok (truth (order = .lt))
  | "<=" => .ok (truth (order ≠ .gt))
  | "=" | "==" => .ok (truth (order = .eq))
  | "!=" => .ok (truth (order ≠ .eq))
  | ">=" => .ok (truth (order ≠ .lt))
  | ">" => .ok (truth (order = .gt))
  | "+" => arithmetic fun left right => .ok (left + right)
  | "-" => arithmetic fun left right => .ok (left - right)
  | "*" => arithmetic fun left right => .ok (left * right)
  | "/" => arithmetic fun left right => if right = 0 then .error .zero else .ok (left.tdiv right)
  | "%" => arithmetic fun left right => if right = 0 then .error .zero else .ok (left.tmod right)
  | _ => matched left right

def part (text start length : Octets) : Octets :=
  match integer? start, integer? length with
  | some start, some length =>
    if start < 1 || length < 1 then [] else (text.drop (start - 1).toNat).take length.toNat
  | _, _ => []

mutual

def expression (loosest : Nat) (latest : Octets) (arguments : List Octets) :
    (fuel : Nat) → Result
  | 0 => .error (.missing latest)
  | fuel + 1 => do
    let (value, arguments, latest) ←
      if loosest < 6 then expression (loosest + 1) latest arguments fuel
      else operand latest arguments fuel
    operations loosest value latest arguments fuel

def operations (loosest : Nat) (value latest : Octets) (arguments : List Octets) :
    (fuel : Nat) → Result
  | 0 => .ok (value, arguments, latest)
  | fuel + 1 => do
    match arguments with
    | operator :: rest =>
      if level operator = some loosest then
        let (right, rest, latest) ← expression (loosest + 1) operator rest fuel
        let value ← apply operator value right
        operations loosest value latest rest fuel
      else return (value, arguments, latest)
    | [] => return (value, [], latest)

def operand (latest : Octets) (arguments : List Octets) : (fuel : Nat) → Result
  | 0 => .error (.missing latest)
  | fuel + 1 => do
    match arguments with
    | [] => throw (.missing latest)
    | text :: rest =>
      match String.ofList text with
      | "(" =>
        let (value, rest, latest) ← expression 0 text rest fuel
        match rest with
        | [')'] :: rest => return (value, rest, [')'])
        | [] => throw (.expected ")" latest)
        | other :: _ => throw (.instead ")" other)
      | ")" => throw .unopened
      | "+" =>
        match rest with
        | next :: rest => return (next, rest, next)
        | [] => throw (.missing text)
      | "length" =>
        if rest.isEmpty then throw (.missing text)
        let (value, rest, latest) ← expression 6 text rest fuel
        return (natText value.length, rest, latest)
      | "match" =>
        let (value, rest, latest) ← expression 6 text rest fuel
        let (pattern, rest, latest) ← expression 6 latest rest fuel
        return (← matched value pattern, rest, latest)
      | "index" =>
        let (value, rest, latest) ← expression 6 text rest fuel
        let (chars, rest, latest) ← expression 6 latest rest fuel
        let before := value.takeWhile fun c => !chars.contains c
        return (natText (if before.length = value.length then 0 else before.length + 1), rest,
          latest)
      | "substr" =>
        let (value, rest, latest) ← expression 6 text rest fuel
        let (start, rest, latest) ← expression 6 latest rest fuel
        let (length, rest, latest) ← expression 6 latest rest fuel
        return (part value start length, rest, latest)
      | _ => return (text, rest, text)

end

end Calculation

def expr : Tool := fun arguments => do
  let arguments := if arguments.head? = some "--".toList then arguments.drop 1 else arguments
  if arguments.isEmpty then
    usage "missing operand"
    return 2
  let result := Calculation.expression 0 [] arguments (64 * (arguments.length + 2))
  match result with
  | .error fault =>
    complain fault.message
    return 2
  | .ok (value, [], _) =>
    Step.printLine value
    return if Calculation.isNull value then 1 else 0
  | .ok (_, extra :: _, _) =>
    complain (Calculation.Fault.unexpected extra).message
    return 2

def factors : (fuel divisor value : Nat) → List Nat
  | 0, _, value => [value]
  | fuel + 1, divisor, value =>
    if value < 2 then []
    else if value < divisor * divisor then [value]
    else if value % divisor = 0 then divisor :: factors fuel divisor (value / divisor)
    else factors fuel (divisor + 1) value

def factor : Tool := fun arguments => do
  let texts ← if arguments.isEmpty then do
      match ← Step.readAll 0 with
      | .ok text => pure ((text.splitBy fun c d => isBlank c == isBlank d).filter fun word =>
        !(word.head?.any isBlank))
      | .error _ => pure []
    else pure arguments
  let mut status := 0
  for text in texts do
    match natural? text with
    | some value =>
      let parts := (factors (value + 2) 2 value).flatMap fun part => ' ' :: natText part
      Step.printLine (natText value ++ ':' :: parts)
    | none =>
      complain (cited text ++ " is not a valid positive integer")
      status := 1
  return status
where
  isBlank (c : Char) : Bool := Arithmetic.isSpace c

/-! Printing. -/

def echo : Tool := fun arguments => do
  let isOption (text : Octets) : Bool :=
    match text with
    | '-' :: c :: letters => (c :: letters).all fun c => "neE".toList.contains c
    | _ => false
  let options := arguments.takeWhile isOption
  let letters := options.flatMap (·.drop 1)
  let escapes := (letters.reverse.find? fun c => c = 'e' || c = 'E') = some 'e'
  let text := Expansion.joinWith [' '] (arguments.drop options.length)
  let (shown, stop) := if escapes then Printing.escapes text else (text, false)
  let output := shown ++ if letters.contains 'n' || stop then [] else ['\n']
  if !output.isEmpty then Step.print output
  return 0

def printf : Tool := fun arguments => do
  let arguments := if arguments.head? = some "--".toList then arguments.drop 1 else arguments
  match arguments with
  | [] =>
    usage "missing operand"
    return 1
  | format :: arguments =>
    let progress := Printing.run format arguments
    let output := progress.chunks.reverse.flatten
    if !output.isEmpty then Step.print output
    for complaint in progress.complaints.reverse do
      let text := complaint.takeWhile (· ≠ ':')
      let reason := complaint.drop (text.length + 2)
      let reason := if reason = "expected numeric value".toList then
        "expected a numeric value".toList
        else if reason = "not completely converted".toList then
          "value not completely converted".toList else reason
      complain (cited text ++ ": " ++ reason)
    match progress.refused with
    | some reason =>
      let spelled := reason.takeWhile (· ≠ ':')
      complain (spelled ++ ": invalid conversion specification")
      return 1
    | none => return if progress.complaints.isEmpty then 0 else 1

def test (closed : Bool) : Tool := fun arguments => do
  if closed && arguments.getLast? ≠ some [']'] then
    complain "missing ']'"
    return 2
  let texts := if closed then arguments.dropLast else arguments
  tryCatch (do return if ← Condition.holds texts then 0 else 1) fun stop =>
    if stop = .fault then return 2 else throw stop

def interval? (text : Octets) : Option Nat :=
  let unit := match text.getLast? with
    | some 's' => some 1
    | some 'm' => some 60
    | some 'h' => some 3600
    | some 'd' => some 86400
    | _ => none
  let digits := if unit.isSome then text.dropLast else text
  match Printing.doublePrefix? digits with
  | some ⟨value, _, []⟩ =>
    if value.negative then none
    else
      match decimal? (digits.dropWhile Arithmetic.isSpace) with
      | some (value, places) => some (value.toNat * unit.getD 1 * 1000000 / 10 ^ places)
      | none => some (10 ^ 15)
  | _ => none

def sleep : Tool := optioned ⟨"", "", []⟩ 1 fun found => do
  if found.operands.isEmpty then
    usage "missing operand"
    return 1
  match found.operands.find? fun text => (interval? text).isNone with
  | some text =>
    usage ("invalid time interval " ++ cited text)
    return 1
  | none =>
    Step.pass (found.operands.filterMap interval?).sum
    return 0

def printenv : Tool := fun arguments => do
  let environment ← Step.environment
  if arguments.isEmpty then
    for (name, value) in environment.reverse do Step.printLine (name ++ '=' :: value)
    return 0
  let mut status := 0
  for name in arguments do
    match environment.lookup name with
    | some value => Step.printLine value
    | none => status := 1
  return status

/-! Dumps. -/

structure DumpForm where
  letter : Char
  size : Nat

namespace DumpForm

def width (form : DumpForm) : Nat :=
  let among (widths : List Nat) : Nat := widths.getD (form.size.log2) 0
  match form.letter with
  | 'x' => 2 * form.size
  | 'o' => among [3, 6, 11, 22]
  | 'u' => among [3, 5, 10, 20]
  | 'd' => among [4, 6, 11, 20]
  | _ => 3

def charText (c : Char) : Octets :=
  if c = '\x00' then "\\0"
  else if isPrintable c then [c]
  else
    match escapeLetter? c with
    | some letter => ['\\', letter]
    | none => padded 3 (Nat.toDigits 8 c.toNat)
where
  padded (width : Nat) (digits : Octets) : Octets :=
    List.replicate (width - digits.length) '0' ++ digits

def field (form : DumpForm) (word : Octets) : Octets :=
  let value := word.foldr (fun c value => 256 * value + c.toNat) 0
  match form.letter with
  | 'x' => charText.padded form.width (Nat.toDigits 16 value)
  | 'o' => charText.padded form.width (Nat.toDigits 8 value)
  | 'u' => natText value
  | 'd' =>
    let limit := 256 ^ form.size
    (toString (if 2 * value < limit then (value : Int) else (value : Int) - limit)).toList
  | _ => charText (Char.ofNat value)

end DumpForm

def spread (count width blanks : Nat) : (left : Nat) → List Octets → Octets
  | 0, _ => []
  | _, [] => []
  | left + 1, field :: rest =>
    let before := blanks * (left + 1) / count
    let after := blanks * left / count
    List.replicate (before - after + width - field.length) ' ' ++ field ++
      spread count width blanks left rest

def dumpRow (rowSize columns : Nat) (form : DumpForm) (row : Octets) : Octets :=
  let count := rowSize / form.size
  let fields := (groups form.size (row.length + 1) row).map form.field
  let blanks := columns - count * form.width
  spread count form.width blanks count fields

def dumpRows (rowSize : Nat) (all : Bool) (address : Nat → Octets) (shown : Octets → List Octets) :
    (fuel offset : Nat) → (before : Option Octets) → (marked : Bool) → Octets → List Octets
  | 0, _, _, _, _ => []
  | fuel + 1, offset, before, marked, text =>
    if text.isEmpty then if (address offset).isEmpty then [] else [address offset]
    else
      let row := text.take rowSize
      let rest := text.drop rowSize
      let next := dumpRows rowSize all address shown fuel (offset + row.length) (some row)
      if !all && before = some row && row.length = rowSize then
        if marked then next true rest else ['*'] :: next true rest
      else
        let lead := address offset
        let blank := List.replicate lead.length ' '
        ((shown row).zipIdx.map fun (line, index) =>
          (if index = 0 then lead else blank) ++ line) ++ next false rest

def dumpForms : (fuel : Nat) → Octets → Except Octets (List DumpForm)
  | 0, _ => .ok []
  | _ + 1, [] => .ok []
  | fuel + 1, letter :: rest => do
    if letter = 'c' || letter = 'a' then return ⟨'c', 1⟩ :: (← dumpForms fuel rest)
    let digits := rest.takeWhile Char.isDigit
    let size := if digits.isEmpty then 4 else digitValue digits
    if !("doux".toList.contains letter && [1, 2, 4, 8].contains size) then throw (letter :: rest)
    return ⟨letter, size⟩ :: (← dumpForms fuel (rest.drop digits.length))

def od : Tool := optioned ⟨"bcdovx", "AtNjw", [("address-radix", 'A'), ("format", 't'),
    ("read-bytes", 'N'), ("skip-bytes", 'j'), ("width", 'w'), ("output-duplicates", 'v')]⟩
    1 fun found => do
  let named := found.options.mapM fun (letter, text) =>
    match letter with
    | 't' => dumpForms (text.length + 1) text
    | 'b' => .ok [⟨'o', 1⟩]
    | 'c' => .ok [⟨'c', 1⟩]
    | 'd' => .ok [⟨'u', 2⟩]
    | 'o' => .ok [⟨'o', 2⟩]
    | 'x' => .ok [⟨'x', 2⟩]
    | _ => .ok []
  match named with
  | .error text =>
    complain ("invalid character '" ++ text.take 1 ++ "' in type string " ++
      cited ((found.value? 't').getD []))
    return 1
  | .ok named =>
    let forms := if named.flatten.isEmpty then [⟨'o', 2⟩] else named.flatten
    let mut all : Octets := []
    let mut any := false
    let mut status := 0
    for path in if found.operands.isEmpty then [['-']] else found.operands do
      match ← content path with
      | .ok more =>
        all := all ++ more
        any := true
      | .error reason =>
        complain (shown path ++ ": " ++ reason)
        status := 1
    if !any then return status
    let skipped := ((found.value? 'j').bind natural?).getD 0
    let text := all.drop skipped
    let text := text.take (((found.value? 'N').bind natural?).getD text.length)
    let rowSize := max 1 (((found.value? 'w').bind natural?).getD 16)
    let columns := (forms.map fun form => (form.width + 1) * (rowSize / form.size)).foldl max 0
    let address (offset : Nat) : Octets :=
      match found.value? 'A' with
      | some ['n'] => []
      | some ['x'] => DumpForm.charText.padded 6 (Nat.toDigits 16 offset)
      | some ['d'] => DumpForm.charText.padded 7 (natText offset)
      | _ => DumpForm.charText.padded 7 (Nat.toDigits 8 offset)
    for line in dumpRows rowSize (found.has 'v') address
        (fun row => forms.map fun form => dumpRow rowSize columns form row)
        (text.length + 2) skipped none false text do
      Step.printLine line
    return status

end Modelsmith.Shell.Tool
