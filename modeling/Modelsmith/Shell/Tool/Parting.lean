import Modelsmith.Shell.Tool.Starting
import Modelsmith.Shell.Tool.Text

/-! Files in parts: of a size, or cut where lines match. -/

set_option autoImplicit false

namespace Modelsmith.Shell.Tool

def writePart (name part : Octets) : Step (Option Octets) := do
  match (← Step.files).write (Text.ofOctets name) part with
  | .ok files =>
    Step.setFiles files
    return none
  | .error fault => return some (shown name ++ ": " ++ fault.reason)

/-! Parts of a size. -/

def countedText : (places : Nat) → Nat → Octets
  | 0, _ => []
  | places + 1, number =>
    countedText places (number / 26) ++ [Char.ofNat ('a'.toNat + number % 26)]

/-- The two or more letters that count the parts: one more place when all but the last leading
letter are used. -/
def partSuffix : (fuel : Nat) → (places : Nat) → Nat → Octets
  | 0, _, _ => []
  | fuel + 1, places, number =>
    let room := 26 ^ places - 26 ^ (places - 1)
    if number < room then countedText places number
    else 'z' :: partSuffix fuel (places + 1) (number - room)

def lineCounts (arguments : List Octets) : List Octets :=
  arguments.map fun text =>
    match text with
    | '-' :: c :: digits =>
      if c.isDigit && digits.all Char.isDigit then "-l" ++ c :: digits else text
    | _ => text

def split : Tool := fun arguments =>
  let spec : Options := ⟨"", "bl", [("bytes", 'b'), ("lines", 'l')]⟩
  withOptions spec 1 (lineCounts arguments) fun found => do
    let refuse (words : Octets) : Step Nat := do
      complain words
      return 1
    let size (letter : Char) (words : String) (otherwise : Nat) : Except Octets Nat :=
      match found.value? letter with
      | none => .ok otherwise
      | some text =>
        match size? text with
        | some (size + 1) => .ok (size + 1)
        | _ => .error (words ++ ": " ++ cited text)
    match size 'l' "invalid number of lines" 1000, size 'b' "invalid number of bytes" 0 with
    | .error words, _ | _, .error words => refuse words
    | .ok count, .ok octets =>
      if found.has 'l' && found.has 'b' then
        usage "cannot split in more than one way"
        return 1
      if let extra :: _ := found.operands.drop 2 then
        usage ("extra operand " ++ cited extra)
        return 1
      let path := found.operands.headD ['-']
      let base := (found.operands.drop 1).headD ['x']
      match ← content path with
      | .error reason => refuse ("cannot open " ++ quoted path ++ " for reading: " ++ reason)
      | .ok text =>
        let parts := if octets = 0 then
            (groups count (text.length + 1) (lines text)).map List.flatten
          else groups octets (text.length + 1) text
        for (part, number) in parts.zipIdx do
          if let some words ← writePart (base ++ partSuffix (number + 1) 2 number) part then
            return ← refuse words
        return 0

/-! Parts between lines. -/

inductive Cut where
  | before (line : Nat)
  | matching (expression : Regex.Matcher)

def readCut (text : Octets) : Except Octets Cut :=
  match text with
  | '/' :: body =>
    if body.getLast? ≠ some '/' then .error (shown text ++ ": closing delimiter '/' missing")
    else
      match Regex.read false body.dropLast with
      | .ok regex => .ok (.matching (regex.matcher false))
      | .error reason => .error (cited text ++ ": invalid regular expression: " ++ reason)
  | _ =>
    match natural? text with
    | some (line + 1) => .ok (.before (line + 1))
    | some 0 => .error (text ++ ": line number must be greater than zero")
    | none => .error (cited text ++ ": invalid pattern")

/-- The line in front of which to cut, counted from zero. The search for a match starts behind the
line where the part begins. -/
def cutPlace? (lines : Array Octets) (gone : Nat) : Cut → Option Nat
  | .before line => if gone < line && line ≤ lines.size then some (line - 1) else none
  | .matching expression =>
    (List.range lines.size).find? fun place =>
      (gone < place || (gone = 0 && place = 0)) &&
        (expression.find (.ofOctets (bare (lines.getD place []))) 0).isSome

def cutPlaces (lines : Array Octets) (gone : Nat) : List (Octets × Cut) → List Nat × Option Octets
  | [] => ([], none)
  | (text, cut) :: rest =>
    match cutPlace? lines gone cut, cut with
    | some place, _ =>
      let (places, failure?) := cutPlaces lines place rest
      (place :: places, failure?)
    | none, .before _ => ([], some (cited text ++ ": line number out of range"))
    | none, .matching _ => ([], some (cited text ++ ": match not found"))

def csplit : Tool := optioned ⟨"kszq", "fn", [("prefix", 'f'), ("keep-files", 'k'),
    ("digits", 'n'), ("quiet", 's'), ("silent", 's'), ("elide-empty-files", 'z')]⟩ 1 fun found => do
  let refuse (words : Octets) : Step Nat := do
    complain words
    return 1
  let base := (found.value? 'f').getD "xx"
  let digits := ((found.value? 'n').bind natural?).getD 2
  match found.operands with
  | [] =>
    usage "missing operand"
    return 1
  | [only] =>
    usage ("missing operand after " ++ cited only)
    return 1
  | path :: texts =>
    match texts.mapM readCut, ← content path with
    | .error words, _ => refuse words
    | _, .error reason => refuse ("cannot open " ++ quoted path ++ " for reading: " ++ reason)
    | .ok cuts, .ok text =>
      let lines := (lines text).toArray
      let (places, failure?) := cutPlaces lines 0 (texts.zip cuts)
      let parts := ((0 :: places).zip (places ++ [lines.size])).map fun (start, finish) =>
        (lines.extract start finish).toList.flatten
      let parts := parts.filter fun part => !(found.has 'z' && part.isEmpty)
      for part in parts do
        if !found.has 's' && !found.has 'q' then Step.printLine (natText part.length)
      if failure?.isNone || found.has 'k' then
        for (part, number) in parts.zipIdx do
          let suffix := List.replicate (digits - (natText number).length) '0' ++ natText number
          if let some words ← writePart (base ++ suffix) part then return ← refuse words
      match failure? with
      | some words => refuse words
      | none => return 0

end Modelsmith.Shell.Tool
