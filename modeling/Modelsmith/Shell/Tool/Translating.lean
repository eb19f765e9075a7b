import Modelsmith.Shell.Printing
import Modelsmith.Shell.Tool.Basic

/-! Changing characters one by one. -/

set_option autoImplicit false

namespace Modelsmith.Shell.Tool

namespace Translating

inductive Case where
  | upper
  | lower
  deriving DecidableEq

inductive Part where
  | octet (c : Char)
  | range (first last : Char)
  | named (name : String) (accepts : Char → Bool)

abbrev Mark := Char × Bool

def marks : (fuel : Nat) → Octets → List Mark
  | 0, _ | _, [] => []
  | fuel + 1, '\\' :: c :: after =>
    if Printing.isOctal c then
      let digits := ((c :: after).take 3).takeWhile Printing.isOctal
      let value := digits.foldl (fun value c => 8 * value + (c.toNat - '0'.toNat)) 0
      if value < 256 then (Char.ofNat value, true) :: marks fuel ((c :: after).drop digits.length)
      else (Char.ofNat (value / 8), true) :: marks fuel (after.drop 1)
    else
      let plain := match c with
        | 'a' => '\x07'
        | 'b' => '\x08'
        | 'f' => '\x0c'
        | 'n' => '\n'
        | 'r' => '\r'
        | 't' => '\t'
        | 'v' => '\x0b'
        | c => c
      (plain, true) :: marks fuel after
  | fuel + 1, c :: rest => (c, false) :: marks fuel rest

def upToClosing (delimiter : Char) : List Mark → Option (Octets × List Mark)
  | first :: second :: rest =>
    if first = (delimiter, false) && second = (']', false) then some ([], rest)
    else (upToClosing delimiter (second :: rest)).map fun (name, rest) => (first.1 :: name, rest)
  | _ => none

def printable (c : Char) : String :=
  if isPrintable c then String.ofList [c]
  else
    let digits := Nat.toDigits 8 c.toNat
    String.ofList ('\\' :: List.replicate (3 - digits.length) '0' ++ digits)

def bracketed? (rest : List Mark) : Option (Except String (Part × List Mark)) :=
  match rest with
  | (':', false) :: after =>
    (upToClosing ':' after).map fun (name, behind) =>
      match Pattern.class? (String.ofList name) with
      | some accepts => .ok (.named (String.ofList name) accepts, behind)
      | none => .error (if name.isEmpty then "missing character class name '[::]'"
          else "invalid character class " ++ String.ofList (cited name))
  | _ => none

def parts : (fuel : Nat) → List Mark → Except String (List Part)
  | fuel + 1, first :: second :: third :: rest => do
    let bracket := if first = ('[', false) then bracketed? (second :: third :: rest) else none
    match bracket with
    | some result =>
      let (part, rest) ← result
      return part :: (← parts fuel rest)
    | none =>
      if second = ('-', false) then
        if third.1 < first.1 then
          throw ("range-endpoints of '" ++ printable first.1 ++ "-" ++ printable third.1 ++
            "' are in reverse collating sequence order")
        return .range first.1 third.1 :: (← parts fuel rest)
      else return .octet first.1 :: (← parts fuel (second :: third :: rest))
  | _, rest => return rest.map fun (c, _) => .octet c

def allChars : Octets := (List.range 256).map Char.ofNat

structure Cell where
  char : Char
  case? : Option Case
  first : Bool

def Part.case? : Part → Option Case
  | .named "upper" _ => some .upper
  | .named "lower" _ => some .lower
  | _ => none

def Part.chars : Part → Octets
  | .octet c => [c]
  | .range first last => allChars.filter fun c => first ≤ c && c ≤ last
  | .named _ accepts => allChars.filter accepts

def Part.cells (part : Part) : List Cell :=
  part.chars.zipIdx.map fun (c, index) => ⟨c, part.case?, index = 0⟩

def Part.isClass : Part → Bool
  | .named _ _ => true
  | _ => false

def behind (cells : List Cell) : List Cell := (cells.drop 1).dropWhile fun cell => !cell.first

def aligned : (fuel : Nat) → List Cell → List Cell → Option (List (Cell × Cell) × Nat)
  | fuel + 1, cells, second :: others =>
    match cells with
    | [] => if second.first && second.case?.isSome then none else some ([], 0)
    | first :: rest =>
      if second.first && second.case?.isSome && !(first.first && first.case?.isSome) then none
      else
        let result := if second.case?.isSome then
          aligned fuel (behind (first :: rest)) (behind (second :: others))
          else aligned fuel rest others
        result.map fun (pairs, left) => ((first, second) :: pairs, left)
  | _, cells, _ => some ([], cells.length)

def identity : Array Char := allChars.toArray

def tableOf (pairs : List (Cell × Cell)) : Array Char :=
  pairs.foldl
    (fun table (first, second) =>
      match first.case?, second.case? with
      | some .lower, some .upper =>
        table.mapIdx fun index c => if (Char.ofNat index).isLower then (Char.ofNat index).toUpper else c
      | some .upper, some .lower =>
        table.mapIdx fun index c => if (Char.ofNat index).isUpper then (Char.ofNat index).toLower else c
      | _, _ => table.setIfInBounds first.char.toNat second.char)
    identity

structure Way where
  complement : Bool
  delete : Bool
  squeeze : Bool
  truncate : Bool

def members (complement : Bool) (set : List Part) : Array Bool :=
  let inside := set.foldl
    (fun table part => part.chars.foldl (fun table c => table.setIfInBounds c.toNat true) table)
    (Array.replicate 256 false)
  if complement then inside.map (!·) else inside

def has (set : Array Bool) (c : Char) : Bool := set[c.toNat]?.getD false

def table (way : Way) (set other : List Part) : Except String (Array Char) := do
  let inside := members way.complement set
  let cells := other.flatMap Part.cells
  if other.any fun part => part.isClass && part.case?.isNone then
    throw ("when translating, the only character classes that may appear in\n" ++
      "string2 are 'upper' and 'lower'")
  let domain : List Cell := if way.complement then
      (allChars.filter (has inside)).map fun c => ⟨c, none, true⟩
    else set.flatMap Part.cells
  let plain := if way.complement then
    cells.map fun (cell : Cell) => { cell with case? := none, first := true } else cells
  match aligned (domain.length + plain.length + 1) domain plain with
  | none => throw "misaligned [:upper:] and/or [:lower:] construct"
  | some (pairs, left) =>
    if left = 0 || way.truncate then return tableOf pairs
    match cells.getLast?, other.getLast? with
    | some last, some part =>
      if part.isClass then
        throw ("when translating with string1 longer than string2,\n" ++
          "the latter string must not end with a character class")
      let more := (domain.drop (domain.length - left)).map fun cell =>
        (cell, { last with case? := none })
      return tableOf (pairs ++ more)
    | _, _ => throw "when not truncating set1, string2 must be non-empty"

def squeezed (set : Array Bool) (text : Octets) : Octets :=
  (text.foldl
    (fun (kept : Octets) c => if kept.head? = some c && has set c then kept else c :: kept)
    []).reverse

def change (way : Way) (set : List Part) (other : Option (List Part)) :
    Except String (Octets → Octets) := do
  let inside := members way.complement set
  match other with
  | none =>
    if way.delete then return fun text => text.filter fun c => !has inside c
    else return squeezed inside
  | some other =>
    let others := members false other
    if way.delete then return fun text => squeezed others (text.filter fun c => !has inside c)
    let table ← table way set other
    let translated (text : Octets) : Octets := text.map fun c => table[c.toNat]?.getD c
    return fun text => if way.squeeze then squeezed others (translated text) else translated text

end Translating

def tr : Tool := fun arguments =>
  let spec : Options := ⟨"ACcdst", "", [("complement", 'c'), ("delete", 'd'),
    ("squeeze-repeats", 's'), ("truncate-set1", 't')]⟩
  withLeadingOptions spec 1 arguments fun found => do
    let way : Translating.Way := ⟨found.has 'c' || found.has 'C', found.has 'd', found.has 's',
      found.has 't'⟩
    let least := if way.delete == way.squeeze then 2 else 1
    let most := if way.delete && !way.squeeze then 1 else 2
    let help : Step Unit := do
      Step.report ("Try '" ++ (← name) ++ " --help' for more information.")
    match found.operands with
    | [] =>
      usage "missing operand"
      return 1
    | first :: rest =>
      if found.operands.length < least then
        complain ("missing operand after " ++ cited first)
        let words := if way.squeeze then
          "Two strings must be given when both deleting and squeezing repeats."
          else "Two strings must be given when translating."
        Step.report words.toList
        help
        return 1
      if most < found.operands.length then
        complain ("extra operand " ++ cited (found.operands.getD most []))
        if found.operands.length = 2 then
          Step.report "Only one string may be given when deleting without squeezing repeats."
        help
        return 1
      let read (text : Octets) : Except String (List Translating.Part) :=
        let marks := Translating.marks (text.length + 1) text
        Translating.parts (marks.length + 1) marks
      let result := do Translating.change way (← read first) (← rest.head?.mapM read)
      match result with
      | .error message =>
        complain message.toList
        return 1
      | .ok change =>
        let outcome ← flow false ['-'] fun text => do
          let changed := change text
          if !changed.isEmpty then Step.print changed
        match outcome with
        | .error reason =>
          complain ("read error: " ++ reason).toList
          return 1
        | .ok _ => return 0

end Modelsmith.Shell.Tool
