import Modelsmith.Shell.Tool.Calendar

/-! Lines in order.

A key picks a part of each line, and its letters tell how these parts are compared. What a part
stands for is worked out once for each line.
-/

set_option autoImplicit false

namespace Modelsmith.Shell.Tool

def isBlankChar (c : Char) : Bool := c = ' ' || c = '\t'

def withoutBlanks (text : Octets) : Octets := text.dropWhile isBlankChar

/-! Keys. -/

structure SortKey where
  firstField : Nat := 0
  firstChar : Nat := 0
  lastField : Option Nat := none
  lastChar : Nat := 0
  skipsAtStart : Bool := false
  skipsAtEnd : Bool := false
  letters : List Char := []

def SortKey.isPlain (key : SortKey) : Bool :=
  !key.skipsAtStart && !key.skipsAtEnd && key.letters.isEmpty

def orderLetters : List Char := "bfnr"

def SortKey.withLetters (key : SortKey) (atStart atEnd : Bool) (letters : List Char) : SortKey :=
  let blanks := letters.contains 'b'
  { key with
    skipsAtStart := key.skipsAtStart || (blanks && atStart)
    skipsAtEnd := key.skipsAtEnd || (blanks && atEnd)
    letters := key.letters ++ letters.filter (· ≠ 'b') }

def badKey (words : String) (text : Octets) : Octets :=
  words ++ ": invalid field specification " ++ cited text

def keyNumber (words : String) (text : Octets) : Except Octets (Nat × Octets) :=
  let digits := text.takeWhile Char.isDigit
  if digits.isEmpty then
    .error (words ++ ": invalid count at start of " ++ cited text)
  else .ok (digitValue digits, text.drop digits.length)

def SortKey.read (text : Octets) : Except Octets SortKey := do
  let letters (rest : Octets) : Octets := rest.takeWhile fun c => orderLetters.contains c
  let (field, rest) ← keyNumber "invalid number at field start" text
  if field = 0 then throw (badKey "field number is zero" text)
  let (char, rest) ← match rest with
    | '.' :: after =>
      let (char, rest) ← keyNumber "invalid number after '.'" after
      if char = 0 then throw (badKey "character offset is zero" text)
      pure (char - 1, rest)
    | rest => pure (0, rest)
  let own := letters rest
  let rest := rest.drop own.length
  let key := { firstField := field - 1, firstChar := char : SortKey }.withLetters true false own
  match rest with
  | [] => return key
  | ',' :: after =>
    let (last, rest) ← keyNumber "invalid number after ','" after
    if last = 0 then throw (badKey "field number is zero" text)
    let (lastChar, rest) ← match rest with
      | '.' :: after => keyNumber "invalid number after '.'" after
      | rest => pure (0, rest)
    let more := letters rest
    if more.length < rest.length then throw (badKey "stray character in field spec" text)
    return { key with lastField := some (last - 1), lastChar }.withLetters false true more
  | _ => throw (badKey "stray character in field spec" text)

def pastFields (divider : Option Char) : (count : Nat) → Octets → Octets
  | 0, rest => rest
  | count + 1, rest =>
    match divider with
    | some divider => pastFields (some divider) count ((rest.dropWhile (· ≠ divider)).drop 1)
    | none => pastFields none count ((withoutBlanks rest).dropWhile fun c => !isBlankChar c)

def SortKey.pick (divider : Option Char) (key : SortKey) (line : Octets) : Octets :=
  let start := pastFields divider key.firstField line
  let start := (if key.skipsAtStart then withoutBlanks start else start).drop key.firstChar
  match key.lastField with
  | none => start
  | some last =>
    let rest :=
      if key.lastChar = 0 then
        match divider with
        | some divider => (pastFields (some divider) last line).dropWhile (· ≠ divider)
        | none => pastFields none (last + 1) line
      else
        let rest := pastFields divider last line
        (if key.skipsAtEnd then withoutBlanks rest else rest).drop key.lastChar
    start.take (start.length - rest.length)

/-! Values. -/

inductive SortValue where
  | text (text : Octets)
  | decimal (negative : Bool) (whole : Nat) (places : Octets)

def decimalValue (text : Octets) : SortValue :=
  let text := withoutBlanks text
  let (negative, body) := match text with
    | '-' :: body => (true, body)
    | body => (false, body)
  let whole := body.takeWhile Char.isDigit
  let places := match body.drop whole.length with
    | '.' :: after => after.takeWhile Char.isDigit
    | _ => []
  let places := (places.reverse.dropWhile (· = '0')).reverse
  let isZero := digitValue whole = 0 && places.isEmpty
  .decimal (negative && !isZero) (digitValue whole) places

def SortValue.ofText (letters : List Char) (text : Octets) : SortValue :=
  let text := if letters.contains 'f' then text.map Char.toUpper else text
  if letters.contains 'n' then decimalValue text else .text text

def compareOctets (left right : Octets) : Ordering :=
  if left = right then .eq else if Text.precedes left right then .lt else .gt

def SortValue.compare : SortValue → SortValue → Ordering
  | .text left, .text right => compareOctets left right
  | .decimal negative whole places, .decimal negative' whole' places' =>
    let magnitude := match Ord.compare whole whole' with
      | .eq => compareOctets places places'
      | order => order
    match negative, negative' with
    | true, true => magnitude.swap
    | true, false => .lt
    | false, true => .gt
    | false, false => magnitude
  | _, _ => .eq

/-! Lines. -/

structure SortOrder where
  divider : Option Char
  keys : List SortKey
  stable : Bool
  reversed : Bool

structure SortLine where
  line : Octets
  values : List SortValue

def SortOrder.prepare (order : SortOrder) (line : Octets) : SortLine :=
  ⟨line, order.keys.map fun key => SortValue.ofText key.letters (key.pick order.divider line)⟩

def compareValues : List SortKey → List SortValue → List SortValue → Ordering
  | key :: keys, left :: lefts, right :: rights =>
    match left.compare right with
    | .eq => compareValues keys lefts rights
    | order => if key.letters.contains 'r' then order.swap else order
  | _, _, _ => .eq

def SortOrder.compare (order : SortOrder) (left right : SortLine) : Ordering :=
  let byKeys := compareValues order.keys left.values right.values
  if byKeys ≠ .eq || (order.stable && !order.keys.isEmpty) then byKeys
  else
    let whole := compareOctets left.line right.line
    if order.reversed then whole.swap else whole

def distinct {α : Type} (same : α → α → Bool) : List α → List α
  | [] => []
  | line :: rest =>
    match distinct same rest with
    | [] => [line]
    | next :: others => if same line next then line :: others else line :: next :: others

def dividerOf (texts : List Octets) : Except Octets (Option Char) := do
  let one (text : Octets) : Except Octets Char :=
    match text with
    | [] => .error "empty tab"
    | [c] => .ok c
    | ['\\', '0'] => .ok '\x00'
    | text => .error ("multi-character tab " ++ cited text)
  let dividers ← texts.mapM one
  if dividers.any fun c => dividers.head?.any (c ≠ ·) then throw "incompatible tabs".toList
  return dividers.head?

def sort : Tool := optioned ⟨"bfmnrsuz", "kot", [("reverse", 'r'), ("unique", 'u'),
    ("numeric-sort", 'n'), ("key", 'k'), ("field-separator", 't'), ("output", 'o'),
    ("ignore-case", 'f'), ("stable", 's'), ("ignore-leading-blanks", 'b'), ("merge", 'm'),
    ("zero-terminated", 'z')]⟩ 2 fun found => do
  let refuse (words : Octets) : Step Nat := do
    complain words
    return 2
  let plain := { : SortKey }.withLetters true true
    ((found.options.map Prod.fst).filter orderLetters.contains)
  let texts (letter : Char) : List Octets :=
    (found.options.filter fun (other, _) => other = letter).map Prod.snd
  match (texts 'k').mapM SortKey.read, dividerOf (texts 't') with
  | .error words, _ | .ok _, .error words => refuse words
  | .ok keys, .ok divider =>
    let keys := keys.map fun key =>
      if key.isPlain then
        { key with
          skipsAtStart := plain.skipsAtStart
          skipsAtEnd := plain.skipsAtEnd
          letters := plain.letters }
      else key
    let isPlain := !plain.skipsAtStart && plain.letters.all (· = 'r')
    let keys := if keys.isEmpty && !isPlain then [plain] else keys
    let order : SortOrder := {
      divider
      keys
      stable := found.has 's' || found.has 'u'
      reversed := plain.letters.contains 'r' }
    let ender := if found.has 'z' then '\x00' else '\n'
    let mut all : List SortLine := []
    for path in if found.operands.isEmpty then [['-']] else found.operands do
      match ← content path with
      | .ok text =>
        let lines := (linesBy ender text).map fun line =>
          order.prepare (if line.getLast? = some ender then line.dropLast else line)
        all := all ++ lines
      | .error reason =>
        let words := if reason = "Is a directory" then "read failed: " else "cannot read: "
        return ← refuse (words ++ shown path ++ ": " ++ reason)
    let sorted := all.mergeSort fun left right => order.compare left right ≠ .gt
    let sorted := if found.has 'u' then
        distinct (fun left right => order.compare left right = .eq) sorted
      else sorted
    let text := sorted.flatMap fun line => line.line ++ [ender]
    match found.value? 'o' with
    | none =>
      if !text.isEmpty then Step.print text
      return 0
    | some path =>
      match (← Step.files).write (Text.ofOctets path) text with
      | .ok files =>
        Step.setFiles files
        return 0
      | .error fault =>
        refuse ("open failed: " ++ shown path ++ ": " ++ fault.reason)

/-! Runs of equal lines. -/

def runs {α : Type} (same : α → α → Bool) : List α → List (List α)
  | [] => []
  | line :: rest =>
    match runs same rest with
    | (next :: others) :: more =>
      if same line next then (line :: next :: others) :: more
      else [line] :: (next :: others) :: more
    | more => [line] :: more

def uniq : Tool := fun arguments =>
  let spec : Options :=
    ⟨"cdiu", "", [("count", 'c'), ("repeated", 'd'), ("ignore-case", 'i'), ("unique", 'u')]⟩
  withOptions spec 1 arguments fun found => do
    if let extra :: _ := found.operands.drop 2 then
      usage ("extra operand " ++ cited extra)
      return 1
    let key (line : Octets) : Octets := if found.has 'i' then line.map Char.toLower else line
    let source := found.operands.headD ['-']
    match ← content source with
    | .error reason =>
      let words := if reason = "Is a directory" then "error reading " ++ quoted source
        else shown source
      complain (words ++ ": " ++ reason)
      return 1
    | .ok text =>
      let groups := (runs (fun (_, left) (_, right) => left = right)
        ((bareLines text).map fun line => (line, key line))).map (·.map Prod.fst)
      let kept : List Octets := groups.flatMap fun group =>
        let keep := (!found.has 'd' || 1 < group.length) && (!found.has 'u' || group.length = 1)
        if !keep then []
        else
          let line := group.headD []
          let digits := natText group.length
          [if found.has 'c' then
            List.replicate (7 - digits.length) ' ' ++ digits ++ ' ' :: line
          else line]
      let text := kept.flatMap (· ++ ['\n'])
      match found.operands with
      | _ :: target :: _ =>
        match (← Step.files).write (Text.ofOctets target) text with
        | .ok files => Step.setFiles files
        | .error fault =>
          complain (shown target ++ ": " ++ fault.reason)
          return 1
      | _ => if !text.isEmpty then Step.print text
      return 0

end Modelsmith.Shell.Tool
