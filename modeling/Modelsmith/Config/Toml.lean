import Modelsmith.Json.Reader

/-! TOML documents. Numbers with a point, dates and times fit no option, so all that is kept of
them is that they were there. -/

set_option autoImplicit false

namespace Modelsmith

namespace Toml

/-- How a table came about, which decides how it may be extended. -/
inductive Origin where
  | header
  | implied
  | dotted
  | inline
  deriving DecidableEq

end Toml

inductive Toml where
  | string (text : String)
  | integer (value : Int)
  | boolean (value : Bool)
  | other
  | array (items : List Toml)
  | table (origin : Toml.Origin) (members : List (String × Toml))
  | tables (rows : List (List (String × Toml)))

namespace Toml

abbrev Members := List (String × Toml)

def replace (members : Members) (key : String) (value : Toml) : Members :=
  members.map fun member => if member.1 = key then (key, value) else member

/-- Changes the table at the end of a path; tables that are missing on the way are created.
A dotted path may not go through a table that has a header of its own. -/
def modifyAt (dotted : Bool) (update : (origin : Origin) → Members → Option Members) :
    List String → Origin → Members → Option Members
  | [], origin, members => update origin members
  | key :: path, _, members =>
    match members.lookup key with
    | none => do
      let origin := if dotted then Origin.dotted else Origin.implied
      let inner ← modifyAt dotted update path origin []
      return members ++ [(key, .table origin inner)]
    | some (.table origin inner) => do
      if origin = .inline || (dotted && origin = .header) then none
      let inner ← modifyAt dotted update path origin inner
      return replace members key (.table origin inner)
    | some (.tables rows) => do
      let last ← rows.getLast?
      let last ← modifyAt dotted update path .header last
      return replace members key (.tables (rows.dropLast ++ [last]))
    | some _ => none

def addMember (key : String) (value : Toml) (members : Members) : Option Members :=
  if (members.lookup key).isSome then none else some (members ++ [(key, value)])

/-- Adds a value under a dotted key. The table it goes into must come from dotted keys too, unless
it is the one that the key starts in. -/
def addDotted (path : List String) (key : String) (value : Toml) (members : Members) :
    Option Members :=
  modifyAt true (fun origin inner =>
    if path ≠ [] && origin ≠ .dotted then none else addMember key value inner)
    path .header members

/-- A document while it is read: the tables that are finished, and the one that is open. -/
structure Draft where
  root : Members
  path : List String
  isRow : Bool
  opened : Members

def Draft.start : Draft := ⟨[], [], false, []⟩

def Draft.finish (draft : Draft) : Option Members :=
  match draft.path.getLast? with
  | none => some draft.opened
  | some key =>
    modifyAt false (fun _ inner =>
      match inner.lookup key with
      | some (.tables rows) =>
        if draft.isRow then some (replace inner key (.tables (rows ++ [draft.opened]))) else none
      | some _ => none
      | none =>
        some (inner ++ [(key,
          if draft.isRow then .tables [draft.opened] else .table .header draft.opened)]))
      draft.path.dropLast .header draft.root

/-- Opens the table of a header. One that was only implied so far keeps what is in it. -/
def Draft.openTable (draft : Draft) (path : List String) : Option Draft := do
  let root ← draft.finish
  let key ← path.getLast?
  -- The parents are created even when the table is new.
  let parent ← modifyAt false (fun _ inner => some inner) path.dropLast .header root
  let found := lookupAt path parent
  match found with
  | none => return ⟨parent, path, false, []⟩
  | some (.table .implied inner) =>
    let rest ← modifyAt false (fun _ outer => some (outer.filter fun member => member.1 ≠ key))
      path.dropLast .header parent
    return ⟨rest, path, false, inner⟩
  | some _ => none
where
  /-- What a path leads to, through the last row of each array of tables. -/
  lookupAt : List String → Members → Option Toml
    | [], _ => none
    | [key], members => members.lookup key
    | key :: path, members =>
      match members.lookup key with
      | some (.table _ inner) => lookupAt path inner
      | some (.tables rows) => rows.getLast?.bind (lookupAt path)
      | _ => none

def Draft.openRow (draft : Draft) (path : List String) : Option Draft := do
  let root ← draft.finish
  let parent ← modifyAt false (fun _ inner => some inner) path.dropLast .header root
  match Draft.openTable.lookupAt path parent with
  | none | some (.tables _) => return ⟨parent, path, true, []⟩
  | some _ => none

/-! Characters and blanks. -/

def isInlineBlank (c : Char) : Bool := c = ' ' || c = '\t'

def skipBlank (input : List Char) : List Char := input.dropWhile isInlineBlank

def isPrintable (c : Char) : Bool := c = '\t' || (0x20 ≤ c.toNat && c.toNat ≠ 0x7F)

def lineEnd? : List Char → Option (List Char)
  | '\n' :: rest => some rest
  | '\r' :: '\n' :: rest => some rest
  | _ => none

def skipComment : List Char → List Char
  | '#' :: rest => rest.dropWhile isPrintable
  | input => input

def readLineEnd? (input : List Char) : Option (List Char) :=
  match skipComment (skipBlank input) with
  | [] => some []
  | rest => lineEnd? rest

def skipLines : (fuel : Nat) → List Char → List Char
  | 0, input => input
  | fuel + 1, input =>
    let rest := skipBlank input
    match lineEnd? (skipComment rest) with
    | some rest => skipLines fuel rest
    | none => rest

/-! Strings. -/

def readEscape? : List Char → Option (Char × List Char)
  | 'b' :: rest => some (Char.ofNat 8, rest)
  | 't' :: rest => some ('\t', rest)
  | 'n' :: rest => some ('\n', rest)
  | 'f' :: rest => some (Char.ofNat 12, rest)
  | 'r' :: rest => some ('\r', rest)
  | '"' :: rest => some ('"', rest)
  | '\\' :: rest => some ('\\', rest)
  | 'u' :: rest => scalar? 4 rest
  | 'U' :: rest => scalar? 8 rest
  | _ => none
where
  scalar? (count : Nat) (input : List Char) : Option (Char × List Char) := do
    if input.length < count then none
    let code ← Json.hexValue? (input.take count)
    if code.isValidChar then some (Char.ofNat code, input.drop count) else none

def readBasic? : (fuel : Nat) → List Char → Option (List Char × List Char)
  | 0, _ => none
  | _, [] => none
  | _, '"' :: rest => some ([], rest)
  | fuel + 1, '\\' :: rest => do
    let (c, rest) ← readEscape? rest
    let (text, rest) ← readBasic? fuel rest
    return (c :: text, rest)
  | fuel + 1, c :: rest => do
    if !isPrintable c then none
    let (text, rest) ← readBasic? fuel rest
    return (c :: text, rest)

def readLiteral? : List Char → Option (List Char × List Char)
  | [] => none
  | '\x27' :: rest => some ([], rest)
  | c :: rest => do
    if !isPrintable c then none
    let (text, rest) ← readLiteral? rest
    return (c :: text, rest)

/-- A run of quotes inside or at the end of a string of several lines. Three close it, and up to
two more before them belong to the text. -/
def quoteRun (quote : Char) (input : List Char) : Nat × List Char :=
  let count := (input.takeWhile (· = quote)).length
  (count, input.drop count)

def skipContinuation? (input : List Char) : Option (List Char) :=
  match lineEnd? (skipBlank input) with
  | some rest => some (go rest.length rest)
  | none => none
where
  go : Nat → List Char → List Char
    | 0, input => input
    | fuel + 1, input =>
      match lineEnd? (skipBlank input) with
      | some rest => go fuel rest
      | none => skipBlank input

def readLongText? (quote : Char) (escapes : Bool) :
    (fuel : Nat) → List Char → Option (List Char × List Char)
  | 0, _ => none
  | _, [] => none
  | fuel + 1, c :: rest =>
    if c = quote then
      let (count, after) := quoteRun quote (c :: rest)
      if 3 ≤ count then
        if count ≤ 5 then some (List.replicate (count - 3) quote, after) else none
      else
        (readLongText? quote escapes fuel after).map fun (text, rest) =>
          (List.replicate count quote ++ text, rest)
    else if escapes && c = '\\' then
      match skipContinuation? rest with
      | some rest => readLongText? quote escapes fuel rest
      | none =>
        match readEscape? rest with
        | some (c, rest) =>
          (readLongText? quote escapes fuel rest).map fun (text, rest) => (c :: text, rest)
        | none => none
    else
      match lineEnd? (c :: rest) with
      | some rest =>
        (readLongText? quote escapes fuel rest).map fun (text, rest) => ('\n' :: text, rest)
      | none =>
        if isPrintable c then
          (readLongText? quote escapes fuel rest).map fun (text, rest) => (c :: text, rest)
        else none

def afterOpening (input : List Char) : List Char := (lineEnd? input).getD input

def readString? : List Char → Option (String × List Char)
  | '"' :: '"' :: '"' :: rest =>
    (readLongText? '"' true (rest.length + 1) (afterOpening rest)).map fun (text, rest) =>
      (String.ofList text, rest)
  | '\x27' :: '\x27' :: '\x27' :: rest =>
    (readLongText? '\x27' false (rest.length + 1) (afterOpening rest)).map fun (text, rest) =>
      (String.ofList text, rest)
  | '"' :: rest =>
    (readBasic? (rest.length + 1) rest).map fun (text, rest) => (String.ofList text, rest)
  | '\x27' :: rest => (readLiteral? rest).map fun (text, rest) => (String.ofList text, rest)
  | _ => none

/-! Keys. -/

def isBareKey (c : Char) : Bool := c.isAlphanum || c = '_' || c = '-'

def readKeyPart? : List Char → Option (String × List Char)
  | '"' :: rest =>
    (readBasic? (rest.length + 1) rest).map fun (text, rest) => (String.ofList text, rest)
  | '\x27' :: rest => (readLiteral? rest).map fun (text, rest) => (String.ofList text, rest)
  | input =>
    match input.takeWhile isBareKey with
    | [] => none
    | key => some (String.ofList key, input.dropWhile isBareKey)

def readParts? : (fuel : Nat) → List Char → Option (List String × List Char)
  | 0, _ => none
  | fuel + 1, input => do
    let (part, rest) ← readKeyPart? (skipBlank input)
    match skipBlank rest with
    | '.' :: rest =>
      let (parts, rest) ← readParts? fuel rest
      return (part :: parts, rest)
    | rest => return ([part], rest)

/-- How deep arrays and tables may be nested, be it in brackets or along a key. -/
def levelLimit : Nat := 79

def readKey? (input : List Char) : Option (List String × List Char) := do
  let (parts, rest) ← readParts? (input.length + 1) input
  if parts.length ≤ levelLimit then some (parts, rest) else none

/-! Values. -/

def digitsIn? (base : Nat) : List Char → Option Nat
  | [] => none
  | digits =>
    let grouped := digits.splitOn '_'
    if grouped.any List.isEmpty then none
    else
      grouped.flatten.foldl (fun value digit => do
        let digit ← Json.hexDigit? digit
        if digit < base then return base * (← value) + digit else none) (some 0)

def decimal? (digits : List Char) : Option Nat :=
  match digits with
  | '0' :: _ :: _ => none
  | digits => digitsIn? 10 digits

def integerOf? : List Char → Option Int
  | '0' :: 'x' :: digits => (digitsIn? 16 digits).map Int.ofNat
  | '0' :: 'o' :: digits => (digitsIn? 8 digits).map Int.ofNat
  | '0' :: 'b' :: digits => (digitsIn? 2 digits).map Int.ofNat
  | '+' :: digits => (decimal? digits).map Int.ofNat
  | '-' :: digits => (decimal? digits).map fun value => -(value : Int)
  | digits => (decimal? digits).map Int.ofNat

def splitAt (isMark : Char → Bool) (text : List Char) : List Char × Option (List Char) :=
  match text.dropWhile (!isMark ·) with
  | [] => (text, none)
  | _ :: rest => (text.takeWhile (!isMark ·), some rest)

def isDigits (digits : List Char) : Bool := (digitsIn? 10 digits).isSome

/-- Whether a word is a number with a point or an exponent, or the name of such a number. One that
is too large is none; one that is too small is. -/
def isFloat (word : List Char) : Bool :=
  let (sign, unsigned) := Numeral.readSign word
  if unsigned = ['i', 'n', 'f'] ∨ unsigned = ['n', 'a', 'n'] then true
  else
    let (mantissa, exponent) := splitAt (fun c => c = 'e' || c = 'E') unsigned
    let (whole, fraction) := splitAt (· = '.') mantissa
    let power := exponent.map Numeral.readSign
    let numeral : Numeral := {
      negative := decide (sign = some '-')
      whole := whole.filter (· ≠ '_')
      fraction := fraction.map (·.filter (· ≠ '_'))
      exponent := power.map fun (sign, digits) => ⟨'e', sign, digits.filter (· ≠ '_')⟩ }
    (decimal? whole).isSome && (fraction.isSome || exponent.isSome) &&
      (fraction.map isDigits).getD true && (power.map fun (_, digits) => isDigits digits).getD true
      && (numeral.negative || numeral.value.isFinite)

def digitsOf? (count : Nat) (digits : List Char) : Option Nat :=
  if digits.length = count && digits.all Char.isDigit then some (digitValue digits) else none

def daysIn (year month : Nat) : Nat :=
  if month = 2 then
    if year % 4 = 0 ∧ (year % 100 ≠ 0 ∨ year % 400 = 0) then 29 else 28
  else if [4, 6, 9, 11].contains month then 30
  else 31

def isDate (word : List Char) : Bool :=
  match word.splitOn '-' with
  | [year, month, day] =>
    match digitsOf? 4 year, digitsOf? 2 month, digitsOf? 2 day with
    | some year, some month, some day =>
      1 ≤ month && month ≤ 12 && 1 ≤ day && day ≤ daysIn year month
    | _, _, _ => false
  | _ => false

def isBelow (bound : Nat) (digits : List Char) : Bool :=
  ((digitsOf? 2 digits).map (decide <| · < bound)).getD false

def isTime (word : List Char) : Bool :=
  let (clock, fraction) := splitAt (· = '.') word
  (match clock.splitOn ':' with
    | [hour, minute, second] => isBelow 24 hour && isBelow 60 minute && isBelow 61 second
    | _ => false) &&
    (fraction.map fun digits => !digits.isEmpty && digits.all Char.isDigit).getD true

def isOffset (word : List Char) : Bool :=
  match word.splitOn ':' with
  | [hour, minute] => isBelow 24 hour && isBelow 60 minute
  | _ => false

def isZonedTime (word : List Char) : Bool :=
  let (time, offset) := splitAt (fun c => c = '+' || c = '-') word
  match offset with
  | some offset => isTime time && isOffset offset
  | none =>
    isTime word ||
      (match word.getLast? with
        | some last => (last = 'Z' || last = 'z') && isTime word.dropLast
        | none => false)

def isDateTime (word : List Char) : Bool :=
  match splitAt (fun c => c = 'T' || c = 't') word with
  | (date, some time) => isDate date && isZonedTime time
  | _ => false

def isWordPart (c : Char) : Bool :=
  c.isAlphanum || c = '_' || c = '+' || c = '-' || c = '.' || c = ':'

/-- What follows a date: nothing of it, or one blank and a time. -/
def afterDate? (rest : List Char) : Option (List Char) :=
  match rest with
  | ' ' :: later =>
    let time := later.takeWhile isWordPart
    if time.isEmpty then some rest
    else if isZonedTime time then some (later.dropWhile isWordPart)
    else none
  | _ => some rest

def readWord? (input : List Char) : Option (Toml × List Char) :=
  let word := input.takeWhile isWordPart
  let rest := input.dropWhile isWordPart
  if word = ['t', 'r', 'u', 'e'] then some (.boolean true, rest)
  else if word = ['f', 'a', 'l', 's', 'e'] then some (.boolean false, rest)
  else
    match integerOf? word with
    | some value => if -(2 ^ 63) ≤ value ∧ value < 2 ^ 63 then some (.integer value, rest) else none
    | none =>
      if isFloat word || isTime word || isDateTime word then some (.other, rest)
      else if isDate word then (afterDate? rest).map (Toml.other, ·)
      else none

mutual
/-- A value that may hold `levels` values in each other. -/
def readValue? (levels : Nat) : (fuel : Nat) → List Char → Option (Toml × List Char)
  | 0, _ => none
  | fuel + 1, input =>
    match input with
    | '[' :: rest =>
      if levels = 0 then none
      else (readItems? (levels - 1) fuel rest).map fun (items, rest) => (.array items, rest)
    | '{' :: rest =>
      if levels = 0 then none
      else
        match skipBlank rest with
        | '}' :: rest => some (.table .inline [], rest)
        | rest =>
          (readPairs? (levels - 1) fuel [] rest).map fun (members, rest) =>
            (.table .inline members, rest)
    | c :: rest =>
      if c = '"' ∨ c = '\x27' then
        (readString? (c :: rest)).map fun (text, rest) => (.string text, rest)
      else readWord? (c :: rest)
    | [] => none

def readItems? (levels : Nat) : (fuel : Nat) → List Char → Option (List Toml × List Char)
  | 0, _ => none
  | fuel + 1, input =>
    match skipLines input.length input with
    | ']' :: rest => some ([], rest)
    | input =>
      match readValue? levels fuel input with
      | none => none
      | some (item, rest) =>
        match skipLines rest.length rest with
        | ']' :: rest => some ([item], rest)
        | ',' :: rest =>
          (readItems? levels fuel rest).map fun (items, rest) => (item :: items, rest)
        | _ => none

def readPairs? (levels : Nat) :
    (fuel : Nat) → Members → List Char → Option (Members × List Char)
  | 0, _, _ => none
  | fuel + 1, members, input =>
    match readKey? input with
    | some (parts, '=' :: rest) =>
      match readValue? levels fuel (skipBlank rest) with
      | none => none
      | some (value, rest) =>
        match addDotted parts.dropLast (parts.getLast?.getD "") value members with
        | none => none
        | some members =>
          match skipBlank rest with
          | '}' :: rest => some (members, rest)
          | ',' :: rest => readPairs? levels fuel members rest
          | _ => none
    | _ => none
end

/-! Documents. -/

def readLine? (draft : Draft) (input : List Char) : Option (Draft × List Char) :=
  match skipBlank input with
  | '[' :: '[' :: rest => do
    let (path, rest) ← readKey? rest
    let ']' :: ']' :: rest := rest | none
    return (← draft.openRow path, ← readLineEnd? rest)
  | '[' :: rest => do
    let (path, rest) ← readKey? rest
    let ']' :: rest := rest | none
    return (← draft.openTable path, ← readLineEnd? rest)
  | input =>
    match readLineEnd? input with
    | some rest => some (draft, rest)
    | none => do
      let (parts, rest) ← readKey? input
      let '=' :: rest := rest | none
      let rest := skipBlank rest
      let (value, rest) ← readValue? levelLimit (rest.length + 1) rest
      let opened ← addDotted parts.dropLast (parts.getLast?.getD "") value draft.opened
      return ({ draft with opened }, ← readLineEnd? rest)

def readLines? : (fuel : Nat) → Draft → List Char → Option Draft
  | _, draft, [] => some draft
  | 0, _, _ => none
  | fuel + 1, draft, input => do
    let (draft, rest) ← readLine? draft input
    readLines? fuel draft rest

/-- A document as the members of its outermost table. A byte order mark may come first. -/
def read? (input : List Char) : Option Members := do
  let input := if input.head? = some (Char.ofNat 0xFEFF) then input.drop 1 else input
  (← readLines? input.length Draft.start input).finish

end Toml

end Modelsmith
