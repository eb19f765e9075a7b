import Modelsmith.Shell.Pattern

/-! Regular expressions, in the basic and the extended notation. -/

set_option autoImplicit false

namespace Modelsmith.Shell

inductive Regex.Edge where
  | lineStart
  | lineEnd
  | textStart
  | textEnd
  | wordStart
  | wordEnd
  | word (inverted : Bool)
  deriving DecidableEq

inductive Regex where
  | empty
  | octet (c : Char)
  | any
  | set (inverted : Bool) (members : List Member)
  | edge (edge : Regex.Edge)
  | sequence (first second : Regex)
  | either (first second : Regex)
  | repeated (body : Regex) (least : Nat) (most : Option Nat)
  | group (number : Nat) (body : Regex)
  | again (number : Nat)

namespace Regex

def groupCount : Regex → Nat
  | .sequence first second | .either first second => max first.groupCount second.groupCount
  | .repeated body _ _ => body.groupCount
  | .group number body => max number body.groupCount
  | _ => 0

/-! Reading. -/

structure Place where
  rest : Octets
  groups : Nat := 0
  depth : Nat := 0
  strict : Bool := false
  warnings : List String := []

def isWordChar (c : Char) : Bool := c.isAlphanum || c = '_'

def setMembers : (fuel : Nat) → (first : Bool) → Octets → Except String (List Member × Octets)
  | 0, _, _ => .error "Unmatched [, [^, [:, [., or [="
  | _ + 1, true, [] => .error "Invalid regular expression"
  | _ + 1, false, [] => .error "Unmatched [, [^, [:, [., or [="
  | fuel + 1, first, c :: rest =>
    if c = ']' && !first then .ok ([], rest)
    else
      match c, rest with
      | '[', ':' :: after =>
        let name := after.takeWhile (· ≠ ':')
        match after.drop name.length, Pattern.class? (String.ofList name) with
        | ':' :: ']' :: rest, some accepts => do
          let (members, rest) ← setMembers fuel false rest
          return (.named accepts :: members, rest)
        | ':' :: ']' :: _, none => .error "Invalid character class name"
        | _, _ => .error "Unmatched [, [^, [:, [., or [="
      | c, rest =>
        if c = '[' && rest.head? = some '.' && (rest.drop 2).take 2 ≠ ['.', ']'] then
          .error "Invalid collation character"
        else
        let (c, rest) := match c, rest with
          | '[', '.' :: d :: '.' :: ']' :: rest => (d, rest)
          | '[', '=' :: d :: '=' :: ']' :: rest => (d, rest)
          | c, rest => (c, rest)
        match rest with
        | '-' :: last :: after =>
          if last = ']' then do
            let (members, rest) ← setMembers fuel false rest
            return (.range c c :: members, rest)
          else
            let (last, after) := match last, after with
              | '[', '.' :: d :: '.' :: ']' :: after => (d, after)
              | last, after => (last, after)
            if last < c then .error "Invalid range end"
            else do
              let (members, rest) ← setMembers fuel false after
              return (.range c last :: members, rest)
        | rest => do
          let (members, rest) ← setMembers fuel false rest
          return (.range c c :: members, rest)

def readSet (text : Octets) : Except String (Regex × Octets) := do
  let (inverted, body) := match text with
    | '^' :: body => (true, body)
    | body => (false, body)
  let (members, rest) ← setMembers (body.length + 1) true body
  return (.set inverted members, rest)

def counts? (extended : Bool) (text : Octets) : Option (Nat × Option Nat × Octets) :=
  let digits (text : Octets) : Octets := text.takeWhile Char.isDigit
  let value (text : Octets) : Nat :=
    text.foldl (fun value c => 10 * value + (c.toNat - '0'.toNat)) 0
  let closing (text : Octets) : Option Octets :=
    match extended, text with
    | true, '\x7d' :: rest => some rest
    | false, '\\' :: '\x7d' :: rest => some rest
    | _, _ => none
  let least := digits text
  match text.drop least.length with
  | ',' :: after =>
    let most := digits after
    (closing (after.drop most.length)).map fun rest =>
      (value least, if most.isEmpty then none else some (value most), rest)
  | rest =>
    if least.isEmpty then none
    else (closing rest).map fun rest => (value least, some (value least), rest)

def inBraces (extended : Bool) : Octets → Octets
  | [] => []
  | c :: rest =>
    if extended && c = '\x7d' || (!extended && c = '\\' && rest.head? = some '\x7d') then []
    else c :: inBraces extended rest

def countFault (extended : Bool) (text : Octets) : String :=
  let parts := inBraces extended text
  let start := parts.takeWhile (· ≠ ',')
  let isClosed := parts.length < text.length
  let second := (parts.drop (start.length + 1))
  if isClosed || (start.length < parts.length && !start.all Char.isDigit) || second.contains ',' then
    "Invalid content of \\\x7b\\\x7d"
  else "Unmatched \\\x7b"

def areBroken (text : Octets) : Bool :=
  let least := text.takeWhile Char.isDigit
  match text.drop least.length with
  | '\x7d' :: _ => least.isEmpty
  | ',' :: after => (after.dropWhile Char.isDigit).head? = some ','
  | _ => false

def countLimit : Nat := 32767

def escaped? : Char → Option Regex
  | 'w' => some (.set false [.named isWordChar])
  | 'W' => some (.set true [.named isWordChar])
  | 's' => some (.set false [.named Char.isWhitespace])
  | 'S' => some (.set true [.named Char.isWhitespace])
  | 'b' => some (.edge (.word false))
  | 'B' => some (.edge (.word true))
  | '<' => some (.edge .wordStart)
  | '>' => some (.edge .wordEnd)
  | '\x60' => some (.edge .textStart)
  | '\x27' => some (.edge .textEnd)
  | _ => none

def endsBranch (extended : Bool) (place : Place) : Bool :=
  match extended, place.rest with
  | _, [] => true
  | true, '|' :: _ => true
  | true, ')' :: _ => 0 < place.depth || place.strict
  | false, '\\' :: '|' :: _ => true
  | false, '\\' :: ')' :: _ => true
  | _, _ => false

mutual

def readAlternatives (extended : Bool) (place : Place) :
    (fuel : Nat) → Except String (Regex × Place)
  | 0 => .error "Regular expression too big"
  | fuel + 1 => do
    let (first, place) ← readBranch extended .empty true place fuel
    match extended, place.rest with
    | true, '|' :: rest | false, '\\' :: '|' :: rest =>
      let (second, place) ← readAlternatives extended { place with rest } fuel
      return (.either first second, place)
    | _, _ => return (first, place)

def readBranch (extended : Bool) (before : Regex) (atStart : Bool) (place : Place) :
    (fuel : Nat) → Except String (Regex × Place)
  | 0 => .error "Regular expression too big"
  | fuel + 1 => do
    if endsBranch extended place then return (before, place)
    let (atom, place) ← readAtom extended atStart place fuel
    let anchored := match atom with
      | .edge _ => true
      | _ => false
    let (atom, place) ← readRepeats extended atom anchored place fuel
    let joined := match before with
      | .empty => atom
      | before => .sequence before atom
    readBranch extended joined anchored place fuel

def readRepeats (extended : Bool) (atom : Regex) (anchored : Bool) (place : Place) :
    (fuel : Nat) → Except String (Regex × Place)
  | 0 => .error "Regular expression too big"
  | fuel + 1 => do
    if anchored then return (atom, place)
    let more (least : Nat) (most : Option Nat) (rest : Octets) := do
      if countLimit < max least (most.getD 0) then throw "Regular expression too big"
      let again := rest.head? = some '*' || ['\\', '\x7b'].isPrefixOf rest
      if place.strict && !extended && again then throw "Invalid preceding regular expression"
      readRepeats extended (.repeated atom least most) false { place with rest } fuel
    match extended, place.rest with
    | _, '*' :: rest => more 0 none rest
    | true, '+' :: rest | false, '\\' :: '+' :: rest => more 1 none rest
    | true, '?' :: rest | false, '\\' :: '?' :: rest => more 0 (some 1) rest
    | true, '\x7b' :: rest =>
      match counts? true rest with
      | some (least, most, rest) =>
        if most.any (· < least) then throw "Invalid content of \\\x7b\\\x7d"
        more least most rest
      | none =>
        if place.strict || areBroken rest then throw (countFault true rest)
        return (atom, place)
    | false, '\\' :: '\x7b' :: rest =>
      match counts? false rest with
      | some (least, most, rest) =>
        if most.any (· < least) then throw "Invalid content of \\\x7b\\\x7d"
        more least most rest
      | none => throw (countFault false rest)
    | _, _ => return (atom, place)

def readAtom (extended atStart : Bool) (place : Place) :
    (fuel : Nat) → Except String (Regex × Place)
  | 0 => .error "Regular expression too big"
  | fuel + 1 => do
    let group (rest : Octets) : Except String (Regex × Place) := do
      let number := place.groups + 1
      let (body, inner) ← readAlternatives extended
        { place with rest, groups := number, depth := place.depth + 1 } fuel
      match extended, inner.rest with
      | true, ')' :: rest | false, '\\' :: ')' :: rest =>
        return (.group number body, { inner with rest, depth := place.depth })
      | _, _ => throw "Unmatched ( or \\("
    let odd (sign : String) (rest : Octets) (otherwise : Regex) : Except String (Regex × Place) := do
      if place.strict then throw "Invalid preceding regular expression"
      if atStart then
        let warnings := place.warnings ++ [sign ++ " at start of expression"]
        return (.empty, { place with rest, warnings })
      else return (otherwise, { place with rest })
    match extended, place.rest with
    | _, [] => return (.empty, place)
    | _, '.' :: rest => return (.any, { place with rest })
    | _, '[' :: rest =>
      let (members, rest) ← readSet rest
      return (members, { place with rest })
    | true, '(' :: rest => group rest
    | false, '\\' :: '(' :: rest => group rest
    | true, '^' :: rest => return (.edge .lineStart, { place with rest })
    | false, '^' :: rest =>
      return (if atStart then .edge .lineStart else .octet '^', { place with rest })
    | true, '$' :: rest => return (.edge .lineEnd, { place with rest })
    | false, '$' :: rest =>
      let after : Place := { place with rest }
      return (if endsBranch false after then .edge .lineEnd else .octet '$', after)
    | true, '*' :: rest => odd "*" rest (.octet '*')
    | true, '+' :: rest => odd "+" rest (.octet '+')
    | true, '?' :: rest => odd "?" rest (.octet '?')
    | true, '\x7b' :: rest =>
      match counts? true rest with
      | some (_, _, rest) => odd "\x7b...\x7d" rest .empty
      | none =>
        if place.strict then throw "Invalid preceding regular expression"
        return (.octet '\x7b', { place with rest })
    | false, '\\' :: '\x7b' :: rest =>
      if place.strict then throw "Invalid preceding regular expression"
      return (.octet '\x7b', { place with rest })
    | _, '\\' :: [] => throw "Trailing backslash"
    | _, '\\' :: c :: rest =>
      if '1' ≤ c && c ≤ '9' then
        if place.groups < c.toNat - '0'.toNat then throw "Invalid back reference"
        return (.again (c.toNat - '0'.toNat), { place with rest })
      else if c = 'n' then return (.octet '\n', { place with rest })
      else if c = 't' then return (.octet '\t', { place with rest })
      else return ((escaped? c).getD (.octet c), { place with rest })
    | _, c :: rest => return (.octet c, { place with rest })

end

def readWith (extended strict : Bool) (text : Octets) : Except String (Regex × List String) := do
  let (regex, place) ← readAlternatives extended { rest := text, strict } (8 * (text.length + 2))
  match place.rest with
  | [] => return (regex, place.warnings)
  | _ => throw "Unmatched ) or \\)"

def read (extended : Bool) (text : Octets) : Except String Regex :=
  (readWith extended false text).map Prod.fst

def readStrict (extended : Bool) (text : Octets) : Except String Regex :=
  (readWith extended true text).map Prod.fst

end Regex

end Modelsmith.Shell
