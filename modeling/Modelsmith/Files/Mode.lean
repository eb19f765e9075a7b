import Modelsmith.Files.Node

/-! Modes of nodes: the bits in letters, and changes of them as users write them. -/

set_option autoImplicit false

namespace Modelsmith.Files.Mode

def all : Nat := 0o7777

def forEach (bits : Nat) : Nat := bits * 0o111

def without (bits others : Nat) : Nat := bits &&& (all - (others &&& all))

inductive Origin where
  | plain
  | copied
  /-- The bits, and the right to search if it is a directory or somebody has that right. -/
  | searchable
  deriving DecidableEq

structure Change where
  /-- The bits of the users it is about; none for all users, as far as the mask lets it. -/
  affected : Nat
  sign : Char
  origin : Origin
  value : Nat
  mentioned : Nat
  deriving DecidableEq

def isOctal (c : Char) : Bool := '0' ≤ c && c ≤ '7'

def isSign (c : Char) : Bool := c = '+' || c = '-' || c = '='

def octalValue (digits : Octets) : Nat :=
  digits.foldl (fun value c => 8 * value + (c.toNat - '0'.toNat)) 0

def classBits : Char → Nat
  | 'u' => 0o4700
  | 'g' => 0o2070
  | 'o' => 0o1007
  | _ => all

def letterBits : Char → Nat
  | 'r' => forEach 4
  | 'w' => forEach 2
  | 'x' => forEach 1
  | 's' => 0o6000
  | 't' => 0o1000
  | _ => 0

def changesFor (affected : Nat) : (fuel : Nat) → Octets → Option (List Change)
  | fuel + 1, sign :: rest => do
    guard (isSign sign)
    let (change, rest) ← one sign rest
    if rest.isEmpty then return [change]
    return change :: (← changesFor affected fuel rest)
  | _, _ => none
where
  one (sign : Char) (rest : Octets) : Option (Change × Octets) := do
    let first := rest.headD ' '
    let made (origin : Origin) (value : Nat) : Change :=
      ⟨affected, sign, origin, value, if affected = 0 then value else affected &&& value⟩
    if isOctal first then
      let digits := rest.takeWhile isOctal
      guard (affected = 0 && digits.length = rest.length && octalValue digits ≤ all)
      return (⟨all, sign, .plain, octalValue digits, all⟩, [])
    else if first = 'u' || first = 'g' || first = 'o' then
      return (made .copied (classBits first &&& 0o777), rest.drop 1)
    else
      let letters := rest.takeWhile fun c => "rwxXst".toList.contains c
      let value := letters.foldl (fun value c => value ||| letterBits c) 0
      return (made (if letters.contains 'X' then .searchable else .plain) value,
        rest.drop letters.length)

def clause (text : Octets) : Option (List Change) :=
  let users := text.takeWhile fun c => "ugoa".toList.contains c
  let affected := users.foldl (fun bits c => bits ||| classBits c) 0
  changesFor affected (text.length + 1) (text.drop users.length)

def clauses : Octets → List Octets
  | [] => [[]]
  | c :: rest =>
    if c = ',' then [] :: clauses rest
    else
      match clauses rest with
      | part :: parts => (c :: part) :: parts
      | [] => [[c]]

def read? (text : Octets) : Option (List Change) :=
  if isOctal (text.headD ' ') then
    if text.all isOctal && octalValue text ≤ all then
      let value := octalValue text
      let mentioned := if text.length < 5 then (value &&& 0o6000) ||| 0o1777 else all
      some [⟨all, '=', .plain, value, mentioned⟩]
    else none
  else (List.flatten ·) <$> (clauses text).mapM clause

/-- The mode after one change. A directory keeps the upper bits that were not asked for. -/
def applyChange (isDirectory : Bool) (mask : Nat) (mode : Nat) (change : Change) : Nat :=
  let kept := if isDirectory then without 0o6000 change.mentioned else 0
  let spread (bits : Nat) : Nat := if mode &&& bits &&& change.value = 0 then 0 else bits
  let value := match change.origin with
    | .plain => change.value
    | .copied => spread (forEach 4) ||| spread (forEach 2) ||| spread (forEach 1)
    | .searchable =>
      if isDirectory || mode &&& forEach 1 ≠ 0 then change.value ||| forEach 1 else change.value
  let reached := if change.affected = 0 then without all mask else change.affected
  let value := without (value &&& reached) kept
  match change.sign with
  | '+' => mode ||| value
  | '-' => without mode value
  | _ =>
    let preserved := (if change.affected = 0 then 0 else without all change.affected) ||| kept
    (mode &&& preserved) ||| value

def apply (changes : List Change) (isDirectory : Bool) (mask mode : Nat) : Nat :=
  changes.foldl (applyChange isDirectory mask) mode

end Modelsmith.Files.Mode
