import Modelsmith.Shell.Machine

/-! Arithmetic on 64-bit integers. -/

set_option autoImplicit false

namespace Modelsmith.Shell.Arithmetic

def wrap (value : Int) : Int := value.bmod (2 ^ 64)

def digitsValue (base : Nat) (digits : List Nat) : Nat :=
  digits.foldl (fun value digit => min (value * base + digit) (2 ^ 64)) 0

def digit? (base : Nat) (c : Char) : Option Nat :=
  let value :=
    if c.isDigit then c.toNat - '0'.toNat
    else if 'a' ≤ c ∧ c ≤ 'z' then c.toNat - 'a'.toNat + 10
    else if 'A' ≤ c ∧ c ≤ 'Z' then c.toNat - 'A'.toNat + 10
    else base
  if value < base then some value else none

def digits (base : Nat) : Octets → List Nat × Octets
  | [] => ([], [])
  | c :: rest =>
    match digit? base c with
    | some value =>
      let (values, rest) := digits base rest
      (value :: values, rest)
    | none => ([], c :: rest)

def magnitude (base : Option Nat) (text : Octets) : Nat × Octets :=
  let plain (base : Nat) : Nat × Octets :=
    let (values, rest) := digits base text
    (digitsValue base values, rest)
  match base, text with
  | some base, _ => plain base
  | none, '0' :: x :: c :: rest =>
    if (x = 'x' || x = 'X') && (digit? 16 c).isSome then
      let (values, rest) := digits 16 (c :: rest)
      (digitsValue 16 values, rest)
    else plain 8
  | none, '0' :: _ => plain 8
  | none, _ => plain 10

def isSpace (c : Char) : Bool := c = ' ' || (9 ≤ c.toNat && c.toNat ≤ 13)

def largest : Nat := 2 ^ 63 - 1

def signed? (base : Option Nat) (text : Octets) : Option (Int × Octets) :=
  let text := text.dropWhile isSpace
  let (negative, body) := match text with
    | '-' :: body => (true, body)
    | '+' :: body => (false, body)
    | body => (false, body)
  if !(body.head?.any Char.isDigit) then none
  else
    let (value, rest) := magnitude base body
    some (if negative then -(value : Int) else value, rest)

def integer? (base : Option Nat) (lenient : Bool) (text : Octets) : Option Int :=
  match signed? base text with
  | some (value, rest) =>
    if (rest.dropWhile isSpace).isEmpty && -(2 ^ 63) ≤ value && value ≤ largest then some value
    else none
  | none => if lenient && (text.dropWhile isSpace).isEmpty then some 0 else none

inductive Operation where
  | multiply
  | divide
  | remainder
  | add
  | subtract
  | shiftLeft
  | shiftRight
  | less
  | lessEqual
  | greater
  | greaterEqual
  | equal
  | unequal
  | bitAnd
  | bitXor
  | bitOr
  deriving DecidableEq

def Operation.rank : Operation → Nat
  | .multiply | .divide | .remainder => 0
  | .add | .subtract => 1
  | .shiftLeft | .shiftRight => 2
  | .less | .lessEqual | .greater | .greaterEqual => 3
  | .equal | .unequal => 4
  | .bitAnd => 5
  | .bitXor => 6
  | .bitOr => 7

inductive Symbol where
  | finish
  | number (value : Int)
  | name (name : Octets)
  | operation (operation : Operation)
  | assign (operation : Option Operation)
  | and
  | or
  | not
  | complement
  | question
  | colon
  | open
  | close
  | unknown

def orAssign (operation : Operation) : Octets → Symbol × Octets
  | '=' :: rest => (.assign (some operation), rest)
  | rest => (.operation operation, rest)

def symbol (text : Octets) : Symbol × Octets :=
  match text.dropWhile fun c => c = ' ' || c = '\t' || c = '\n' with
  | [] => (.finish, [])
  | '=' :: '=' :: rest => (.operation .equal, rest)
  | '=' :: rest => (.assign none, rest)
  | '>' :: '=' :: rest => (.operation .greaterEqual, rest)
  | '>' :: '>' :: rest => orAssign .shiftRight rest
  | '>' :: rest => (.operation .greater, rest)
  | '<' :: '=' :: rest => (.operation .lessEqual, rest)
  | '<' :: '<' :: rest => orAssign .shiftLeft rest
  | '<' :: rest => (.operation .less, rest)
  | '|' :: '|' :: rest => (.or, rest)
  | '|' :: rest => orAssign .bitOr rest
  | '&' :: '&' :: rest => (.and, rest)
  | '&' :: rest => orAssign .bitAnd rest
  | '!' :: '=' :: rest => (.operation .unequal, rest)
  | '!' :: rest => (.not, rest)
  | '(' :: rest => (.open, rest)
  | ')' :: rest => (.close, rest)
  | '*' :: rest => orAssign .multiply rest
  | '/' :: rest => orAssign .divide rest
  | '%' :: rest => orAssign .remainder rest
  | '+' :: rest => orAssign .add rest
  | '-' :: rest => orAssign .subtract rest
  | '^' :: rest => orAssign .bitXor rest
  | '~' :: rest => (.complement, rest)
  | '?' :: rest => (.question, rest)
  | ':' :: rest => (.colon, rest)
  | c :: rest =>
    if c.isDigit then
      let (value, rest) := magnitude none (c :: rest)
      (.number (min value largest : Nat), rest)
    else if isNameStart c then
      let name := c :: rest.takeWhile isNameChar
      (.name name, (c :: rest).drop name.length)
    else (.unknown, rest)

structure Place where
  symbol : Symbol
  rest : Octets

def Place.next (place : Place) : Place :=
  let (symbol, rest) := Arithmetic.symbol place.rest
  ⟨symbol, rest⟩

def fail {α : Type} (text : Octets) (reason : String) : Step α :=
  Step.refuse ("arithmetic expression: " ++ reason ++ ": \"" ++ text ++ ['"'])

def truth (value : Bool) : Int := if value then 1 else 0

def onBits (combine : Nat → Nat → Nat) (left right : Int) : Int :=
  wrap (combine (left % 2 ^ 64).toNat (right % 2 ^ 64).toNat)

def apply (text : Octets) (operation : Operation) (left right : Int) : Step Int :=
  match operation with
  | .multiply => return wrap (left * right)
  | .divide => if right = 0 then fail text "division by zero" else return wrap (left.tdiv right)
  | .remainder => if right = 0 then fail text "division by zero" else return left.tmod right
  | .add => return wrap (left + right)
  | .subtract => return wrap (left - right)
  | .shiftLeft => return wrap (left * 2 ^ (right % 64).toNat)
  | .shiftRight => return left / 2 ^ (right % 64).toNat
  | .less => return truth (left < right)
  | .lessEqual => return truth (left ≤ right)
  | .greater => return truth (right < left)
  | .greaterEqual => return truth (right ≤ left)
  | .equal => return truth (left = right)
  | .unequal => return truth (left ≠ right)
  | .bitAnd => return onBits Nat.land left right
  | .bitXor => return onBits Nat.xor left right
  | .bitOr => return onBits Nat.lor left right

def valueOf (name : Octets) : Step Int := do
  let value := (← Step.value? name).getD []
  match integer? none true value with
  | some number => return number
  | none => Step.refuse ("Illegal number: " ++ value)

mutual

def assignment (text : Octets) (live : Bool) (place : Place) :
    (fuel : Nat) → Step (Int × Place)
  | 0 => fail text "expecting primary"
  | fuel + 1 => do
    match place.symbol, place.next.symbol with
    | .name name, .assign operation =>
      let (value, after) ← assignment text live place.next.next fuel
      if !live then return (value, after)
      let value ← match operation with
        | some operation => apply text operation (← valueOf name) value
        | none => pure value
      Step.assign name (toString value).toList
      return (value, after)
    | _, _ => conditional text live place fuel

def conditional (text : Octets) (live : Bool) (place : Place) :
    (fuel : Nat) → Step (Int × Place)
  | 0 => fail text "expecting primary"
  | fuel + 1 => do
    let (test, after) ← disjunction text live place fuel
    match after.symbol with
    | .question =>
      let (first, after) ← assignment text (live && test ≠ 0) after.next fuel
      match after.symbol with
      | .colon =>
        let (second, after) ← conditional text (live && test = 0) after.next fuel
        return (if test ≠ 0 then first else second, after)
      | _ => fail text "expecting ':'"
    | _ => return (test, after)

def disjunction (text : Octets) (live : Bool) (place : Place) :
    (fuel : Nat) → Step (Int × Place)
  | 0 => fail text "expecting primary"
  | fuel + 1 => do
    let (first, after) ← conjunction text live place fuel
    match after.symbol with
    | .or =>
      let (second, after) ← disjunction text (live && first = 0) after.next fuel
      return (truth (first ≠ 0 || second ≠ 0), after)
    | _ => return (first, after)

def conjunction (text : Octets) (live : Bool) (place : Place) :
    (fuel : Nat) → Step (Int × Place)
  | 0 => fail text "expecting primary"
  | fuel + 1 => do
    let (left, after) ← primary text live place fuel
    let (first, after) ← match after.symbol with
      | .operation operation => operations text live left operation 8 after fuel
      | _ => pure (left, after)
    match after.symbol with
    | .and =>
      let (second, after) ← conjunction text (live && first ≠ 0) after.next fuel
      return (truth (first ≠ 0 && second ≠ 0), after)
    | _ => return (first, after)

def operations (text : Octets) (live : Bool) (left : Int) (operation : Operation) (rank : Nat)
    (place : Place) : (fuel : Nat) → Step (Int × Place)
  | 0 => fail text "expecting primary"
  | fuel + 1 => do
    let (right, after) ← primary text live place.next fuel
    let (right, after) ← match after.symbol with
      | .operation next =>
        if next.rank < operation.rank then operations text live right next operation.rank after fuel
        else pure (right, after)
      | _ => pure (right, after)
    let value ← if live then apply text operation left right else pure right
    match after.symbol with
    | .operation next =>
      if next.rank < rank then operations text live value next rank after fuel
      else return (value, after)
    | _ => return (value, after)

def primary (text : Octets) (live : Bool) (place : Place) : (fuel : Nat) → Step (Int × Place)
  | 0 => fail text "expecting primary"
  | fuel + 1 => do
    match place.symbol with
    | .open =>
      let (value, after) ← assignment text live place.next fuel
      match after.symbol with
      | .close => return (value, after.next)
      | _ => fail text "expecting ')'"
    | .number value => return (value, place.next)
    | .name name =>
      let value ← if live then valueOf name else pure 0
      return (value, place.next)
    | .operation .add => primary text live place.next fuel
    | .operation .subtract =>
      let (value, after) ← primary text live place.next fuel
      return (wrap (-value), after)
    | .not =>
      let (value, after) ← primary text live place.next fuel
      return (truth (value = 0), after)
    | .complement =>
      let (value, after) ← primary text live place.next fuel
      return (wrap (-value - 1), after)
    | _ => fail text "expecting primary"

end

def evaluate (text : Octets) : Step Int := do
  let (value, after) ← assignment text true (Place.next ⟨.finish, text⟩) (16 * (text.length + 2))
  match after.symbol with
  | .finish => return value
  | _ => fail text "expecting EOF"

end Modelsmith.Shell.Arithmetic
