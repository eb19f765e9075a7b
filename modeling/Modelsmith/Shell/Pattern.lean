import Modelsmith.Text.Utf8

/-! Patterns of names and texts. -/

set_option autoImplicit false

namespace Modelsmith.Shell

inductive Member where
  | range (first last : Char)
  | named (accepts : Char → Bool)

def Member.accepts (member : Member) (c : Char) : Bool :=
  match member with
  | .range first last => first ≤ c && c ≤ last
  | .named accepts => accepts c

inductive Item where
  | octet (c : Char)
  | one
  | many
  | set (inverted : Bool) (members : List Member)

abbrev Pattern := List Item

namespace Pattern

def class? (name : String) : Option (Char → Bool) :=
  let blank (c : Char) : Bool := c = ' ' || c = '\t'
  let control (c : Char) : Bool := c.toNat < 32 || c.toNat = 127
  let graphic (c : Char) : Bool := 32 < c.toNat && c.toNat < 127
  match name with
  | "alnum" => some Char.isAlphanum
  | "alpha" => some Char.isAlpha
  | "blank" => some blank
  | "cntrl" => some control
  | "digit" => some Char.isDigit
  | "graph" => some graphic
  | "lower" => some Char.isLower
  | "print" => some fun c => graphic c || c = ' '
  | "punct" => some fun c => graphic c && !c.isAlphanum
  | "space" => some fun c => blank c || (9 ≤ c.toNat && c.toNat ≤ 13)
  | "upper" => some Char.isUpper
  | "xdigit" => some fun c => c.isDigit || ('a' ≤ c && c ≤ 'f') || ('A' ≤ c && c ≤ 'F')
  | _ => none

abbrev Quoted := List (Char × Bool)

def namedClass? (text : Quoted) : Option (Member × Quoted) :=
  match text with
  | (':', _) :: rest =>
    let name := (rest.takeWhile fun (c, _) => c ≠ ':').map Prod.fst
    match rest.drop name.length, class? (String.ofList name) with
    | (':', _) :: (']', _) :: rest, some accepts => some (.named accepts, rest)
    | _, _ => none
  | _ => none

def members? : (fuel : Nat) → (first : Bool) → Quoted → Option (List Member × Quoted)
  | 0, _, _ => none
  | _ + 1, _, [] => none
  | fuel + 1, first, (c, quoted) :: rest =>
    if c = ']' && !quoted && !first then some ([], rest)
    else
      match if c = '[' && !quoted then namedClass? rest else none with
      | some (member, rest) =>
        (members? fuel false rest).map fun (members, rest) => (member :: members, rest)
      | none =>
        let (c, rest) :=
          match c, quoted, rest with
          | '\\', false, (next, _) :: after => (next, after)
          | c, _, rest => (c, rest)
        match rest with
        | ('-', false) :: (last, lastQuoted) :: after =>
          if last = ']' && !lastQuoted then
            (members? fuel false rest).map fun (members, rest) => (.range c c :: members, rest)
          else
            let (last, after) :=
              match last, lastQuoted, after with
              | '\\', false, (next, _) :: after => (next, after)
              | last, _, after => (last, after)
            (members? fuel false after).map fun (members, rest) => (.range c last :: members, rest)
        | _ => (members? fuel false rest).map fun (members, rest) => (.range c c :: members, rest)

def compileFrom : (fuel : Nat) → Quoted → Pattern
  | 0, _ => []
  | _ + 1, [] => []
  | fuel + 1, (c, true) :: rest => .octet c :: compileFrom fuel rest
  | fuel + 1, ('?', false) :: rest => .one :: compileFrom fuel rest
  | fuel + 1, ('*', false) :: rest =>
    match compileFrom fuel rest with
    | .many :: items => .many :: items
    | items => .many :: items
  | fuel + 1, ('[', false) :: rest =>
    let (inverted, body) :=
      match rest with
      | ('!', false) :: body => (true, body)
      | body => (false, body)
    match members? (body.length + 1) true body with
    | some (members, rest) => .set inverted members :: compileFrom fuel rest
    | none => .octet '[' :: compileFrom fuel rest
  | fuel + 1, ('\\', false) :: (c, _) :: rest => .octet c :: compileFrom fuel rest
  | fuel + 1, (c, false) :: rest => .octet c :: compileFrom fuel rest

def compile (text : Quoted) : Pattern := compileFrom (text.length + 1) text

def isActive (pattern : Pattern) : Bool :=
  pattern.any fun item =>
    match item with
    | .octet _ => false
    | _ => true

mutual

def «matches» : Pattern → Octets → Bool
  | [], text => text.isEmpty
  | .octet c :: items, text =>
    match text with
    | d :: rest => c = d && «matches» items rest
    | [] => false
  | .one :: items, text =>
    match text with
    | _ :: rest => «matches» items rest
    | [] => false
  | .set inverted members :: items, text =>
    match text with
    | d :: rest => (members.any (·.accepts d)) != inverted && «matches» items rest
    | [] => false
  | .many :: items, text => matchesLater items text
termination_by pattern text => (pattern.length, text.length)

def matchesLater (items : Pattern) (text : Octets) : Bool :=
  «matches» items text ||
    match text with
    | _ :: rest => matchesLater items rest
    | [] => false
termination_by (items.length, text.length + 1)

end

def frontLength? (pattern : Pattern) (text : Octets) (longest : Bool) : Option Nat :=
  let lengths := List.range (text.length + 1)
  (if longest then lengths.reverse else lengths).find? fun length =>
    pattern.matches (text.take length)

def backLength? (pattern : Pattern) (text : Octets) (longest : Bool) : Option Nat :=
  let lengths := List.range (text.length + 1)
  (if longest then lengths.reverse else lengths).find? fun length =>
    pattern.matches (text.drop (text.length - length))

end Pattern

end Modelsmith.Shell
