import Modelsmith.Shell.Tool.Sorting

/-! Lines of two files that have a field in common. -/

set_option autoImplicit false

namespace Modelsmith.Shell.Tool

structure JoinStyle where
  first : Nat
  second : Nat
  divider : Option Char
  pairs : Bool
  alone : Bool × Bool

namespace JoinStyle

def fields (style : JoinStyle) (line : Octets) : List Octets :=
  match style.divider with
  | some divider => if line.isEmpty then [] else Expansion.splitOnChar divider line
  | none => (line.splitBy fun c d => isBlankChar c = isBlankChar d).filter fun part =>
      !part.all isBlankChar

def key (style : JoinStyle) (second : Bool) (line : List Octets) : Octets :=
  line.getD (if second then style.second else style.first) []

def joined (style : JoinStyle) (left right : Option (List Octets)) : Octets :=
  let field (line : Option (List Octets)) (index : Nat) : Octets := (line.getD []).getD index []
  let common := if left.isSome then field left style.first else field right style.second
  let others (line : Option (List Octets)) (own : Nat) : List Octets :=
    ((List.range (line.getD []).length).filter (· ≠ own)).map (field line)
  let fields := common :: others left style.first ++ others right style.second
  Expansion.joinWith [style.divider.getD ' '] fields ++ ['\n']

def merged (style : JoinStyle) : (fuel : Nat) → List (List Octets) → List (List Octets) →
    List Octets
  | 0, _, _ | _, [], [] => []
  | fuel + 1, lefts, rights =>
    let own := lefts.head?.map (style.key false)
    let other := rights.head?.map (style.key true)
    let order := match own, other with
      | some own, some other => compareOctets own other
      | some _, none => .lt
      | none, _ => .gt
    match order with
    | .lt => (if style.alone.1 then [style.joined lefts.head? none] else []) ++
        style.merged fuel lefts.tail rights
    | .gt => (if style.alone.2 then [style.joined none rights.head?] else []) ++
        style.merged fuel lefts rights.tail
    | .eq =>
      let same := lefts.takeWhile fun line => some (style.key false line) = own
      let others := rights.takeWhile fun line => some (style.key true line) = own
      (if style.pairs then same.flatMap fun left =>
          others.map fun right => style.joined (some left) (some right) else []) ++
        style.merged fuel (lefts.drop same.length) (rights.drop others.length)

end JoinStyle

def join : Tool := optioned ⟨"", "12ajtv", []⟩ 1 fun found => do
  let refuse (words : Octets) : Step Nat := do
    complain words
    return 1
  let mut places : Nat × Nat := (0, 0)
  for (letter, text) in found.options do
    if letter = '1' || letter = '2' || letter = 'j' then
      match natural? text with
      | some (index + 1) =>
        places := (if letter = '2' then places.1 else index, if letter = '1' then places.2 else index)
      | _ => return ← refuse ("invalid field number: " ++ cited text)
  let has (letters : List Char) (file : Char) : Bool :=
    found.options.any fun (letter, text) => letters.contains letter && text = [file]
  match found.operands with
  | [first, second] =>
    let style : JoinStyle := {
      first := places.1
      second := places.2
      divider := (found.value? 't').bind List.head?
      pairs := !found.has 'v'
      alone := (has ['a', 'v'] '1', has ['a', 'v'] '2') }
    let mut sides : List (List (List Octets)) := []
    for path in [first, second] do
      match ← content path with
      | .error reason => return ← refuse (shown path ++ ": " ++ reason)
      | .ok text => sides := sides ++ [(bareLines text).map style.fields]
    let lefts := sides.headD []
    let rights := sides.getD 1 []
    Step.print (style.merged (lefts.length + rights.length + 1) lefts rights).flatten
    return 0
  | [only] =>
    usage ("missing operand after " ++ cited only)
    return 1
  | [] =>
    usage "missing operand"
    return 1
  | _ :: _ :: extra :: _ =>
    usage ("extra operand " ++ cited extra)
    return 1

end Modelsmith.Shell.Tool
