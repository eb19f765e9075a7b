import Modelsmith.Text.Utf8

/-! Dividing texts into fields.

White space among the dividers counts once and not at the ends; every other divider ends a field.
-/

set_option autoImplicit false

namespace Modelsmith.Shell

inductive Part where
  | fixed (quoted : Bool) (text : Octets)
  | loose (text : Octets)
  | boundary

abbrev Field := List (Bool × Octets)

namespace Field

def text (field : Field) : Octets := field.flatMap Prod.snd

end Field

namespace Splitting

def joint : Char := '\x00'

def isBlank (c : Char) : Bool := c = ' ' || c = '\t' || c = '\n' || c = joint

structure State where
  fields : List Field := []
  parts : Field := []
  chars : Octets := []
  blank : Bool := false

namespace State

def isEmpty (state : State) : Bool := state.parts.isEmpty && state.chars.isEmpty

def settle (state : State) : State :=
  if state.chars.isEmpty then state
  else { state with parts := (false, state.chars.reverse) :: state.parts, chars := [] }

def finish (state : State) : State :=
  let state := state.settle
  { state with fields := state.parts.reverse :: state.fields, parts := [] }

def step (dividers : Octets) (state : State) (c : Char) : State :=
  let divides := dividers.contains c || c = joint
  let blank := divides && isBlank c
  if state.blank then
    if blank then state
    else if divides then { state with blank := false }
    else { state with blank := false, chars := [c] }
  else if divides then
    if blank && state.isEmpty then state
    else { state.finish with blank }
  else { state with chars := c :: state.chars }

def part (dividers : Octets) (state : State) : Part → State
  | .fixed quoted text =>
    let state := { state.settle with blank := false }
    { state with parts := (quoted, text) :: state.parts }
  | .loose text =>
    let state := { state with blank := false }
    text.foldl (step dividers) state
  | .boundary => { state.finish with blank := false }

end State

def fields (dividers : Octets) (parts : List Part) : List Field :=
  let state := parts.foldl (State.part dividers) {}
  (if state.isEmpty then state.fields else state.finish.fields).reverse

abbrev Line := List (Char × Bool)

def trimEnd (dividers : Octets) (line : Line) : Line :=
  (line.reverse.dropWhile fun (c, safe) => !safe && isBlank c && dividers.contains c).reverse

def lastField (dividers : Octets) (line : Line) : Octets :=
  let divides : Char × Bool → Bool := fun (c, safe) => !safe && dividers.contains c
  let trimmed := trimEnd dividers line
  let single := trimEnd dividers (trimmed.dropLast)
  let ended := trimmed.getLast?.any divides
  (if ended && !(single.any divides) then single else trimmed).map Prod.fst

def lineFields (dividers : Octets) : Nat → Line → List Octets
  | 0, _ => []
  | 1, line =>
    let line := line.dropWhile fun (c, safe) => !safe && isBlank c && dividers.contains c
    if line.isEmpty then [] else [lastField dividers line]
  | count + 2, line =>
    let divides : Char × Bool → Bool := fun (c, safe) => !safe && dividers.contains c
    let blank : Char × Bool → Bool := fun (c, safe) => !safe && isBlank c && dividers.contains c
    let line := line.dropWhile blank
    if line.isEmpty then []
    else
      let field := line.takeWhile fun c => !divides c
      let rest := (line.drop field.length).dropWhile blank
      let rest :=
        if (line.drop field.length).head?.any blank then
          if rest.head?.any divides then rest.drop 1 else rest
        else rest.drop 1
      field.map Prod.fst :: lineFields dividers (count + 1) rest

end Splitting

end Modelsmith.Shell
