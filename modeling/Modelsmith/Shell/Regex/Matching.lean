import Modelsmith.Shell.Regex

/-! Matching regular expressions. A match is the leftmost one, and of those the longest; its groups
are those of the first way to it, where what comes first in the expression is tried first.

An expression becomes a program whose threads all read a line together, so the time is bounded by
the lengths of both. Only an expression that takes up the text of an earlier group is matched by
trying out. -/

set_option autoImplicit false

namespace Modelsmith.Shell.Regex

structure Subject where
  line : Array Char
  manyLines : Bool := false
  bound : Option Nat := none

namespace Subject

def ofOctets (line : Octets) : Subject := { line := line.toArray }

def isWordAt (subject : Subject) (index : Nat) : Bool := subject.line[index]?.any isWordChar

def isWordBefore (subject : Subject) (index : Nat) : Bool :=
  0 < index && subject.isWordAt (index - 1)

def holds (subject : Subject) (index : Nat) : Edge → Bool
  | .textStart => index = 0
  | .textEnd => index = subject.line.size
  | .lineStart => index = 0 || (subject.manyLines && subject.line[index - 1]? = some '\n')
  | .lineEnd => index = subject.line.size || (subject.manyLines && subject.line[index]? = some '\n')
  | .wordStart => !subject.isWordBefore index && subject.isWordAt index
  | .wordEnd => subject.isWordBefore index && !subject.isWordAt index
  | .word inverted => (subject.isWordBefore index != subject.isWordAt index) != inverted

def next? (subject : Subject) (index : Nat) : Option Char :=
  if subject.bound.any (· ≤ index) then none else subject.line[index]?

def slice (subject : Subject) (start finish : Nat) : Octets :=
  (subject.line.extract start finish).toList

end Subject

abbrev Groups := List (Nat × Nat × Nat)

structure Found where
  finish : Nat
  groups : Groups

def Found.text (found : Found) (subject : Subject) (number : Nat) : Octets :=
  match found.groups.find? fun (other, _) => other = number with
  | some (_, start, finish) => subject.slice start finish
  | none => []

/-! Programs. -/

inductive Instruction where
  | read (accepts : Char → Bool)
  | edge (edge : Edge)
  | fork (first second : Int)
  | jump (distance : Int)
  | mark (number : Nat)
  | finish

def sameChar (ignoreCase : Bool) (c d : Char) : Bool :=
  if ignoreCase then c.toLower = d.toLower else c = d

def accepts (ignoreCase inverted : Bool) (members : List Member) (c : Char) : Bool :=
  let accepted (c : Char) : Bool := members.any (·.accepts c)
  (accepted c || (ignoreCase && (accepted c.toLower || accepted c.toUpper))) != inverted

def starred (body : List Instruction) : List Instruction :=
  .fork 1 (body.length + 2) :: body ++ [.jump (-(body.length + 1))]

def upTo (body : List Instruction) : Nat → List Instruction
  | 0 => []
  | count + 1 =>
    let rest := upTo body count
    .fork 1 (body.length + rest.length + 1) :: body ++ rest

def instructions (ignoreCase : Bool) : Regex → List Instruction
  | .empty | .again _ => []
  | .octet c => [.read (sameChar ignoreCase c)]
  | .any => [.read fun _ => true]
  | .set inverted members => [.read (accepts ignoreCase inverted members)]
  | .edge kind => [.edge kind]
  | .sequence first second => first.instructions ignoreCase ++ second.instructions ignoreCase
  | .either first second =>
    let former := first.instructions ignoreCase
    let latter := second.instructions ignoreCase
    .fork 1 (former.length + 2) :: former ++ .jump (latter.length + 1) :: latter
  | .group number body =>
    .mark (2 * number) :: body.instructions ignoreCase ++ [.mark (2 * number + 1)]
  | .repeated body least most =>
    let once := body.instructions ignoreCase
    (List.replicate least once).flatten ++
      match most with
      | none => starred once
      | some most => upTo once (most - least)

def recalls : Regex → Bool
  | .again _ => true
  | .sequence first second | .either first second => first.recalls || second.recalls
  | .repeated body _ _ | .group _ body => body.recalls
  | _ => false

structure Matcher where
  regex : Regex
  ignoreCase : Bool
  program : Array Instruction
  recalls : Bool
  groupCount : Nat

def matcher (regex : Regex) (ignoreCase : Bool) : Matcher where
  regex
  ignoreCase
  program := (regex.instructions ignoreCase ++ [Instruction.finish]).toArray
  recalls := regex.recalls
  groupCount := regex.groupCount

def shifted (place : Nat) (distance : Int) : Nat := (place + distance).toNat

def close (program : Array Instruction) (holds : Edge → Bool) :
    (fuel : Nat) → List Nat → Array Bool → List Nat → Array Bool × List Nat
  | 0, _, seen, found | _, [], seen, found => (seen, found)
  | fuel + 1, place :: rest, seen, found =>
    if seen[place]?.getD true then close program holds fuel rest seen found
    else
      let seen := seen.setIfInBounds place true
      match program[place]? with
      | none => close program holds fuel rest seen found
      | some (.read _) | some .finish => close program holds fuel rest seen (place :: found)
      | some (.edge kind) =>
        close program holds fuel (if holds kind then (place + 1) :: rest else rest) seen found
      | some (.fork first second) =>
        close program holds fuel (shifted place first :: shifted place second :: rest) seen found
      | some (.jump distance) =>
        close program holds fuel (shifted place distance :: rest) seen found
      | some (.mark _) => close program holds fuel ((place + 1) :: rest) seen found

abbrev Threads := List (Nat × Nat)

def Matcher.closed (matcher : Matcher) (holds : Edge → Bool) (threads : Threads) : Threads :=
  let size := matcher.program.size
  let (_, found) := threads.foldl
    (fun (seen, found) (place, start) =>
      let (seen, places) := close matcher.program holds (3 * size + 3) [place] seen []
      (seen, places.foldl (fun found place => (place, start) :: found) found))
    (Array.replicate size false, ([] : Threads))
  found.reverse

def Matcher.isFinish (matcher : Matcher) (place : Nat) : Bool :=
  match matcher.program[place]? with
  | some .finish => true
  | _ => false

def Matcher.scan (matcher : Matcher) (subject : Subject) (fixed : Bool) :
    (fuel index : Nat) → Threads → Option (Nat × Nat) → Option (Nat × Nat)
  | 0, _, _, best => best
  | fuel + 1, index, threads, best =>
    let threads := if best.isNone && !fixed then threads ++ [(0, index)] else threads
    let closed : Threads := matcher.closed (subject.holds index) threads
    let best := match closed.find? fun (place, _) => matcher.isFinish place with
      | some (_, start) =>
        match best with
        | some (first, finish) => if start ≤ first then some (start, index) else some (first, finish)
        | none => some (start, index)
      | none => best
    let alive : Threads := match best with
      | some (first, _) => closed.filter fun (_, start) => start ≤ first
      | none => closed
    match subject.next? index with
    | none => best
    | some c =>
      let threads := alive.filterMap fun (place, start) =>
        match matcher.program[place]? with
        | some (.read accepts) => if accepts c then some (place + 1, start) else none
        | _ => none
      if threads.isEmpty && (best.isSome || fixed) then best
      else matcher.scan subject fixed fuel (index + 1) threads best

def Matcher.marks (matcher : Matcher) (subject : Subject) (start finish : Nat) :
    (fuel : Nat) → List (Nat × Nat × List (Nat × Nat)) → Array Bool → List (Nat × Nat)
  | 0, _, _ | _, [], _ => []
  | fuel + 1, (place, index, marks) :: rest, tried =>
    let key := place * (finish - start + 1) + (index - start)
    if finish < index || tried[key]?.getD true then
      matcher.marks subject start finish fuel rest tried
    else
      let tried := tried.setIfInBounds key true
      let go (next : List (Nat × Nat × List (Nat × Nat))) : List (Nat × Nat) :=
        matcher.marks subject start finish fuel (next ++ rest) tried
      match matcher.program[place]? with
      | none => go []
      | some .finish => if index = finish then marks else go []
      | some (.read accepts) =>
        go (if subject.line[index]?.any accepts then [(place + 1, index + 1, marks)] else [])
      | some (.edge kind) =>
        go (if subject.holds index kind then [(place + 1, index, marks)] else [])
      | some (.fork first second) =>
        go [(shifted place first, index, marks), (shifted place second, index, marks)]
      | some (.jump distance) => go [(shifted place distance, index, marks)]
      | some (.mark number) => go [(place + 1, index, (number, index) :: marks)]

def Matcher.groups (matcher : Matcher) (subject : Subject) (start finish : Nat) : Groups :=
  if matcher.groupCount = 0 then []
  else
    let size := matcher.program.size * (finish - start + 1)
    let marks := matcher.marks subject start finish (3 * size + 3) [(0, start, [])]
      (Array.replicate size false)
    (List.range matcher.groupCount).filterMap fun index =>
      let number := index + 1
      match marks.lookup (2 * number), marks.lookup (2 * number + 1) with
      | some first, some last => if first ≤ last then some (number, first, last) else none
      | _, _ => none

/-! Trying out. -/

def longer (best : Option Found) (found : Found) : Option Found :=
  match best with
  | some other => if other.finish < found.finish then some found else best
  | none => some found

def search (subject : Subject) (ignoreCase : Bool) : (fuel : Nat) → Regex → Nat → Groups →
    (Nat → Groups → Option Found → Option Found) → Option Found → Option Found
  | 0, _, _, _, _, best => best
  | fuel + 1, regex, index, groups, onward, best =>
    let complete (best : Option Found) : Bool :=
      best.any fun found => found.finish = subject.line.size
    if complete best then best
    else
      let step (accepts : Char → Bool) : Option Found :=
        if (subject.next? index).any accepts then onward (index + 1) groups best else best
      match regex with
      | .empty => onward index groups best
      | .octet c => step (sameChar ignoreCase c)
      | .any => step fun _ => true
      | .set inverted members => step (accepts ignoreCase inverted members)
      | .edge kind => if subject.holds index kind then onward index groups best else best
      | .sequence first second =>
        search subject ignoreCase fuel first index groups
          (fun index groups best =>
            search subject ignoreCase fuel second index groups onward best) best
      | .either first second =>
        let best := search subject ignoreCase fuel first index groups onward best
        search subject ignoreCase fuel second index groups onward best
      | .group number body =>
        search subject ignoreCase fuel body index groups
          (fun after groups best =>
            let others := groups.filter fun (other, _) => other ≠ number
            onward after ((number, index, after) :: others) best) best
      | .again number =>
        match groups.find? fun (other, _) => other = number with
        | some (_, start, finish) =>
          let text := subject.slice start finish
          let own := subject.slice index (index + text.length)
          let same := own.length = text.length &&
            (own.zip text).all fun (c, d) => sameChar ignoreCase c d
          if same then onward (index + text.length) groups best else best
        | none => best
      | .repeated body least most =>
        let more :=
          if most = some 0 then best
          else
            search subject ignoreCase fuel body index groups
              (fun after groups best =>
                if after = index && least = 0 then best
                else
                  search subject ignoreCase fuel
                    (.repeated body (least - 1) (most.map (· - 1))) after groups onward best) best
        if least = 0 then
          if complete more then more else onward index groups more
        else more

def Matcher.matchAt (matcher : Matcher) (subject : Subject) (index : Nat) : Option Found :=
  if matcher.recalls then
    search subject matcher.ignoreCase (1000 + 64 * (subject.line.size + 1)) matcher.regex index []
      (fun after groups best => longer best ⟨after, groups⟩) none
  else
    (matcher.scan subject true (subject.line.size + 2) index [(0, index)] none).map
      fun (start, finish) => ⟨finish, matcher.groups subject start finish⟩

def Matcher.findByTrying (matcher : Matcher) (subject : Subject) :
    (fuel index : Nat) → Option (Nat × Found)
  | 0, _ => none
  | fuel + 1, index =>
    match matcher.matchAt subject index with
    | some found => some (index, found)
    | none =>
      if subject.line.size ≤ index then none else matcher.findByTrying subject fuel (index + 1)

def Matcher.find (matcher : Matcher) (subject : Subject) (start : Nat) : Option (Nat × Found) :=
  if matcher.recalls then matcher.findByTrying subject (subject.line.size + 2) start
  else
    (matcher.scan subject false (subject.line.size + 2) start [] none).map fun (start, finish) =>
      (start, ⟨finish, matcher.groups subject start finish⟩)

end Modelsmith.Shell.Regex
