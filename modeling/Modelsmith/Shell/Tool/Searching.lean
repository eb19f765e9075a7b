import Modelsmith.Shell.Regex.Matching
import Modelsmith.Shell.Tool.Making

/-! Searching lines for patterns. -/

set_option autoImplicit false

namespace Modelsmith.Shell.Tool

def literal (text : Octets) : Regex := text.foldr (fun c rest => .sequence (.octet c) rest) .empty

def isWhole (line : Regex.Subject) (start finish : Nat) : Bool :=
  !line.isWordBefore start && !line.isWordAt finish

def wholeAt (needle : Regex.Matcher) (line : Regex.Subject) (start : Nat) :
    (fuel finish : Nat) → Option (Nat × Nat)
  | 0, _ => none
  | fuel + 1, finish =>
    if isWhole line start finish then some (start, finish)
    else if finish ≤ start then none
    else
      match needle.matchAt { line with bound := some (finish - 1) } start with
      | some found => if found.finish ≤ start then none else wholeAt needle line start fuel found.finish
      | none => none

def matchOf (needle : Regex.Matcher) (words : Bool) (line : Regex.Subject) :
    (fuel start : Nat) → Option (Nat × Nat)
  | 0, _ => none
  | fuel + 1, start =>
    match needle.find line start with
    | none => none
    | some (first, found) =>
      if !words then some (first, found.finish)
      else
        match wholeAt needle line first (found.finish - first + 2) found.finish with
        | some whole => some whole
        | none =>
          if line.line.size ≤ first then none else matchOf needle words line fuel (first + 1)

def firstMatch (needles : List Regex.Matcher) (words : Bool) (line : Regex.Subject)
    (start : Nat) : Option (Nat × Nat) :=
  (needles.filterMap fun needle => matchOf needle words line (line.line.size + 2) start).foldl
    (fun best (first, last) =>
      match best with
      | none => some (first, last)
      | some (start, finish) =>
        if first < start || (first = start && finish < last) then some (first, last)
        else some (start, finish))
    none

def allMatches (needles : List Regex.Matcher) (words : Bool) (line : Regex.Subject) :
    (fuel start : Nat) → List (Nat × Nat)
  | 0, _ => []
  | fuel + 1, start =>
    match firstMatch needles words line start with
    | none => []
    | some (first, last) =>
      if first = last then
        if line.line.size ≤ first then [] else allMatches needles words line fuel (first + 1)
      else (first, last) :: allMatches needles words line fuel last

structure Search where
  needles : List Regex.Matcher
  words : Bool
  wholeLines : Bool
  inverted : Bool

def Search.selects (search : Search) (line : Octets) : Bool :=
  let subject := Regex.Subject.ofOctets line
  let matched :=
    if search.wholeLines then
      search.needles.any fun needle =>
        (needle.matchAt subject 0).any fun found => found.finish = subject.line.size
    else
      search.needles.any fun needle =>
        (matchOf needle search.words subject (subject.line.size + 2) 0).isSome
  matched != search.inverted

structure FileLine where
  number : Nat
  text : Octets
  selected : Bool

def fileLines (search : Search) (text : Octets) : List FileLine :=
  let pieces := Expansion.splitOnChar '\n' text
  let pieces := if pieces.getLast? = some [] then pieces.dropLast else pieces
  pieces.zipIdx.map fun (line, index) => ⟨index + 1, line, search.selects line⟩

def limited (limit : Option Nat) : Nat → List FileLine → List FileLine
  | _, [] => []
  | count, line :: rest =>
    if limit.any (· ≤ count) then []
    else line :: limited limit (if line.selected then count + 1 else count) rest

def grepOptions : Options where
  letters := "EFGHLachilnoqsvwxy"
  valued := "efm"
  long := [("extended-regexp", 'E'), ("fixed-strings", 'F'), ("basic-regexp", 'G'),
    ("regexp", 'e'), ("file", 'f'), ("ignore-case", 'i'),
    ("invert-match", 'v'), ("word-regexp", 'w'), ("line-regexp", 'x'),
    ("count", 'c'), ("files-with-matches", 'l'), ("files-without-match", 'L'), ("max-count", 'm'),
    ("only-matching", 'o'), ("quiet", 'q'), ("silent", 'q'), ("no-messages", 's'),
    ("line-number", 'n'), ("no-filename", 'h'), ("with-filename", 'H'), ("text", 'a')]

def grepUsage (text : Octets) : Step Nat := do
  if !text.isEmpty then complain text
  Step.report ("Usage: " ++ (← name) ++ " [OPTION]... PATTERNS [FILE]...")
  Step.report ("Try '" ++ (← name) ++ " --help' for more information.")
  return 2

def needleOf (kind : Char) (ignoreCase : Bool) (text : Octets) :
    Except String (Regex.Matcher × List String) :=
  let brackets := text.head? = some '[' && text.getLast? = some ']' && 3 < text.length &&
    (text.drop 1).head? = some ':' && (text.dropLast).getLast? = some ':'
  if kind = 'F' then .ok ((literal text).matcher ignoreCase, [])
  else if brackets && !(text.drop 1).contains '[' then
    .error "character class syntax is [[:space:]], not [:space:]"
  else
    (Regex.readWith (kind ≠ 'G') false text).map
      fun (regex, warnings) => (regex.matcher ignoreCase, warnings)

def grepWith (kind : Char) : Tool := fun arguments => do
  let arguments := arguments.filter fun text => !"--colo".toList.isPrefixOf text
  match parse grepOptions false arguments with
  | .error text => grepUsage text
  | .ok found =>
    let kind := ((found.options.reverse.find? fun (letter, _) =>
      "EFG".toList.contains letter).map Prod.fst).getD kind
    if (found.value? 'm').any fun text => (natural? text).isNone then
      complain "invalid max count"
      return 2
    let mut patterns : List Octets := []
    for (letter, value) in found.options do
      if letter = 'e' then patterns := patterns ++ Expansion.splitOnChar '\n' value
      if letter = 'f' then
        match ← content value with
        | .ok text => patterns := patterns ++ bareLines text
        | .error reason =>
          complain (value ++ ": " ++ reason)
          return 2
    let explicit := found.has 'e' || found.has 'f'
    let operands := if explicit then found.operands else found.operands.drop 1
    if !explicit then
      match found.operands with
      | [] => return ← grepUsage []
      | pattern :: _ => patterns := Expansion.splitOnChar '\n' pattern
    let ignoreCase := found.has 'i' || found.has 'y'
    match patterns.mapM (needleOf kind ignoreCase) with
    | .error reason =>
      complain reason.toList
      return 2
    | .ok needles =>
      for (_, warnings) in needles do
        for warning in warnings do complain ("warning: " ++ warning).toList
      let search : Search :=
        ⟨needles.map Prod.fst, found.has 'w' && !found.has 'x', found.has 'x', found.has 'v'⟩
      let nat (letter : Char) : Option Nat := (found.value? letter).bind natural?
      let operands := if operands.isEmpty then [['-']] else operands
      let named := (1 < operands.length || found.has 'H') && !found.has 'h'
      let mut any := false
      let mut failed := false
      for path in operands do
        match ← contentNow true path with
        | .error reason =>
          if !found.has 's' then complain (path ++ ": " ++ reason)
          failed := true
        | .ok (text, isCut) =>
          let shownName : Octets := if path = ['-'] then "(standard input)" else path
          let binary := !found.has 'a' && text.contains '\x00'
          let chosen := limited (nat 'm') 0 (fileLines search text)
          let count := (chosen.filter (·.selected)).length
          if 0 < count then any := true
          let stops := (nat 'm').any (· ≤ count) ||
            (0 < count && (found.has 'q' || found.has 'l' || found.has 'L'))
          if isCut && !stops && found.has 'c' then throw .starved
          let lead (line : FileLine) : Octets :=
            (if named then shownName ++ [':'] else []) ++
              (if found.has 'n' then natText line.number ++ [':'] else [])
          if found.has 'q' then pure ()
          else if found.has 'l' then
            if 0 < count then Step.printLine shownName
          else if found.has 'L' then
            if count = 0 then Step.printLine shownName
          else if found.has 'c' then
            Step.printLine ((if named then shownName ++ [':'] else []) ++ natText count)
          else if binary then
            if 0 < count && !(found.has 'o' && found.has 'v') then
              complain (shownName ++ ": binary file matches")
          else if found.has 'o' then
            if !found.has 'v' then
              for line in chosen do
                if line.selected then
                  let subject := Regex.Subject.ofOctets line.text
                  for (first, last) in allMatches search.needles search.words subject
                      (line.text.length + 2) 0 do
                    Step.printLine (lead line ++ subject.slice first last)
          else
            for line in chosen.filter (·.selected) do
              Step.printLine (lead line ++ line.text)
          if isCut && !stops then throw .starved
      if found.has 'q' && any then return 0
      return if failed then 2 else if any then 0 else 1

end Modelsmith.Shell.Tool
