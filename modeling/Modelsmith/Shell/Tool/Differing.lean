import Modelsmith.Shell.Tool.Dating

/-! Differences between files. -/

set_option autoImplicit false

namespace Modelsmith.Shell.Tool

inductive DiffForm where
  | normal
  | unified (lines : Nat)
  | brief

structure DiffStyle where
  form : DiffForm
  ignoreCase : Bool
  labels : List Octets

structure DiffFile where
  name : Octets
  lines : Array Octets
  unfinished : Bool
  time : Int

/-! Lines. -/

structure Change where
  first : Nat
  second : Nat
  deleted : Nat := 0
  inserted : Nat := 0

def DiffStyle.essences (style : DiffStyle) (file : DiffFile) : List (Octets × Bool) :=
  file.lines.toList.zipIdx.map fun (line, index) =>
    (if style.ignoreCase then line.map Char.toLower else line,
      file.unfinished && index + 1 = file.lines.size)

section Changes

variable {α : Type} [DecidableEq α]

/-- For each tail of the first list and each of the second, how much they can share. -/
def sharedCounts (rights : List α) : List α → List (List Nat)
  | [] => [List.replicate (rights.length + 1) 0]
  | left :: lefts =>
    let rows := sharedCounts rights lefts
    let below := rows.headD []
    let row := (rights.zip (below.zip below.tail)).foldr (fun (right, down, across) row =>
      (if right = left then across + 1 else max down (row.headD 0)) :: row) [0]
    row :: rows

def changes (place : Change) : List α → List α → List (List Nat) → List Change
  | left :: lefts, right :: rights, rows =>
    let below := rows.tail
    let here := place.second + place.inserted
    if left = right then
      let next : Change := { first := place.first + place.deleted + 1, second := here + 1 }
      let later := changes next lefts rights below
      if place.deleted = 0 && place.inserted = 0 then later else place :: later
    else if (rows.headD []).getD (here + 1) 0 ≤ (below.headD []).getD here 0 then
      changes { place with deleted := place.deleted + 1 } lefts (right :: rights) below
    else changes { place with inserted := place.inserted + 1 } (left :: lefts) rights rows
  | lefts, rights, _ =>
    let last := { place with
      deleted := place.deleted + lefts.length
      inserted := place.inserted + rights.length }
    if last.deleted = 0 && last.inserted = 0 then [] else [last]
termination_by lefts rights => lefts.length + rights.length

end Changes

def fileChanges (style : DiffStyle) (left right : DiffFile) : List Change :=
  let lefts := style.essences left
  let rights := style.essences right
  changes ⟨0, 0, 0, 0⟩ lefts rights (sharedCounts rights lefts)

def hunks (margin : Nat) : List Change → List (List Change)
  | [] => []
  | change :: rest =>
    match hunks margin rest with
    | (next :: more) :: others =>
      let gap := next.first - (change.first + change.deleted)
      if gap ≤ 2 * margin then (change :: next :: more) :: others
      else [change] :: (next :: more) :: others
    | others => [change] :: others

/-! Writing. -/

def diffLine (file : DiffFile) (mark : Octets) (index : Nat) : Octets :=
  mark ++ file.lines.getD index [] ++ if file.unfinished && index + 1 = file.lines.size then
      "\n\\ No newline at end of file\n".toList
    else ['\n']

def diffLines (file : DiffFile) (mark : String) (start count : Nat) : Octets :=
  (List.range count).flatMap fun index => diffLine file mark.toList (start + index)

def lineRange (start count : Nat) : Octets :=
  if count ≤ 1 then natText (start + count) else
    natText (start + 1) ++ ',' :: natText (start + count)

def changeLetter (change : Change) : Char :=
  if change.deleted = 0 then 'a' else if change.inserted = 0 then 'd' else 'c'

def normalText (left right : DiffFile) (change : Change) : Octets :=
  lineRange change.first change.deleted ++ changeLetter change ::
    lineRange change.second change.inserted ++ '\n' ::
    diffLines left "< " change.first change.deleted ++
    (if change.deleted ≠ 0 && change.inserted ≠ 0 then "---\n".toList else []) ++
    diffLines right "> " change.second change.inserted

structure HunkRange where
  first : Nat
  firstCount : Nat
  second : Nat
  secondCount : Nat

def hunkRange (margin : Nat) (left right : DiffFile) (changes : List Change) : HunkRange :=
  match changes.head?, changes.getLast? with
  | some head, some last =>
    let first := head.first - margin
    let second := head.second - margin
    let firstEnd := min left.lines.size (last.first + last.deleted + margin)
    let secondEnd := min right.lines.size (last.second + last.inserted + margin)
    ⟨first, firstEnd - first, second, secondEnd - second⟩
  | _, _ => ⟨0, 0, 0, 0⟩

def unifiedRange (start count : Nat) : Octets :=
  if count = 1 then natText (start + 1)
  else if count = 0 then natText start ++ ",0"
  else natText (start + 1) ++ ',' :: natText count

def unifiedText (margin : Nat) (left right : DiffFile) (changes : List Change) :
    Octets :=
  let range := hunkRange margin left right changes
  let header := "@@ -" ++ unifiedRange range.first range.firstCount ++ " +" ++
    unifiedRange range.second range.secondCount ++ " @@\n"
  let (body, place) := changes.foldl (fun (body, place) change =>
    (body ++ diffLines left " " place (change.first - place) ++
      diffLines left "-" change.first change.deleted ++
      diffLines right "+" change.second change.inserted, change.first + change.deleted))
    (([] : Octets), range.first)
  header ++ body ++ diffLines left " " place (range.first + range.firstCount - place)

/-! Whole files. -/

def fileHeader (zone : Zone) (mark : String) (label : Option Octets) (file : DiffFile) : Octets :=
  mark ++ (match label with
    | some label => label
    | none =>
      let fraction := (natText (10 ^ 9 + (file.time % 1000000).toNat * 1000)).tail
      let time := formattedDate zone (file.time / 1000000 + startSecond)
        ("%F %T." ++ fraction ++ " %z")
      file.name ++ '\t' :: time) ++ ['\n']

def differencesText (style : DiffStyle) (zone : Zone) (left right : DiffFile)
    (changes : List Change) : Octets :=
  match style.form with
  | .normal => changes.flatMap (normalText left right)
  | .unified margin =>
    fileHeader zone "--- " (style.labels[0]?) left ++
      fileHeader zone "+++ " (style.labels[1]?) right ++
      (hunks margin changes).flatMap (unifiedText margin left right)
  | .brief => []

def isBinary (text : Octets) : Bool := (text.take 32768).contains '\x00'

def diffFile (name text : Octets) (time : Int) : DiffFile :=
  ⟨name, (bareLines text).toArray, text.getLast?.any (· ≠ '\n'), time⟩

def compareTexts (style : DiffStyle) (left right : Octets × Octets × Int) : Step Nat := do
  let (leftName, leftText, leftTime) := left
  let (rightName, rightText, rightTime) := right
  let tell (words : Octets) : Step Unit :=
    Step.printLine (words ++ leftName ++ " and " ++ rightName ++ " differ")
  let first := diffFile leftName leftText leftTime
  let second := diffFile rightName rightText rightTime
  let changes := if leftText = rightText then [] else fileChanges style first second
  if changes.isEmpty then return 0
  match style.form, isBinary leftText || isBinary rightText with
  | .brief, _ =>
    tell "Files "
    return 1
  | _, true =>
    tell "Binary files "
    return 2
  | _, false =>
    Step.print (differencesText style (← Zone.current) first second changes)
    return 1

def diffTarget (path : Octets) : Step (Except String (Octets × Octets × Int)) := do
  match ← content path with
  | .error reason => return .error reason
  | .ok text =>
    let files ← Step.files
    let time := ((files.lookup (Text.ofOctets path)).toOption.map (·.time)).getD files.now
    return .ok (path, text, time)

/-! The program. -/

def diffOptions : Options :=
  ⟨"0123456789iquV", "LUV",
    [("ignore-case", 'i'), ("label", 'L'), ("brief", 'q'), ("unified", 'V')]⟩

def diff : Tool := fun arguments => do
  let refuse (words : Octets) : Step Nat := do
    complain words
    complain ("Try '" ++ (← name) ++ " --help' for more information.")
    return 2
  match parse diffOptions false arguments with
  | .error words => refuse words
  | .ok found =>
    let digits := (found.options.filter fun (letter, _) => letter.isDigit).map Prod.fst
    let mut context := if digits.isEmpty then 3 else digitValue digits
    for (letter, text) in found.options do
      if "UV".toList.contains letter && !text.isEmpty then
        match natural? text with
        | some lines => context := lines
        | none => return ← refuse ("invalid context length " ++ cited text)
    let unified := found.has 'u' || found.has 'U' || found.has 'V'
    let style : DiffStyle := {
      form := if found.has 'q' then .brief else if unified then .unified context else .normal
      ignoreCase := found.has 'i'
      labels := found.options.filterMap fun (letter, text) =>
        if letter = 'L' then some text else none }
    match found.operands with
    | [left, right] =>
      match ← diffTarget left, ← diffTarget right with
      | .ok first, .ok second => compareTexts style first second
      | first, second =>
        for (path, target) in [(left, first), (right, second)] do
          if let .error reason := target then complain (path ++ ": " ++ reason)
        return 2
    | [] | [_] =>
      refuse ("missing operand after " ++ cited (arguments.getLast?.getD (← name)))
    | _ :: _ :: extra :: _ => refuse ("extra operand " ++ cited extra)

end Modelsmith.Shell.Tool
