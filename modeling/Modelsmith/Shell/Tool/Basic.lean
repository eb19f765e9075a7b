import Modelsmith.Numeral
import Modelsmith.Shell.Redirecting
import Modelsmith.Shell.Tool.Quoting

/-! What the programs of a host have in common. -/

set_option autoImplicit false

namespace Modelsmith.Shell

abbrev Tool := List Octets → Step Nat

namespace Tool

def name : Step Octets := do return (← Step.process).command.getD []

def complain (text : Octets) : Step Unit := do Step.report ((← name) ++ ": " ++ text)

def usage (text : Octets) : Step Unit := do
  complain text
  Step.report ("Try '" ++ (← name) ++ " --help' for more information.")

def inMarks (text : Octets) : Octets := '\x27' :: text ++ ['\x27']

def losing (tool : String) (fault : StreamFault) : List Octets × Nat :=
  let isClosed := match fault with
    | .badDescriptor => true
    | _ => false
  let reason := ": " ++ fault.reason
  let plain := "write error"
  let quoted := inMarks "standard output" ++ reason
  match tool with
  | "cat" => ([(if isClosed then "standard output" else plain) ++ reason], 1)
  | "cmp" => if isClosed then ([], 1) else (["standard output" ++ reason], 2)
  | "env" => ([plain ++ reason], 125)
  | "expr" => ([plain ++ reason], 3)
  | "find" => ([quoted, if isClosed then plain ++ reason else plain], 1)
  | "ls" | "grep" | "egrep" | "fgrep" | "printenv" => ([plain ++ reason], 2)
  | "rev" => if isClosed then ([], 0) else ([plain ++ reason], 1)
  | "sed" =>
    (["couldn't " ++ (if isClosed then "close" else "flush").toList ++
      " stdout" ++ reason], 4)
  | "sort" => (["fflush failed: " ++ quoted, if isClosed then plain ++ reason else plain], 2)
  | "tee" => ([quoted], 1)
  | "wc" => ([if isClosed then plain ++ reason else plain], 1)
  | _ => ([plain ++ reason], 1)

/-- The options of a program: letters, letters that take an argument, and long names for
letters. A letter among both kinds takes an argument only if it stands directly behind it. -/
structure Options where
  letters : String
  valued : String := ""
  long : List (String × Char) := []

def Options.isOptional (spec : Options) (letter : Char) : Bool :=
  spec.letters.toList.contains letter && spec.valued.toList.contains letter

structure Found where
  options : List (Char × Octets)
  operands : List Octets

namespace Found

def has (found : Found) (letter : Char) : Bool := found.options.any fun (other, _) => other = letter

def value? (found : Found) (letter : Char) : Option Octets :=
  (found.options.reverse.find? fun (other, _) => other = letter).map Prod.snd

end Found

def cluster (spec : Options) : Octets → List Octets →
    Except Octets (List (Char × Octets) × List Octets)
  | [], rest => .ok ([], rest)
  | c :: letters, rest =>
    if spec.isOptional c then .ok ([(c, letters)], rest)
    else if spec.valued.toList.contains c then
      match letters, rest with
      | [], [] => .error ("option requires an argument -- " ++ inMarks [c])
      | [], argument :: rest => .ok ([(c, argument)], rest)
      | argument, rest => .ok ([(c, argument)], rest)
    else if spec.letters.toList.contains c then
      (cluster spec letters rest).map fun (options, rest) => ((c, []) :: options, rest)
    else .error ("invalid option -- " ++ inMarks [c])

def longOption (spec : Options) (text : Octets) (rest : List Octets) :
    Except Octets ((Char × Octets) × List Octets) :=
  let spelled := text.takeWhile (· ≠ '=')
  let argument? := if spelled.length < text.length then some (text.drop (spelled.length + 1))
    else none
  let dashed := "--" ++ spelled
  let exact := spec.long.filter fun (other, _) => other.toList = spelled
  let choices := if exact.isEmpty then
    spec.long.filter fun (other, _) => spelled.isPrefixOf other.toList else exact
  match choices with
  | [] => .error ("unrecognized option " ++ inMarks ("--" ++ text))
  | (full, letter) :: others =>
    if others.any fun (_, other) => other ≠ letter then
      .error ("option " ++ inMarks dashed ++ " is ambiguous; possibilities:" ++
        choices.flatMap fun (other, _) => ' ' :: inMarks ("--" ++ other).toList)
    else if spec.isOptional letter then .ok ((letter, argument?.getD []), rest)
    else if spec.valued.toList.contains letter then
      match argument?, rest with
      | some argument, rest => .ok ((letter, argument), rest)
      | none, argument :: rest => .ok ((letter, argument), rest)
      | none, [] =>
        .error ("option " ++ inMarks ("--" ++ full).toList ++ " requires an argument")
    else
      match argument? with
      | some _ =>
        .error ("option " ++ inMarks ("--" ++ full).toList ++
          " doesn't allow an argument")
      | none => .ok ((letter, []), rest)

def parseFrom (spec : Options) (ordered : Bool) (found : Found) : (fuel : Nat) → List Octets →
    Except Octets Found
  | 0, _ => .ok ⟨found.options.reverse, found.operands.reverse⟩
  | _, [] => .ok ⟨found.options.reverse, found.operands.reverse⟩
  | fuel + 1, first :: rest =>
    match first with
    | '-' :: '-' :: [] => .ok ⟨found.options.reverse, found.operands.reverse ++ rest⟩
    | '-' :: '-' :: text => do
      let (option, rest) ← longOption spec text rest
      parseFrom spec ordered { found with options := option :: found.options } fuel rest
    | '-' :: c :: letters => do
      let (options, rest) ← cluster spec (c :: letters) rest
      parseFrom spec ordered { found with options := options.reverse ++ found.options } fuel rest
    | _ =>
      if ordered then .ok ⟨found.options.reverse, found.operands.reverse ++ first :: rest⟩
      else parseFrom spec ordered { found with operands := first :: found.operands } fuel rest

def parse (spec : Options) (ordered : Bool) (arguments : List Octets) : Except Octets Found :=
  parseFrom spec ordered ⟨[], []⟩ (arguments.length + 1) arguments

def withOptions (spec : Options) (failure : Nat) (arguments : List Octets)
    (act : Found → Step Nat) : Step Nat := do
  match parse spec false arguments with
  | .ok found => act found
  | .error text =>
    usage text
    return failure

def optioned (spec : Options) (failure : Nat) (act : Found → Step Nat) : Tool := fun arguments =>
  withOptions spec failure arguments act

def withLeadingOptions (spec : Options) (failure : Nat) (arguments : List Octets)
    (act : Found → Step Nat) : Step Nat := do
  match parse spec true arguments with
  | .ok found => act found
  | .error text =>
    usage text
    return failure

/-! Reading. -/

def inputDescriptor : Nat := 1000

def reading {α : Type} (path : Octets) (act : Nat → Step (Except StreamFault α)) :
    Step (Except String α) := do
  let told (outcome : Except StreamFault α) : Except String α := outcome.mapError StreamFault.reason
  if path = ['-'] then return told (← act 0)
  match ← Redirecting.openFile path .reading with
  | .error fault => return .error fault.reason
  | .ok index =>
    let process ← Step.process
    Step.setDescriptor inputDescriptor (some index)
    let outcome ← act inputDescriptor
    Step.modifyProcess fun later => { later with descriptors := process.descriptors }
    return told outcome

def content (path : Octets) : Step (Except String Octets) := reading path Step.readAll

def completeLines (text : Octets) : Octets := (text.reverse.dropWhile (· ≠ '\n')).reverse

def contentNow (byLine : Bool) (path : Octets) : Step (Except String (Octets × Bool)) :=
  reading path fun descriptor => do
    let text ← Step.readSome descriptor
    let isCut ← Step.isCut descriptor
    return text.map fun text => (if isCut && byLine then completeLines text else text, isCut)

def flow (byLine : Bool) (path : Octets) (act : Octets → Step Unit) : Step (Except String Unit) := do
  match ← contentNow byLine path with
  | .error reason => return .error reason
  | .ok (text, isCut) =>
    act text
    if isCut then throw .starved
    return .ok ()

def eachContent (paths : List Octets) (act : Octets → Octets → Step Unit) : Step Nat := do
  let mut status := 0
  for path in if paths.isEmpty then [['-']] else paths do
    match ← flow true path (act path) with
    | .ok _ => pure ()
    | .error reason =>
      complain (shown path ++ ": " ++ reason)
      status := 1
  return status

def linesBy (ender : Char) (text : Octets) : List Octets :=
  let (lines, last) := text.foldl
    (fun (lines, line) c =>
      if c = ender then ((c :: line).reverse :: lines, ([] : Octets)) else (lines, c :: line))
    (([] : List Octets), ([] : Octets))
  (if last.isEmpty then lines else last.reverse :: lines).reverse

def lines (text : Octets) : List Octets := linesBy '\n' text

def bare (line : Octets) : Octets := if line.getLast? = some '\n' then line.dropLast else line

def bareLines (text : Octets) : List Octets := (lines text).map bare

def natural? (text : Octets) : Option Nat :=
  if !text.isEmpty && text.all Char.isDigit then some (digitValue text) else none

def natText (value : Nat) : Octets := Nat.toDigits 10 value

def integer? (text : Octets) : Option Int :=
  match text with
  | '-' :: digits => (natural? digits).map fun value => -(value : Int)
  | '+' :: digits => (natural? digits).map Int.ofNat
  | digits => (natural? digits).map Int.ofNat

def chosen {α : Type} [BEq α] (option : String) (choices : List (String × α)) (text : Octets) :
    Step (Option α) := do
  let near := choices.filter fun (word, _) => text.isPrefixOf word.toList
  let refuse (problem : String) : Step (Option α) := do
    complain ((problem ++ " argument ").toList ++ cited text ++ " for " ++
      inMarks option.toList)
    Step.report "Valid arguments are:"
    for (word, _) in choices do Step.report ("  - " ++ inMarks word.toList)
    Step.report ("Try '" ++ (← name) ++ " --help' for more information.")
    return none
  match choices.find? (fun (word, _) => word.toList = text), near with
  | some (_, choice), _ => return some choice
  | none, [] => refuse "invalid"
  | none, (_, choice) :: others =>
    if others.all fun (_, other) => other == choice then return some choice
    else refuse "ambiguous"

def groups {α : Type} (size : Nat) : (fuel : Nat) → List α → List (List α)
  | 0, _ => []
  | fuel + 1, items =>
    if items.isEmpty then [] else items.take size :: groups size fuel (items.drop size)

end Tool

end Modelsmith.Shell
