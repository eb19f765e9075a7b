import Modelsmith.Shell.Printing
import Modelsmith.Shell.Tool.Basic

/-! Programs on lines and characters. -/

set_option autoImplicit false

namespace Modelsmith.Shell.Tool

/-! Beginnings and ends. -/

def count? (text : Octets) : Option Nat :=
  let digits := text.takeWhile Char.isDigit
  let unit? : Option Nat := match String.ofList (text.drop digits.length) with
    | "" => some 1
    | "b" => some 512
    | "k" | "K" | "KiB" => some 1024
    | "kB" | "KB" => some 1000
    | "m" | "M" | "MiB" => some (1024 ^ 2)
    | "MB" => some (1000 ^ 2)
    | "G" | "GiB" => some (1024 ^ 3)
    | _ => none
  if digits.isEmpty then none else unit?.map (digitValue digits * ·)

def withCount (arguments : List Octets) : List Octets :=
  match arguments with
  | ('-' :: c :: digits) :: rest =>
    if c.isDigit && digits.all Char.isDigit then "-n" :: (c :: digits) :: rest
    else arguments
  | _ => arguments

def header (first : Bool) (path : Octets) : Octets :=
  (if first then [] else ['\n']) ++ "==> " ++
    (if path = ['-'] then "standard input".toList else path) ++ " <==\n"

def eachHeaded (found : Found) (wanted : Option Nat)
    (pick : Octets → Option (Octets × Nat)) (whole : Octets → Octets × Nat) : Step Nat := do
  let paths := if found.operands.isEmpty then [['-']] else found.operands
  let headed := (1 < paths.length && !found.has 'q') || found.has 'v'
  let mut status := 0
  let mut first := true
  for path in paths do
    let outcome ← reading path fun descriptor => do
      match ← Step.available descriptor wanted with
      | .error fault => return .error fault
      | .ok text =>
        if (pick text).isNone then Step.reachEnd descriptor
        let (shown, used) := (pick text).getD (whole text)
        -- Of a pipe, all of a block is gone.
        let isPipe ← Step.isPipe descriptor
        Step.consume descriptor (if isPipe then min text.length (max used 8192) else used)
        return .ok shown
    match outcome with
    | .ok shown =>
      if headed then Step.print (header first path)
      first := false
      if !shown.isEmpty then Step.print shown
    | .error reason =>
      let named := quoted (if path = ['-'] then "standard input" else path)
      complain (if reason = "Is a directory" then "error reading " ++ named ++
          ": Is a directory"
        else "cannot open " ++ named ++ " for reading: " ++ reason)
      status := 1
  return status

def firstLines? (ender : Char) : (count : Nat) → Octets → Octets → Option Octets
  | 0, taken, _ => some taken.reverse
  | _ + 1, _, [] => none
  | count + 1, taken, c :: rest =>
    if c = ender then firstLines? ender count (c :: taken) rest
    else firstLines? ender (count + 1) (c :: taken) rest
termination_by _ _ rest => rest.length

def wantedPart (found : Found) : Char × Octets :=
  match found.options.reverse.find? fun (letter, _) => letter = 'n' || letter = 'c' with
  | some (letter, text) => (letter, text)
  | none => ('n', "10")

def badCount (unit : Char) (text : Octets) : Step Nat := do
  let kind := if unit = 'c' then "invalid number of bytes: " else "invalid number of lines: "
  complain (kind ++ cited text)
  return 1

def head : Tool := fun arguments =>
  let spec : Options := ⟨"qvz", "nc", [("lines", 'n'), ("bytes", 'c'), ("quiet", 'q'),
    ("silent", 'q'), ("verbose", 'v'), ("zero-terminated", 'z')]⟩
  withOptions spec 1 (withCount arguments) fun found => do
    let (unit, number) := wantedPart found
    let (fromEnd, digits) := match number with
      | '-' :: digits => (true, digits)
      | '+' :: digits => (false, digits)
      | digits => (false, digits)
    let ender := if found.has 'z' then '\x00' else '\n'
    match count? digits with
    | none => badCount unit digits
    | some count =>
      let pick (text : Octets) : Option (Octets × Nat) :=
        if fromEnd then none
        else if unit = 'c' then
          let shown := text.take count
          if shown.length = count then some (shown, count) else none
        else (firstLines? ender count [] text).map fun shown => (shown, shown.length)
      let whole (text : Octets) : Octets × Nat :=
        if !fromEnd then (text, text.length)
        else if unit = 'c' then (text.take (text.length - count), text.length)
        else
          let all := linesBy ender text
          ((all.take (all.length - count)).flatten, text.length)
      eachHeaded found (if unit = 'c' && !fromEnd then some count else none) pick whole

def tail : Tool := fun arguments =>
  let spec : Options := ⟨"fFqrvz", "ncs", [("lines", 'n'), ("bytes", 'c'), ("quiet", 'q'),
    ("silent", 'q'), ("verbose", 'v'), ("zero-terminated", 'z'), ("follow", 'f'),
    ("sleep-interval", 's')]⟩
  let arguments := match arguments with
    | ('+' :: c :: digits) :: rest =>
      if c.isDigit && digits.all Char.isDigit then "-n" :: ('+' :: c :: digits) :: rest
      else arguments
    | _ => withCount arguments
  withOptions spec 1 arguments fun found => do
    let (unit, number) := wantedPart found
    let (fromStart, digits) := match number with
      | '+' :: digits => (true, digits)
      | '-' :: digits => (false, digits)
      | digits => (false, digits)
    let ender := if found.has 'z' then '\x00' else '\n'
    match count? digits with
    | none => badCount unit digits
    | some count =>
      let pick {α : Type} (items : List α) : List α :=
        if fromStart then items.drop (count - 1) else items.drop (items.length - count)
      eachHeaded found none (fun _ => none) fun text =>
        (if unit = 'c' then pick text else (pick (linesBy ender text)).flatten, text.length)

/-! Counting. -/

def isSpace (c : Char) : Bool := Arithmetic.isSpace c

def wordCount (text : Octets) : Nat :=
  (text.foldl (fun (count, inside) c =>
    if isSpace c then (count, false)
    else if isPrintable c then (if inside then count else count + 1, true)
    else (count, inside))
    (0, false)).1

def columnsOf (line : Octets) : Nat :=
  line.foldl (fun column c =>
    if c = '\t' then column + (8 - column % 8)
    else if isPrintable c then column + 1 else column) 0

def longestLine (text : Octets) : Nat := ((bareLines text).map columnsOf).foldl max 0

def wc : Tool := optioned ⟨"clmLw", "", [("bytes", 'c'), ("chars", 'm'), ("lines", 'l'),
    ("words", 'w'), ("max-line-length", 'L')]⟩ 1 fun found => do
  let wanted (letter : Char) : Bool :=
    found.has letter || (found.options.isEmpty && (letter = 'l' || letter = 'w' || letter = 'c'))
  let counts (text : Octets) : List Nat :=
    (if wanted 'l' then [text.count '\n'] else []) ++
    (if wanted 'w' then [wordCount text] else []) ++
    (if wanted 'm' then [text.length] else []) ++
    (if wanted 'c' then [text.length] else []) ++
    (if wanted 'L' then [longestLine text] else [])
  let paths := if found.operands.isEmpty then [['-']] else found.operands
  let mut rows : List (List Nat × Octets) := []
  let mut status := 0
  let mut size := 0
  let mut least := 1
  for path in paths do
    if path = ['-'] && !(← Step.isFile 0) then least := 7
    match ← content path with
    | .ok text =>
      if path ≠ ['-'] || (← Step.isFile 0) then size := size + text.length
      rows := rows ++ [(counts text, path)]
    | .error reason =>
      complain (shown path ++ ": " ++ reason)
      status := 1
      if reason = "Is a directory" then
        least := 7
        rows := rows ++ [(counts [], path)]
  let add (left right : List Nat) : List Nat :=
    if left.isEmpty then right
    else
      let sums := List.zipWith (· + ·) left right
      if wanted 'L' then sums.dropLast ++ [max (left.getLastD 0) (right.getLastD 0)]
      else sums
  let totals := rows.foldl (fun sum (row, _) => add sum row) []
  let columns := (counts []).length
  let width := if columns = 1 && paths.length = 1 then 1 else max (natText size).length least
  let line (row : List Nat) (path : Octets) : Octets :=
    let cells := row.map fun value =>
      let digits := natText value
      List.replicate (width - digits.length) ' ' ++ digits
    Expansion.joinWith [' '] cells ++
      (if path.isEmpty then [] else ' ' :: path) ++ ['\n']
  let shown := rows.flatMap fun (row, path) =>
    line row (if found.operands.isEmpty then [] else path)
  Step.print (shown ++ if 1 < paths.length then
    line (if totals.isEmpty then (counts []).map fun _ => 0 else totals) "total" else [])
  return status

/-! Fields and characters. -/

inductive RangeFault where
  | zero
  | twoDashes
  | noEnd
  | decreasing
  | strange (rest : Octets)

def RangeFault.message (fields : Bool) : RangeFault → Octets
  | .zero =>
    (if fields then "fields are numbered from 1"
      else "byte/character positions are numbered from 1").toList
  | .twoDashes =>
    (if fields then "invalid field range" else "invalid byte or character range").toList
  | .noEnd => "invalid range with no endpoint: -"
  | .decreasing => "invalid decreasing range"
  | .strange rest =>
    (if fields then "invalid field value " else "invalid byte/character position ").toList ++
      cited rest

def rangeOf (first : Option Nat) (dash : Bool) (last : Option Nat) :
    Except RangeFault (Nat × Option Nat) :=
  if !dash then
    match last with
    | none | some 0 => .error .zero
    | some number => .ok (number, some number)
  else
    match first, last with
    | none, none => .error .noEnd
    | first, none => .ok (first.getD 1, none)
    | first, some last =>
      if last < first.getD 1 then .error .decreasing else .ok (first.getD 1, some last)

def ranges (first : Option Nat) (dash : Bool) (last : Option Nat) :
    Octets → Except RangeFault (List (Nat × Option Nat))
  | [] => return [← rangeOf first dash last]
  | c :: rest => do
    if c = '-' then
      if dash then throw .twoDashes
      if last = some 0 then throw .zero
      ranges last true none rest
    else if c = ',' || c = ' ' || c = '\t' then
      let range ← rangeOf first dash last
      return range :: (← ranges none false none rest)
    else if c.isDigit then ranges first dash (some (10 * last.getD 0 + (c.toNat - '0'.toNat))) rest
    else throw (.strange (c :: rest))

def inRanges (ranges : List (Nat × Option Nat)) (number : Nat) : Bool :=
  ranges.any fun (first, last) => first ≤ number && last.all (number ≤ ·)

def pickItems {α : Type} (wanted : Nat → Bool) (items : List α) : List α :=
  (items.zipIdx.filter fun (_, index) => wanted (index + 1)).map Prod.fst

def splitAtChar (divider : Char) (line : Octets) : List Octets :=
  let (parts, last) := line.foldl (fun (parts, part) c =>
    if c = divider then (part.reverse :: parts, ([] : Octets)) else (parts, c :: part))
    (([] : List Octets), ([] : Octets))
  (last.reverse :: parts).reverse

def cut : Tool := fun arguments =>
  let spec : Options := ⟨"nsz", "bcdfO", [("bytes", 'b'), ("characters", 'c'), ("delimiter", 'd'),
    ("fields", 'f'), ("only-delimited", 's'), ("complement", 'C'), ("output-delimiter", 'O')]⟩
  let spec := { spec with letters := "nszC" }
  withOptions spec 1 arguments fun found => do
    match fault? false found.options with
    | some message =>
      usage message.toList
      return 1
    | none =>
      match found.options.find? fun (letter, _) => "bcf".toList.contains letter with
      | none =>
        usage "you must specify a list of bytes, characters, or fields"
        return 1
      | some (letter, list) =>
        let fields := letter = 'f'
        if !fields && found.has 'd' then
          usage "an input delimiter may be specified only when operating on fields"
          return 1
        if !fields && found.has 's' then
          usage ("suppressing non-delimited lines makes sense\n" ++
            "\tonly when operating on fields").toList
          return 1
        match ranges none false none list with
        | .error fault =>
          usage (fault.message fields)
          return 1
        | .ok ranges =>
          let wanted (number : Nat) : Bool := inRanges ranges number != found.has 'C'
          let divider := ((found.value? 'd').map fun text => text.headD '\x00').getD '\t'
          let joint := (found.value? 'O').getD [divider]
          eachContent found.operands fun _ text => do
            let shown := (bareLines text).flatMap fun line =>
              if !fields then pickItems wanted line ++ ['\n']
              else if !line.contains divider then
                if found.has 's' then [] else line ++ ['\n']
              else Expansion.joinWith joint (pickItems wanted (splitAtChar divider line)) ++ ['\n']
            if !shown.isEmpty then Step.print shown
where
  fault? (listed : Bool) : List (Char × Octets) → Option String
    | [] => none
    | (letter, text) :: rest =>
      if letter = 'd' && 1 < text.length then some "the delimiter must be a single character"
      else if "bcf".toList.contains letter then
        if listed then some "only one list may be specified" else fault? true rest
      else fault? listed rest

end Modelsmith.Shell.Tool
