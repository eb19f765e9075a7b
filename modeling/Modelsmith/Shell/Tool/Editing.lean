import Modelsmith.Shell.Regex.Matching
import Modelsmith.Shell.Tool.Basic

/-! Editing lines by a script. -/

set_option autoImplicit false

namespace Modelsmith.Shell.Tool.Editing

inductive Address where
  | line (number : Nat)
  | last
  /-- No pattern is the one matched last. -/
  | regex (wanted : Option Regex.Matcher)
  | count (lines : Nat)

inductive Replacement where
  | text (text : Octets)
  | group (number : Nat)

inductive Action where
  | open (finish : Nat)
  | substitute (wanted : Option Regex.Matcher) (replacement : List Replacement) (all : Bool)
      (occurrence : Nat) (prints : Bool)
  | translate (table : List (Char × Char))
  | add (letter : Char) (text : Octets)
  | jump (letter : Char) (label : Octets)
  | simple (letter : Char) (status : Nat)

structure Instruction where
  first : Option Address
  second : Option Address
  negated : Bool
  action : Action

/-! Reading scripts. -/

def letterCode : Char → Char
  | 'n' => '\n'
  | 't' => '\t'
  | c => c

def delimited (delimiter : Char) (regex inSet : Bool) (taken : Octets) :
    Octets → Option (Octets × Octets)
  | [] => none
  | '\\' :: c :: rest =>
    if c = delimiter && !inSet then delimited delimiter regex inSet (c :: taken) rest
    else if regex && (c = 'n' || c = 't') then
      delimited delimiter regex inSet (letterCode c :: taken) rest
    else delimited delimiter regex inSet (c :: '\\' :: taken) rest
  | c :: rest =>
    if c = delimiter && !inSet then some (taken.reverse, rest)
    else if c = '\n' && regex then none
    else
      let inSet := regex && (if inSet then c ≠ ']' || taken.head? = some '[' else c = '[')
      delimited delimiter regex inSet (c :: taken) rest

def unescaped : Octets → Octets
  | '\\' :: c :: rest => letterCode c :: unescaped rest
  | c :: rest => c :: unescaped rest
  | [] => []

def replacementOf : Octets → List Replacement
  | [] => []
  | '&' :: rest => .group 0 :: replacementOf rest
  | '\\' :: c :: rest =>
    (if c.isDigit then .group (c.toNat - '0'.toNat) else .text [letterCode c]) :: replacementOf rest
  | c :: rest => .text [c] :: replacementOf rest

def isBlank (c : Char) : Bool := c = ' ' || c = '\t'

structure Reader where
  extended : Bool
  length : Nat

abbrev Result (α : Type) := Except (Nat × String) α

def Reader.fail {α : Type} (reader : Reader) (rest : Octets) (message : String) : Result α :=
  .error (reader.length - rest.length, message)

def number (text : Octets) : Nat × Octets :=
  let digits := text.takeWhile Char.isDigit
  (digitValue digits, text.drop digits.length)

def Reader.regex (reader : Reader) (ignoreCase : Bool) (rest pattern : Octets) :
    Result (Option Regex.Matcher) :=
  if pattern.isEmpty then .ok none
  else
    match Regex.readStrict reader.extended pattern with
    | .ok regex => .ok (some (regex.matcher ignoreCase))
    | .error message => reader.fail rest message

def address? (reader : Reader) (second : Bool) (text : Octets) :
    Result (Option Address × Octets) := do
  match text with
  | '$' :: rest => return (some .last, rest)
  | '/' :: rest =>
    match delimited '/' true false [] rest with
    | none => reader.fail [] "unterminated address regex"
    | some (pattern, after) =>
      let ignoreCase := after.head? = some 'I'
      let after := if ignoreCase then after.drop 1 else after
      return (some (.regex (← reader.regex ignoreCase after pattern)), after)
  | '+' :: rest =>
    if !second then return (none, text)
    let (value, rest) := number rest
    return (some (.count value), rest)
  | text =>
    let (value, rest) := number text
    return (if rest.length < text.length then some (.line value) else none, rest)

def addedText (taken : Octets) : Octets → Octets × Octets
  | [] | ['\\'] => (taken.reverse, [])
  | '\\' :: c :: rest => addedText (letterCode c :: taken) rest
  | '\n' :: rest => (taken.reverse, rest)
  | c :: rest => addedText (c :: taken) rest

def addition (text : Octets) : Octets × Octets :=
  let text := match text.dropWhile isBlank with
    | '\\' :: rest =>
      match rest.dropWhile isBlank with
      | '\n' :: after => after
      | _ => rest
    | text => text
  let (added, rest) := addedText [] text
  (added ++ ['\n'], rest)

def afterCommand (reader : Reader) (text : Octets) : Result Octets :=
  match text.dropWhile isBlank with
  | [] => .ok []
  | ';' :: rest | '\n' :: rest => .ok rest
  | '\x7d' :: rest => .ok ('\x7d' :: rest)
  | '#' :: rest => .ok (rest.dropWhile (· ≠ '\n'))
  | _ :: rest => reader.fail rest "extra characters after command"

def twoTexts (reader : Reader) (letter : Char) (regex : Bool) (rest : Octets) :
    Result (Octets × Octets × Octets) :=
  let found := rest.head?.bind fun delimiter => do
    let (first, rest) ← delimited delimiter regex false [] (rest.drop 1)
    let (second, rest) ← delimited delimiter false false [] rest
    return (first, second, rest)
  match found with
  | some found => .ok found
  | none => reader.fail [] ("unterminated \x60" ++ letter.toString ++ "' command")

def action (reader : Reader) (letter : Char) (rest : Octets) : Result (Action × Octets) := do
  match letter with
  | '\x7b' => return (.open 0, rest)
  | 's' =>
    let (pattern, replacement, rest) ← twoTexts reader letter true rest
    let flags := rest.takeWhile fun c => c.isDigit || "gpiI".toList.contains c
    let rest := rest.drop flags.length
    if rest.head?.any Char.isAlpha then reader.fail (rest.drop 1) "unknown option to \x60s'"
    let regex ← reader.regex (flags.contains 'i' || flags.contains 'I') rest pattern
    let occurrence := max 1 (digitValue (flags.filter Char.isDigit))
    return (.substitute regex (replacementOf replacement) (flags.contains 'g') occurrence
      (flags.contains 'p'), ← afterCommand reader rest)
  | 'y' =>
    let (source, target, rest) ← twoTexts reader letter false rest
    if (unescaped source).length ≠ (unescaped target).length then
      reader.fail rest "strings for \x60y' command are different lengths"
    return (.translate ((unescaped source).zip (unescaped target)), ← afterCommand reader rest)
  | 'a' | 'i' | 'c' =>
    if (rest.dropWhile isBlank).isEmpty then
      reader.fail [] "expected \\ after \x60a', \x60c' or \x60i'"
    let (text, rest) := addition rest
    return (.add letter text, rest)
  | 'b' | 't' | ':' =>
    let rest := rest.dropWhile isBlank
    let label := rest.takeWhile fun c => !isBlank c && c ≠ ';' && c ≠ '\n' && c ≠ '\x7d'
    return (.jump letter label, ← afterCommand reader (rest.drop label.length))
  | 'q' | 'Q' =>
    let (status, rest) := number (rest.dropWhile isBlank)
    return (.simple letter status, ← afterCommand reader rest)
  | letter =>
    if "\x7dpdDnNPhHgGx=".toList.contains letter then
      return (.simple letter 0, ← afterCommand reader rest)
    else reader.fail rest ("unknown command: \x60" ++ letter.toString ++ "'")

def instructions (reader : Reader) : (fuel : Nat) → Octets → Result (List Instruction)
  | 0, _ => return []
  | fuel + 1, text => do
    match text.dropWhile fun c => isBlank c || c = ';' || c = '\n' with
    | [] => return []
    | '#' :: rest => instructions reader fuel (rest.dropWhile (· ≠ '\n'))
    | text =>
      let (first, rest) ← address? reader false text
      let (second, rest) ← match first, rest.dropWhile isBlank with
        | some _, ',' :: rest =>
          let (second, after) ← address? reader true (rest.dropWhile isBlank)
          if second.isNone then reader.fail (rest.drop 1) "unexpected \x60,'"
          pure (second, after)
        | _, rest => pure (none, rest)
      let rest := rest.dropWhile isBlank
      let negated := rest.head? = some '!'
      let rest := if negated then (rest.drop 1).dropWhile isBlank else rest
      match rest with
      | [] => reader.fail [] "missing command"
      | letter :: rest =>
        let (action, rest) ← action reader letter rest
        return ⟨first, second, negated, action⟩ :: (← instructions reader fuel rest)

def closing (level index : Nat) : List Instruction → Nat
  | [] => index
  | instruction :: rest =>
    match instruction.action with
    | .open _ => closing (level + 1) (index + 1) rest
    | .simple '\x7d' _ => if level = 0 then index else closing (level - 1) (index + 1) rest
    | _ => closing level (index + 1) rest

def linked (program : List Instruction) : Array Instruction :=
  program.toArray.mapIdx fun index instruction =>
    match instruction.action with
    | .open _ =>
      { instruction with action := .open (closing 0 (index + 1) (program.drop (index + 1))) }
    | _ => instruction

def labelIndex? (program : Array Instruction) (label : Octets) : Option Nat :=
  if label.isEmpty then some program.size
  else program.findIdx? fun instruction =>
    match instruction.action with
    | .jump ':' other => other = label
    | _ => false

/-! Running scripts. -/

structure Line where
  text : Octets
  ended : Bool

structure State where
  space : Octets := []
  held : Octets := []
  number : Nat := 0
  rest : List Line
  ended : Bool := true
  output : List Octets := []
  queue : List Octets := []
  replaced : Bool := false
  ranges : List (Nat × Option Nat) := []
  latest : Option Regex.Matcher := none
  status : Nat := 0
  stopped : Bool := false

inductive Next where
  | at (index : Nat)
  | done
  | delete
  | restart
  | quit (silent : Bool)

def State.write (state : State) (text : Octets) : State :=
  { state with output := text :: state.output }

def State.writeLine (state : State) (line : Octets) : State :=
  state.write (if state.ended then line ++ ['\n'] else line)

def State.flush (state : State) : State :=
  { state.queue.reverse.foldl State.write state with queue := [] }

def matchesAddress (state : State) : Address → Bool × State
  | .line number => (state.number = number, state)
  | .last => (state.rest.isEmpty, state)
  | .regex wanted =>
    let wanted := wanted.or state.latest
    (wanted.any fun wanted => (wanted.find { line := state.space.toArray } 0).isSome,
      { state with latest := wanted })
  | .count _ => (false, state)

def applies (index : Nat) (instruction : Instruction) (state : State) : Bool × State :=
  match instruction.first, instruction.second with
  | none, _ => (true, state)
  | some first, none => matchesAddress state first
  | some first, some second =>
    let others := state.ranges.filter fun range => range.1 ≠ index
    match state.ranges.lookup index with
    | some (some last) =>
      if state.number < last then (true, state)
      else if state.number = last then (true, { state with ranges := others })
      else matchesAddress { state with ranges := others } first
    | some none =>
      let (ends, state) := matchesAddress state second
      (true, if ends then { state with ranges := others } else state)
    | none =>
      let (starts, state) := matchesAddress state first
      let last : Option Nat := match second with
        | .line last => some last
        | .count lines => some (state.number + lines)
        | _ => none
      let open_ := starts && last.all (state.number < ·)
      (starts, if open_ then { state with ranges := (index, last) :: others } else state)

def render (line : Regex.Subject) (start : Nat) (found : Regex.Found) : Replacement → Octets
  | .text text => text
  | .group 0 => line.slice start found.finish
  | .group number => found.text line number

def replaceFrom (matcher : Regex.Matcher) (all : Bool) (occurrence : Nat)
    (replacement : List Replacement) (line : Regex.Subject) :
    (fuel start count : Nat) → (lastEnd : Option Nat) → (replaced : Bool) → List Octets →
      List Octets × Bool
  | 0, start, _, _, replaced, parts => (line.slice start line.line.size :: parts, replaced)
  | fuel + 1, start, count, lastEnd, replaced, parts =>
    match matcher.find line start with
    | none => (line.slice start line.line.size :: parts, replaced)
    | some (first, found) =>
      let before := line.slice start first
      let isEmpty := first = found.finish
      -- An empty match right behind another one does not count.
      let skipped := isEmpty && lastEnd = some first
      let counts := !skipped && occurrence ≤ count
      let text := if counts then replacement.flatMap (render line first found)
        else line.slice first found.finish
      let parts := text :: before :: parts
      let replaced := replaced || counts
      let count := if skipped then count else count + 1
      if counts && !all then (line.slice found.finish line.line.size :: parts, true)
      else if !isEmpty then
        replaceFrom matcher all occurrence replacement line fuel found.finish count
          (some found.finish) replaced parts
      else if line.line.size ≤ first then (parts, replaced)
      else
        replaceFrom matcher all occurrence replacement line fuel (first + 1) count none replaced
          (line.slice first (first + 1) :: parts)

def State.advance (state : State) (join : Bool) : State :=
  match state.rest with
  | [] => state
  | line :: rest =>
    { state with
      space := if join then state.space ++ '\n' :: line.text else line.text
      number := state.number + 1
      rest
      ended := line.ended }

def perform (program : Array Instruction) (quiet : Bool) (index : Nat)
    (instruction : Instruction) (state : State) : Next × State :=
  let next : Next := .at (index + 1)
  let shown (state : State) : State := if quiet then state else state.writeLine state.space
  match instruction.action with
  | .open _ => (next, state)
  | .substitute wanted replacement all occurrence prints =>
    match wanted.or state.latest with
    | none => (next, state)
    | some wanted =>
      let line : Regex.Subject := { line := state.space.toArray }
      let (parts, replaced) :=
        replaceFrom wanted all occurrence replacement line (line.line.size + 2) 0 1 none false []
      let state := { state with latest := some wanted }
      if !replaced then (next, state)
      else
        let state := { state with space := parts.reverse.flatten, replaced := true }
        (next, if prints then state.writeLine state.space else state)
  | .translate table =>
    (next, { state with space := state.space.map fun c => (table.lookup c).getD c })
  | .add 'a' text => (next, { state with queue := text :: state.queue })
  | .add 'i' text => (next, state.write text)
  | .add _ text =>
    let inside := !instruction.negated && (state.ranges.lookup index).isSome
    (.delete, if inside then state else state.write text)
  | .jump letter label =>
    if letter = ':' || (letter = 't' && !state.replaced) then (next, state)
    else
      let state := if letter = 't' then { state with replaced := false } else state
      (.at ((labelIndex? program label).getD program.size), state)
  | .simple letter status =>
    match letter with
    | 'q' | 'Q' => (.quit (letter = 'Q'), { state with status, stopped := true })
    | 'p' => (next, state.writeLine state.space)
    | 'd' => (.delete, state)
    | 'D' =>
      if state.space.contains '\n' then
        (.restart, { state with space := (state.space.dropWhile (· ≠ '\n')).drop 1 })
      else (.delete, state)
    | 'n' =>
      if state.rest.isEmpty then (.quit false, state)
      else (next, (shown state).flush.advance false)
    | 'N' => if state.rest.isEmpty then (.quit false, state) else (next, state.flush.advance true)
    | 'P' => (next, state.write (state.space.takeWhile (· ≠ '\n') ++ ['\n']))
    | 'h' => (next, { state with held := state.space })
    | 'H' => (next, { state with held := state.held ++ '\n' :: state.space })
    | 'g' => (next, { state with space := state.held })
    | 'G' => (next, { state with space := state.space ++ '\n' :: state.held })
    | 'x' => (next, { state with space := state.held, held := state.space })
    | '=' => (next, state.write (natText state.number ++ ['\n']))
    | _ => (next, state)

def cycle (program : Array Instruction) (quiet : Bool) : (fuel index : Nat) → State →
    Next × State
  | 0, _, state => (.quit true, state)
  | fuel + 1, index, state =>
    match program[index]? with
    | none => (.done, state)
    | some instruction =>
      let (holds, state) := applies index instruction state
      if holds == instruction.negated then
        match instruction.action with
        | .open finish => cycle program quiet fuel (finish + 1) state
        | _ => cycle program quiet fuel (index + 1) state
      else
        match perform program quiet index instruction state with
        | (.at index, state) => cycle program quiet fuel index state
        | other => other

def cycles (program : Array Instruction) (quiet : Bool) : (fuel : Nat) → (fresh : Bool) →
    State → State
  | 0, _, state => state
  | fuel + 1, fresh, state =>
    if fresh && state.rest.isEmpty then state
    else
      let state := if fresh then { state.advance false with replaced := false } else state
      let finished (state : State) : State :=
        (if quiet then state else state.writeLine state.space).flush
      match cycle program quiet 1000000 0 state with
      | (.delete, state) => cycles program quiet fuel true state.flush
      | (.restart, state) => cycles program quiet fuel false state.flush
      | (.quit true, state) => state.flush
      | (.quit false, state) => finished state
      | (_, state) => cycles program quiet fuel true (finished state)

def linesOf (text : Octets) : List Line :=
  (linesBy '\n' text).map fun line =>
    let ended := line.getLast? = some '\n'
    ⟨if ended then line.dropLast else line, ended⟩

def joinedLines : List (List Line) → List Line
  | [] => []
  | [lines] => lines
  | lines :: rest => lines.map (fun line => { line with ended := true }) ++ joinedLines rest

def replaced (files : Files) (path : String) (content : Octets) : Except FileFault Files := do
  let (_, node) ← files.find path
  let spot ← files.spot false path
  files.requireWritable spot.base
  return files.put spot.location { kind := .file content, mode := node.mode, time := files.now }

end Editing

def sed : Tool := fun arguments => do
  let spec : Options := ⟨"nErsui", "e", [("quiet", 'n'), ("silent", 'n'), ("expression", 'e'),
    ("regexp-extended", 'E'), ("in-place", 'i')]⟩
  let usage : Step Nat := do
    Step.report ("Usage: " ++ (← name) ++
      " [OPTION]... \x7bscript-only-if-no-other-script\x7d [input-file]...")
    return 1
  match parse spec false arguments with
  | .error text =>
    complain text
    usage
  | .ok found =>
    let scripts := (found.options.filter (·.1 = 'e')).map (·.2)
    let (scripts, operands) :=
      if scripts.isEmpty then (found.operands.take 1, found.operands.drop 1)
      else (scripts, found.operands)
    if scripts.isEmpty then return ← usage
    let script := List.intercalate ['\n'] scripts
    match Editing.instructions ⟨found.has 'E' || found.has 'r', script.length⟩
        (script.length + 1) script with
    | .error (position, message) =>
      complain (s!"-e expression #1, char {position}: " ++ message)
      return 1
    | .ok program =>
      let mut inputs : List (Octets × List Editing.Line) := []
      let mut status := 0
      let mut waits := false
      for path in if operands.isEmpty then [['-']] else operands do
        match ← contentNow true path with
        | .ok (text, isCut) =>
          waits := isCut
          inputs := inputs ++ [(path, Editing.linesOf text)]
          if isCut then break
        | .error reason =>
          let isDirectory := reason = "Is a directory"
          complain (if isDirectory then "read error on " ++ path ++ ": Is a directory"
            else "can't read " ++ path ++ ": " ++ reason)
          status := if isDirectory then 4 else 2
      let groups := if found.has 'i' then inputs
        else [([], Editing.joinedLines (inputs.map (·.2)))]
      for (path, lines) in groups do
        let state := Editing.cycles (Editing.linked program) (found.has 'n')
          (2 * lines.length + 100000) true { rest := lines }
        let output := state.output.reverse.flatten
        if state.status ≠ 0 then status := state.status
        if found.has 'i' then
          match Editing.replaced (← Step.files) (Text.ofOctets path) output with
          | .ok files => Step.setFiles files
          | .error fault =>
            complain ("couldn't open temporary file ./sedXXXXXX: " ++ fault.reason)
            status := 4
        else if !output.isEmpty then Step.print output
        if state.stopped then
          waits := false
          break
      if waits then throw .starved
      return status

end Modelsmith.Shell.Tool
