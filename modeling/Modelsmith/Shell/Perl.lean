import Modelsmith.Shell.Awk.Value
import Modelsmith.Shell.Regex.Matching
import Modelsmith.Shell.Tool.Basic
import Std.Data.HashMap

/-! Short scripts for extraction and reports: statements without branches. They are run as they are
read, and what is not run is passed over, so a map goes back to where its body begins. -/

set_option autoImplicit false

namespace Modelsmith.Shell.Perl

open Awk (Value)

/-! Values. -/

def textOf : Value → Octets
  | .ofNumber value =>
    if Value.isInteger value then Value.intText (Value.toInt value)
    else Value.doubleText { precision := some 15 } 'g' value
  | value => value.toText

def wholeOf (value : Value) : Int := Value.toInt value.toNumber

/-- What an expression stands for: values in a row, and the variable that can be assigned to. -/
structure Item where
  values : List Value := []
  name : Octets := []

namespace Item

def ofValue (value : Value) : Item := { values := [value] }

def ofText (text : Octets) : Item := .ofValue (.ofText text)

def value (item : Item) : Value := item.values.getLast?.getD .unset

def text (item : Item) : Octets := textOf item.value

end Item

structure State where
  machine : Machine
  file : Octets
  rest : Octets := []
  line : Nat := 1
  isLive : Bool := false
  target : Item := {}
  scope : Std.HashMap Octets Value := ∅
  found : List Octets := []

inductive Signal where
  | die (words : Octets)
  | exit (status : Nat)
  | stop (stop : Stop)

abbrev Act := EStateM Signal State

/-! Characters and words. -/

def isSpace (c : Char) : Bool := c = ' ' || c = '\t' || c = '\n' || c = '\r'

def isWord (c : Char) : Bool := c.isAlphanum || c = '_'

def wordOf (text : Octets) : Octets :=
  if text.head?.any fun c => c.isAlpha || c = '_' then text.takeWhile isWord else []

def nameOf (text : Octets) : Octets :=
  let name := text.takeWhile isWord
  if name.isEmpty then (text.take 1).filter (· = '&') else name

def escaped : Char → Char
  | 'n' => '\n'
  | 't' => '\t'
  | 'r' => '\r'
  | '0' => '\x00'
  | c => c

def operators : List (String × Nat) := [
  ("**", 21), ("..", 8), ("=~", 19), ("*=", 6), ("/=", 6), (".=", 6), ("+=", 6), ("-=", 6), ("%=", 6),
  ("*", 18), ("/", 18), ("%", 18), ("+", 17), ("-", 17), (".", 17), ("=", 6)]

def operator? (text : Octets) : Option (String × Nat) :=
  let begins (words : String) : Bool := words.toList.isPrefixOf text
  if begins "=>" then none
  else if begins "x" && (wordOf text).tail.all Char.isDigit then some ("x", 18)
  else operators.find? (begins ·.1)

def functions : List String := ["exit", "int", "join", "lc", "length", "reverse", "sprintf", "uc"]

def closing : Char → Char
  | '(' => ')'
  | '[' => ']'
  | '\x7b' => '\x7d'
  | c => c

def bodyOf (opening : Char) : (fuel depth : Nat) → Octets → Octets → Option (Octets × Octets)
  | 0, _, _, _ | _, _, _, [] => none
  | fuel + 1, depth, done, '\\' :: c :: rest => bodyOf opening fuel depth (c :: '\\' :: done) rest
  | fuel + 1, depth, done, c :: rest =>
    if c = closing opening then
      if depth = 0 then some (done.reverse, rest)
      else bodyOf opening fuel (depth - 1) (c :: done) rest
    else bodyOf opening fuel (if c = opening then depth + 1 else depth) (c :: done) rest

def plainText : Octets → Octets
  | '\\' :: c :: rest =>
    if c = '\\' || c = '\x27' then c :: plainText rest else '\\' :: c :: plainText rest
  | c :: rest => c :: plainText rest
  | [] => []

/-! Patterns. -/

def spelled (inSet : Bool) : Octets → Octets
  | '\\' :: 'd' :: rest => (if inSet then "0-9" else "[0-9]") ++ spelled inSet rest
  | '\\' :: c :: rest =>
    if c = 'n' || c = 't' || c = 'r' then escaped c :: spelled inSet rest
    else if inSet then c :: spelled true rest
    else '\\' :: c :: spelled false rest
  | c :: rest => c :: spelled (if inSet then c ≠ ']' else c = '[') rest
  | [] => []

def charList : Octets → List Char
  | '\\' :: c :: rest => escaped c :: charList rest
  | first :: '-' :: last :: rest =>
    (List.range (last.toNat + 1 - first.toNat)).map (fun offset =>
      Char.ofNat (first.toNat + offset)) ++ charList rest
  | c :: rest => c :: charList rest
  | [] => []

def exchanged (sources targets : List Char) (deletes : Bool) (text : Octets) : Octets :=
  let last := if deletes then none else targets.getLast?
  text.flatMap fun c =>
    match sources.idxOf? c with
    | none => [c]
    | some index => if targets.isEmpty && !deletes then [c] else ((targets[index]?).or last).toList

def groupsOf (matcher : Regex.Matcher) (subject : Regex.Subject) (start : Nat)
    (found : Regex.Found) : List Octets :=
  subject.slice start found.finish ::
    (List.range' 1 matcher.groupCount).map (found.text subject)

def allMatches (matcher : Regex.Matcher) (subject : Regex.Subject) : (fuel start : Nat) →
    List (Nat × Regex.Found)
  | 0, _ => []
  | fuel + 1, start =>
    match matcher.find subject start with
    | none => []
    | some (first, found) =>
      (first, found) :: if subject.line.size ≤ first && first = found.finish then []
        else allMatches matcher subject fuel (max found.finish (first + 1))

def formatted : List Value → Octets
  | [] => []
  | format :: values =>
    let format := textOf format
    let values := values ++ List.replicate format.length .unset
    (Value.fill (format.length + 1) 1 format values []).1.reverse.flatten

namespace Act

def ofStep {α : Type} (step : Step α) : Act α := fun state =>
  match step.run state.machine with
  | (.ok result, machine) => .ok result { state with machine }
  | (.error stop, machine) => .error (.stop stop) { state with machine }

def place : Act Octets := do
  let state ← get
  return " at " ++ state.file ++ s!" line {state.line}"

def dieWith {α : Type} (words : Octets) : Act α := do
  throw (.die (words ++ (← place) ++ ".\n"))

def emit (toError : Bool) (text : Octets) : Act Unit := do
  if toError then let _ ← ofStep (Step.write 2 text)
  else if !text.isEmpty then ofStep (Step.print text)

/-! Reading. -/

def rest : Act Octets := return (← get).rest

def unexpected {α : Type} : Act α := do
  let text ← rest
  let near : Octets := if text.all isSpace then ", at EOF"
    else ", near \"" ++ text.takeWhile (· ≠ '\n') ++ ['"']
  throw (.die ("syntax error" ++ (← place) ++ near ++ "\nExecution of " ++ (← get).file ++
    " aborted due to compilation errors.\n"))

def drop (count : Nat) : Act Unit :=
  modify fun state =>
    { state with
      rest := state.rest.drop count
      line := state.line + ((state.rest.take count).filter (· = '\n')).length }

def skip : Act Unit := do drop ((← rest).takeWhile isSpace).length

def isAt (text : String) : Act Bool := do
  skip
  return text.toList.isPrefixOf (← rest)

def accept (text : String) : Act Bool := do
  if ← isAt text then
    drop text.length
    return true
  return false

def expect (text : String) : Act Unit := do if !(← accept text) then unexpected

def word : Act Octets := do
  skip
  return wordOf (← rest)

def acceptWord (text : String) : Act Bool := do
  if (← word) = text.toList then
    drop text.length
    return true
  return false

def delimited : Act (Char × Octets) := do
  match ← rest with
  | [] => unexpected
  | opening :: text =>
    match bodyOf opening (text.length + 1) 0 [] text with
    | some (body, after) =>
      drop (1 + text.length - after.length)
      return (opening, body)
    | none => dieWith ("Can't find string terminator \"" ++ [closing opening] ++
        "\" anywhere before EOF")

def secondPart (opening : Char) : Act Octets := do
  if closing opening ≠ opening then skip
  else modify fun state => { state with rest := opening :: state.rest }
  return (← delimited).2

def letters : Act Octets := do
  let flags := (← rest).takeWhile Char.isAlpha
  drop flags.length
  return flags

def goTo (before : State) : Act Unit :=
  modify fun state => { state with rest := before.rest, line := before.line }

def unrun {α : Type} (step : Act α) : Act α := do
  let before := (← get).isLive
  modify fun state => { state with isLive := false }
  let result ← step
  modify fun state => { state with isLive := before }
  return result

def startsTerm : Act Bool := do
  skip
  return (← rest).head?.any fun c => isWord c || "$\"'(/-".toList.contains c

def number : Act Item := do
  let text ← rest
  let digits := text.takeWhile Char.isDigit
  let fraction : Octets := match text.drop digits.length with
    | '.' :: '.' :: _ => []
    | '.' :: more => '.' :: more.takeWhile Char.isDigit
    | _ => []
  drop (digits.length + fraction.length)
  return .ofValue (.ofNumber (Value.numberOf (digits ++ fraction)))

/-! Variables. -/

def getValue (name : Octets) : Act Value := do
  let state ← get
  if name = ['&'] || name.all Char.isDigit then
    return ((state.found[Value.decimal (name.filter Char.isDigit)]?).map .ofText).getD .unset
  return state.scope.getD name .unset

def setValue (name : Octets) (value : Value) : Act Unit :=
  modify fun state => { state with scope := state.scope.insert name value }

def held (name : Octets) : Act Item := return { values := [← getValue name], name }

def assign (left : Item) (value : Value) : Act Item := do
  if !(← get).isLive then return left
  if left.name.isEmpty then dieWith "Can't modify constant item in scalar assignment"
  setValue left.name value
  return { left with values := [value] }

def computed (operator : String) (left right : Value) : Act Value := do
  let x := left.toNumber
  let y := right.toNumber
  match operator with
  | "+" => return .ofNumber (x + y)
  | "-" => return .ofNumber (x - y)
  | "*" => return .ofNumber (x * y)
  | "/" => if y == 0 then dieWith "Illegal division by zero" else return .ofNumber (x / y)
  | "%" =>
    if wholeOf right = 0 then dieWith "Illegal modulus zero"
    return .ofNumber (Float.ofInt (Int.fmod (wholeOf left) (wholeOf right)))
  | "**" => return .ofNumber (Float.pow x y)
  | "x" => return .ofText (List.replicate (wholeOf right).toNat (textOf left)).flatten
  | _ => return .ofText (textOf left ++ textOf right)

def matcherOf (source flags : Octets) : Act Regex.Matcher := do
  match Regex.read true (spelled false source) with
  | .ok regex => return Regex.matcher regex (flags.contains 'i')
  | .error words => dieWith words

def apply (function : String) (values : List Value) : Act Item := do
  let first := values.headD .unset
  let text := textOf first
  match function with
  | "exit" => throw (.exit (wholeOf first % 256).toNat)
  | "int" => return .ofValue (.ofNumber (Float.ofInt (wholeOf first)))
  | "join" => return .ofText ((values.tail.map textOf).intersperse text).flatten
  | "lc" => return .ofText (text.map Char.toLower)
  | "length" => return .ofValue (.ofNat text.length)
  | "reverse" => return { values := values.reverse }
  | "sprintf" => return .ofText (formatted values)
  | _ => return .ofText (text.map Char.toUpper)

def takeTarget : Act Item := do
  let target := (← get).target
  modify fun state => { state with target := {} }
  if target.values.isEmpty then held ['_'] else return target

def matching (source flags : Octets) : Act Item := do
  let target ← takeTarget
  if !(← get).isLive then return {}
  let matcher ← matcherOf source flags
  let subject := Regex.Subject.ofOctets target.text
  match matcher.find subject 0 with
  | none => return {}
  | some (start, found) =>
    let groups := groupsOf matcher subject start found
    modify fun state => { state with found := groups }
    if 1 < groups.length then return { values := groups.tail.map .ofText }
    return .ofValue (.ofNat 1)

def exchange : Act Item := do
  let (opening, sources) ← delimited
  let targets ← secondPart opening
  let flags ← letters
  let target ← takeTarget
  assign target (.ofText
    (exchanged (charList sources) (charList targets) (flags.contains 'd') target.text))

def filled (isPattern : Bool) : (fuel : Nat) → Octets → Act Octets
  | 0, _ | _, [] => return []
  | fuel + 1, '\\' :: c :: rest =>
    (if isPattern then ['\\', c] else [escaped c]).append <$> filled isPattern fuel rest
  | fuel + 1, '$' :: rest => do
    let name := nameOf rest
    let value ← if name.isEmpty then pure ['$'] else textOf <$> getValue name
    return value ++ (← filled isPattern fuel (rest.drop name.length))
  | fuel + 1, c :: rest => (c :: ·) <$> filled isPattern fuel rest

def interpolated (isPattern : Bool) (text : Octets) : Act Octets :=
  filled isPattern (text.length + 1) text

def substitution : Act Item := do
  let (opening, source) ← delimited
  let replacement ← secondPart opening
  let flags ← letters
  let target ← takeTarget
  let text := target.text
  let subject := Regex.Subject.ofOctets text
  let matcher ← matcherOf (← interpolated true source) flags
  let founds := allMatches matcher subject (text.length + 2) 0
  let founds := if flags.contains 'g' then founds else founds.take 1
  if founds.isEmpty || !(← get).isLive then return {}
  let mut done : Octets := []
  let mut start := 0
  for (first, found) in founds do
    modify fun state => { state with found := groupsOf matcher subject first found }
    done := done ++ subject.slice start first ++ (← interpolated false replacement)
    start := found.finish
  assign target (.ofText (done ++ subject.slice start text.length))

mutual

def full : (fuel : Nat) → Act Item
  | 0 => unexpected
  | fuel + 1 => do
    let first ← binary fuel 6
    if !((← accept "=>") || (← accept ",")) || !(← startsTerm) then return first
    return { values := first.values ++ (← full fuel).values }

def binary : (fuel level : Nat) → Act Item
  | 0, _ => unexpected
  | fuel + 1, level => do operated fuel level (← term fuel)

def operated : (fuel level : Nat) → Item → Act Item
  | 0, _, _ => unexpected
  | fuel + 1, level, left => do
    skip
    match operator? (← rest) with
    | none => return left
    | some (operator, tightness) =>
      if tightness < level then return left
      drop operator.length
      operated fuel level (← operation fuel operator tightness left)

def operation : (fuel : Nat) → (operator : String) → (tightness : Nat) → Item → Act Item
  | 0, _, _, _ => unexpected
  | fuel + 1, operator, tightness, left => do
    match operator with
    | "=" => assign left (← binary fuel 6).value
    | "=~" =>
      modify fun state => { state with target := left }
      binary fuel (tightness + 1)
    | ".." =>
      let first := wholeOf left.value
      let last := wholeOf (← binary fuel (tightness + 1)).value
      return { values := (List.range (last + 1 - first).toNat).map fun (index : Nat) =>
        .ofNumber (Float.ofInt (first + index)) }
    | operator =>
      let isAssignment := tightness = 6
      let right ← binary fuel (if isAssignment || operator = "**" then tightness else tightness + 1)
      if !(← get).isLive then return {}
      let operator := if isAssignment then (operator.dropEnd 1).toString else operator
      let result ← computed operator left.value right.value
      if isAssignment then assign left result else return .ofValue result

def term : (fuel : Nat) → Act Item
  | 0 => unexpected
  | fuel + 1 => do
    let name ← word
    if !name.isEmpty then
      drop name.length
      named fuel (String.ofList name)
    else
      match ← rest with
      | '"' :: _ => return .ofText (← interpolated false (← delimited).2)
      | '\x27' :: _ => return .ofText (plainText (← delimited).2)
      | '/' :: _ =>
        let source := (← delimited).2
        let flags ← letters
        matching (← interpolated true source) flags
      | '(' :: _ =>
        expect "("
        let inside ← if ← isAt ")" then pure {} else full fuel
        expect ")"
        return inside
      | '$' :: more =>
        let name := nameOf more
        if name.isEmpty then unexpected
        drop (name.length + 1)
        held name
      | '-' :: _ =>
        drop 1
        return .ofValue (.ofNumber (-(← binary fuel 20).value.toNumber))
      | c :: _ => if c.isDigit then number else unexpected
      | [] => unexpected

def named : (fuel : Nat) → (name : String) → Act Item
  | 0, _ => unexpected
  | fuel + 1, name => do
    let arguments : Act Item := do
      if ← isAt "(" then term fuel else if ← startsTerm then full fuel else held ['_']
    match name with
    | "my" => term fuel
    | "s" => substitution
    | "tr" | "y" => exchange
    | "map" => mapped fuel
    | "print" | "printf" =>
      let toError ← acceptWord "STDERR"
      let given ← arguments
      if (← get).isLive then
        emit toError (if name = "printf" then formatted given.values
          else (given.values.map textOf).flatten)
      return .ofValue (.ofNat 1)
    | name =>
      if !functions.contains name then return .ofText name.toList
      let given ← arguments
      if (← get).isLive then apply name given.values else return {}

def mapped : (fuel : Nat) → Act Item
  | 0 => unexpected
  | fuel + 1 => do
    skip
    let before ← get
    let _ ← unrun (block fuel)
    let values := (← full fuel).values
    let after ← get
    if !after.isLive then return {}
    let outer ← getValue ['_']
    let mut results : List Value := []
    for value in values do
      goTo before
      setValue ['_'] value
      results := results ++ (← block fuel).values
    setValue ['_'] outer
    goTo after
    return { values := results }

def block : (fuel : Nat) → Act Item
  | 0 => unexpected
  | fuel + 1 => do
    expect "\x7b"
    let result ← statements fuel {}
    expect "\x7d"
    return result

def statements : (fuel : Nat) → Item → Act Item
  | 0, _ => unexpected
  | fuel + 1, result => do
    skip
    match ← rest with
    | [] | '\x7d' :: _ => return result
    | ';' :: _ =>
      drop 1
      statements fuel result
    | _ =>
      let result ← full fuel
      skip
      if (← rest).head?.all fun c => c = ';' || c = '\x7d' then statements fuel result
      else unexpected

end

def script (text : Octets) (isLive : Bool) : Act Unit := do
  modify fun state => { state with rest := text, line := 1, isLive }
  let _ ← statements 100000 {}
  if !(← rest).isEmpty then unexpected

end Act

end Modelsmith.Shell.Perl
