import Modelsmith.Shell.Awk.Value
import Modelsmith.Shell.Regex.Matching
import Modelsmith.Shell.Tool.Basic
import Std.Data.HashMap

/-! Scripts that scan records, without loops and tables. They are run as they are read, and what is
not run is passed over; a rule is read again for each record. -/

set_option autoImplicit false

namespace Modelsmith.Shell.Awk

abbrev Point := Octets

inductive Spot where
  | named (name : Octets)
  | field (index : Nat)

/-- What an expression stands for: its value, where it is kept, and the pattern it was written as.
Values between commas in brackets come as a group. -/
structure Item where
  value : Value := .unset
  spot : Option Spot := none
  matcher : Option Regex.Matcher := none
  group : List Value := []

inductive RuleKind where
  | start
  | each
  | finish
  deriving DecidableEq

structure Rule where
  kind : RuleKind
  first : Option Point := none
  body : Option Point := none

structure State where
  machine : Machine
  script : Octets
  rest : Point := []
  isLive : Bool := false
  values : Std.HashMap Octets Value := ∅
  record : Octets := []
  fields : Array Value := #[]
  input : Option Octets := none
  isCut : Bool := false
  operands : List Octets := []
  hasFile : Bool := false
  status : Nat := 0

inductive Signal where
  | next
  | exit
  | fatal (words : Octets)
  | stop (stop : Stop)

abbrev Act := EStateM Signal State

/-! Characters and words. -/

def isNameStart (c : Char) : Bool := c.isAlpha || c = '_'

def wordOf (text : Octets) : Octets :=
  if text.head?.any isNameStart then text.takeWhile fun c => isNameStart c || c.isDigit else []

def signs : List String :=
  ["&&", "||", "++", "--", "+=", "-=", "*=", "/=", "%=", "^=", "==", "<=", ">=", "!=", "!~", ">>",
    "\x7b", "\x7d", "(", ")", "[", "]", ";", ",", "+", "-", "*", "/", "%", "^", "!", "<", ">", "?",
    ":", "~", "$", "=", "\n"]

def operators : List (String × Nat) := [
  ("||", 0), ("&&", 1), ("~", 3), ("!~", 3), ("<", 4), ("<=", 4), ("==", 4), ("!=", 4), (">", 4),
  (">=", 4), ("+", 6), ("-", 6), ("*", 7), ("/", 7), ("%", 7)]

def functions : List String :=
  ["index", "int", "length", "sprintf", "substr", "tolower", "toupper"]

def keywords : List String :=
  ["BEGIN", "END", "function", "if", "else", "while", "do", "for", "in", "break", "continue",
    "next", "exit", "delete", "getline", "print", "printf"]

def skipped : Octets → Octets
  | '\\' :: '\n' :: rest => skipped rest
  | '#' :: rest => rest.dropWhile (· ≠ '\n')
  | c :: rest => if c = ' ' || c = '\t' || c = '\r' then skipped rest else c :: rest
  | [] => []

def escape? : Octets → Option (Char × Octets)
  | 'n' :: rest => some ('\n', rest)
  | 't' :: rest => some ('\t', rest)
  | 'r' :: rest => some ('\r', rest)
  | 'a' :: rest => some ('\x07', rest)
  | 'b' :: rest => some ('\x08', rest)
  | 'f' :: rest => some ('\x0c', rest)
  | 'v' :: rest => some ('\x0b', rest)
  | '\\' :: rest => some ('\\', rest)
  | '"' :: rest => some ('"', rest)
  | '/' :: rest => some ('/', rest)
  | text =>
    let digits := (text.take 3).takeWhile Printing.isOctal
    if digits.isEmpty then none else some (Printing.octal digits, text.drop digits.length)

def unescape : (fuel : Nat) → Octets → Octets
  | fuel + 1, '\\' :: rest =>
    match escape? rest with
    | some (c, rest) => c :: unescape fuel rest
    | none => '\\' :: unescape fuel rest
  | fuel + 1, c :: rest => c :: unescape fuel rest
  | _, text => text

/-- A regular expression in the common notation, with characters in place of their codes. -/
def spelled : (fuel : Nat) → Octets → Octets
  | fuel + 1, '\\' :: rest =>
    match escape? rest, rest with
    | some (c, rest), _ => (if c = '\\' then ['\\', c] else [c]) ++ spelled fuel rest
    | none, c :: rest => '\\' :: c :: spelled fuel rest
    | none, [] => ['\\', '\\']
  | fuel + 1, c :: rest => c :: spelled fuel rest
  | _, text => text

def bodyOf (mark : Char) (inSet : Bool) (done : Octets) : Octets → Option (Octets × Octets)
  | [] | '\n' :: _ => none
  | '\\' :: c :: rest => bodyOf mark inSet (c :: '\\' :: done) rest
  | c :: rest =>
    if c = mark && !inSet then some (done.reverse, rest)
    else
      let inSet := mark = '/' &&
        (if c = '[' then true else if c = ']' then done.head? = some '[' else inSet)
      bodyOf mark inSet (c :: done) rest

def assigning? (text : Octets) : Option (Octets × Octets) :=
  let name := wordOf text
  match text.drop name.length with
  | '=' :: value => if name.isEmpty then none else some (name, value)
  | _ => none

/-! Dividing. -/

def partsAt (isMark : Char → Bool) (text : Octets) : List Octets :=
  text.foldr (fun c parts =>
    match parts with
    | part :: parts => if isMark c then [] :: part :: parts else (c :: part) :: parts
    | [] => if isMark c then [[], []] else [[c]]) []

/-! Numbers and texts. -/

def computed (operator : String) (left right : Float) : Float :=
  match operator with
  | "+" => left + right
  | "-" => left - right
  | "*" => left * right
  | "/" => left / right
  | "^" => Float.pow left right
  | _ =>
    let quotient := left / right
    left - right * (if quotient < 0 then quotient.ceil else quotient.floor)

def compared (operator : String) (less equal more : Bool) : Value :=
  .ofBool <| match operator with
    | "<" => less
    | "<=" => less || equal
    | "==" => equal
    | "!=" => !equal
    | ">" => more
    | _ => more || equal

def indexOf (part : Octets) : Nat → Octets → Nat
  | index, text =>
    if part.isPrefixOf text then index
    else
      match text with
      | [] => 0
      | _ :: rest => indexOf part (index + 1) rest

namespace Act

def ofStep {α : Type} (step : Step α) : Act α := fun state =>
  match step.run state.machine with
  | (.ok result, machine) => .ok result { state with machine }
  | (.error stop, machine) => .error (.stop stop) { state with machine }

/-! Reading. -/

def skip : Act Unit := modify fun state => { state with rest := skipped state.rest }

def rest : Act Octets := return (← get).rest

def drop (count : Nat) : Act Unit := modify fun state => { state with rest := state.rest.drop count }

def goTo (point : Point) : Act Unit := modify fun state => { state with rest := point }

def sign : Act String := do
  skip
  let text ← rest
  return (signs.find? fun sign => sign.toList.isPrefixOf text).getD ""

def word : Act String := do
  skip
  return String.ofList (wordOf (← rest))

def unexpected {α : Type} : Act α := do
  let sign ← sign
  let state ← get
  let before := state.script.take (state.script.length - state.rest.length)
  let word := wordOf state.rest
  let near : Octets := if state.rest.isEmpty || state.rest = ['\n'] then "unexpected end of file"
    else "syntax error at or near " ++ (if sign = "\n" then "end of line".toList
      else if !sign.isEmpty then sign.toList
      else if word.isEmpty then state.rest.take 1 else word)
  let line := (before.filter (· = '\n')).length + 1
  throw (.fatal (s!"line {line}: " ++ near))

def accept (mark : String) : Act Bool := do
  if (← sign) = mark then
    drop mark.length
    return true
  return false

def expect (mark : String) : Act Unit := do if !(← accept mark) then unexpected

def acceptWord (text : String) : Act Bool := do
  if (← word) = text then
    drop text.length
    return true
  return false

def skipLines : Act Unit := modify fun state =>
  { state with rest := go (state.rest.length + 1) state.rest }
where
  go : Nat → Octets → Octets
    | 0, text => text
    | fuel + 1, text =>
      match skipped text with
      | '\n' :: rest => go fuel rest
      | rest => rest

def onlyIf {α : Type} (condition : Bool) (step : Act α) : Act α := do
  let before := (← get).isLive
  modify fun state => { state with isLive := before && condition }
  let result ← step
  modify fun state => { state with isLive := before }
  return result

/-! Values. -/

def getValue (name : Octets) : Act Value := return (← get).values.getD name .unset

def setValue (name : Octets) (value : Value) : Act Unit :=
  modify fun state => { state with values := state.values.insert name value }

def textNamed (name : Octets) : Act Octets := return (← getValue name).toText

def fatal {α : Type} (words : Octets) : Act α := do
  throw (.fatal ("run time error: " ++ words ++ "\n\tFILENAME=\"" ++ (← textNamed "FILENAME") ++
    "\" FNR=" ++ (← textNamed "FNR") ++ " NR=" ++ (← textNamed "NR")))

def matcherOf (text : Octets) : Act Regex.Matcher := do
  match Regex.read true (spelled (text.length + 1) text) with
  | .ok regex => return regex.matcher false
  | .error words => fatal ("regular expression compile failed (" ++ words ++ ")\n" ++ text)

def parts (text : Octets) : Act (List Octets) := do
  match ← textNamed "FS" with
  | [] => return text.map ([·])
  | [' '] =>
    let isBlank (c : Char) : Bool := c = ' ' || c = '\t' || c = '\n'
    return (partsAt isBlank text).filter (· ≠ [])
  | c :: _ => return partsAt (· = c) text

def setRecord (text : Octets) : Act Unit := do
  let fields := (← parts text).map Value.ofInput
  modify fun state => { state with record := text, fields := fields.toArray }
  setValue "NF" (.ofNat fields.length)

def setFields (fields : Array Value) : Act Unit := do
  let texts := fields.toList.map Value.toText
  let record := (texts.intersperse (← textNamed "OFS")).flatten
  modify fun state => { state with fields, record }
  setValue "NF" (.ofNat fields.size)

def resized (fields : Array Value) (size : Nat) : Array Value :=
  fields.extract 0 size ++ Array.replicate (size - fields.size) (.ofText [])

def spotValue : Spot → Act Value
  | .named name => getValue name
  | .field 0 => return .ofInput (← get).record
  | .field (index + 1) => return (← get).fields.getD index .unset

def setSpot (spot : Spot) (value : Value) : Act Unit := do
  if !(← get).isLive then return
  match spot with
  | .named ['N', 'F'] => setFields (resized (← get).fields (Value.toPosition value.toNumber).toNat)
  | .named name => setValue name value
  | .field 0 => setRecord value.toText
  | .field (index + 1) =>
    let fields := (← get).fields
    setFields ((resized fields (max fields.size (index + 1))).setIfInBounds index value)

def comparedValues (operator : String) (left right : Value) : Act Value := do
  let byNumber (x y : Float) : Value := compared operator (x < y) (x == y) (y < x)
  match left.numeric?, right.numeric? with
  | some x, some y => return byNumber x y
  | _, _ =>
    let order := compare left.toText right.toText
    return compared operator (order == .lt) (order == .eq) (order == .gt)

def matchesText (matcher : Regex.Matcher) (text : Octets) : Bool :=
  (matcher.find (.ofOctets text) 0).isSome

def formatted (name : String) (values : List Value) : Act Octets := do
  let format := (values.headD .unset).toText
  let (chunks, fault) :=
    Value.fill (format.length + 1) 1 format values.tail []
  match fault with
  | none => return chunks.reverse.flatten
  | some fault =>
    if name = "printf" then ofStep (Step.print chunks.reverse.flatten)
    let words := match fault with
      | .tooFew => "not enough arguments passed to "
      | .improper number => s!"improper conversion(number {number}) in "
    fatal (words ++ (name ++ "(\"" ++ format ++ "\")"))

/-! Records. -/

def openInput (path : Octets) : Act Unit := do
  match ← ofStep (Tool.contentNow true path) with
  | .ok (text, isCut) =>
    modify fun state => { state with input := some text, isCut, hasFile := true }
    setValue "FILENAME" (.ofText path)
    setValue "FNR" (.ofNumber 0)
  | .error reason => throw (.fatal ("cannot open \"" ++ path ++ "\" (" ++ reason ++ [')']))

def nextRecord : (fuel : Nat) → Act (Option Octets)
  | 0 => return none
  | fuel + 1 => do
    let state ← get
    match state.input, state.operands with
    | some [], _ =>
      if state.isCut then throw (.stop .starved)
      set { state with input := none }
      nextRecord fuel
    | some text, _ =>
      let record := text.takeWhile (· ≠ '\n')
      let left := text.drop (record.length + 1)
      modify fun state => { state with input := some left }
      for name in ["NR", "FNR"] do
        setValue name.toList (.ofNumber ((← getValue name.toList).toNumber + 1))
      return some record
    | none, operand :: operands =>
      set { state with operands }
      match assigning? operand with
      | some (name, value) => setValue name (.ofInput (unescape (value.length + 1) value))
      | none => if !operand.isEmpty then openInput operand
      nextRecord fuel
    | none, [] =>
      if state.hasFile then return none
      openInput ['-']
      nextRecord fuel

def apply (function : String) (arguments : List Item) : Act Value := do
  let first := (arguments.headD {}).value
  let text := first.toText
  let number := first.toNumber
  let position (index : Nat) : Option Int :=
    arguments[index]?.map fun item => Value.toPosition item.value.toNumber
  match function with
  | "int" => return .ofNumber (if number < 0 then number.ceil else number.floor)
  | "tolower" => return .ofText (text.map Char.toLower)
  | "toupper" => return .ofText (text.map Char.toUpper)
  | "sprintf" => return .ofText (← formatted function (arguments.map Item.value))
  | "length" =>
    let record := (← get).record
    return .ofNat (if arguments.isEmpty then record else text).length
  | "index" => return .ofNat (indexOf ((arguments.getD 1 {}).value.toText) 1 text)
  | _ =>
    let start := (position 1).getD 1
    let count := (position 2).getD 2147483647
    let count := if start < 1 then count + (start - 1) else count
    return .ofText ((text.drop (max start 1 - 1).toNat).take count.toNat)

mutual

def value : (fuel : Nat) → Act Item
  | 0 => unexpected
  | fuel + 1 => do
    let condition ← level fuel 0
    if !(← accept "?") then return condition
    let holds := condition.value.isTrue
    skipLines
    let first ← onlyIf holds (value fuel)
    skipLines
    expect ":"
    skipLines
    let second ← onlyIf (!holds) (value fuel)
    return { value := (if holds then first else second).value }

def level : (fuel : Nat) → (binding : Nat) → Act Item
  | 0, _ => unexpected
  | fuel + 1, binding => do
    if binding = 8 then unary fuel
    else levelFrom fuel binding (← level fuel (binding + 1))

def levelFrom : (fuel : Nat) → (binding : Nat) → Item → Act Item
  | 0, _, _ => unexpected
  | fuel + 1, binding, left => do
    let operator ← sign
    let isOperator := operators.contains (operator, binding)
    if isOperator then
      drop operator.length
      if binding ≤ 1 then skipLines
      let holds := left.value.isTrue
      let needed := if binding = 0 then !holds else binding ≠ 1 || holds
      let right ← onlyIf needed (level fuel (binding + 1))
      let result : Value ← if !(← get).isLive then pure .unset
        else match binding with
          | 0 => pure (.ofBool (holds || right.value.isTrue))
          | 1 => pure (.ofBool (holds && right.value.isTrue))
          | 3 =>
            let matcher ← match right.matcher with
              | some matcher => pure matcher
              | none => matcherOf right.value.toText
            pure (.ofBool (matchesText matcher left.value.toText != (operator = "!~")))
          | 4 => comparedValues operator left.value right.value
          | _ => pure (.ofNumber (computed operator left.value.toNumber right.value.toNumber))
      levelFrom fuel binding { value := result }
    else if binding = 5 && (← startsOperand) then
      let right ← level fuel 6
      levelFrom fuel binding { value := .ofText (left.value.toText ++ right.value.toText) }
    else return left
where
  startsOperand : Act Bool := do
    if !(← word).isEmpty then return true
    return (← rest).head?.any fun c => c.isDigit || "\"$(.".toList.contains c

def unary : (fuel : Nat) → Act Item
  | 0 => unexpected
  | fuel + 1 => do
    if ← accept "!" then return { value := .ofBool !(← unary fuel).value.isTrue }
    if ← accept "-" then return { value := .ofNumber (-(← unary fuel).value.toNumber) }
    if ← accept "+" then return { value := .ofNumber (← unary fuel).value.toNumber }
    let base ← stepped fuel
    if !(← accept "^") then return base
    return { value := .ofNumber (computed "^" base.value.toNumber (← unary fuel).value.toNumber) }

def stepped : (fuel : Nat) → Act Item
  | 0 => unexpected
  | fuel + 1 => do
    let item ← operand fuel
    match item.spot with
    | none => return item
    | some spot =>
      let mark ← sign
      if mark = "++" || mark = "--" then
        drop 2
        let before := item.value.toNumber
        setSpot spot (.ofNumber (if mark = "++" then before + 1 else before - 1))
        return { value := .ofNumber before }
      if !(["=", "+=", "-=", "*=", "/=", "%=", "^="].contains mark) then return item
      drop mark.length
      skipLines
      let right := (← value fuel).value
      let left ← if (← get).isLive then spotValue spot else pure .unset
      let result := if mark = "=" then right
        else .ofNumber (computed (mark.take 1).toString left.toNumber right.toNumber)
      setSpot spot result
      return { value := result }

def items : (fuel : Nat) → (mark : String) → Act (List Item)
  | 0, _ => unexpected
  | fuel + 1, mark => do
    skipLines
    if ← accept mark then return []
    let first ← value fuel
    skipLines
    if ← accept "," then return first :: (← items fuel mark)
    expect mark
    return [first]

def operand : (fuel : Nat) → Act Item
  | 0 => unexpected
  | fuel + 1 => do
    let name := (← word).toList
    if !name.isEmpty then
      if keywords.contains (String.ofList name) then unexpected
      drop name.length
      named fuel name
    else
      let ofSpot (spot : Spot) : Act Item := do
        if (← get).isLive then return { value := ← spotValue spot, spot := some spot }
        return { spot := some spot }
      match ← rest with
      | '"' :: text =>
        match bodyOf '"' false [] text with
        | some (body, after) =>
          goTo after
          return { value := .ofText (unescape (body.length + 1) body) }
        | none => unexpected
      | '/' :: text =>
        match bodyOf '/' false [] text with
        | some (body, after) =>
          goTo after
          let matcher ← matcherOf body
          return { value := .ofBool (matchesText matcher (← get).record), matcher := some matcher }
        | none => unexpected
      | '(' :: _ =>
        drop 1
        match ← items fuel ")" with
        | [item] => return { value := item.value }
        | items => return { group := items.map Item.value }
      | '$' :: _ =>
        drop 1
        let sign : Float := if ← accept "-" then -1 else 1
        let index := Value.toPosition (sign * (← operand fuel).value.toNumber)
        if index < 0 then fatal s!"negative field index ${index}"
        ofSpot (.field index.toNat)
      | '+' :: '+' :: _ => pre 1
      | '-' :: '-' :: _ => pre (-1)
      | text =>
        if !text.head?.any fun c => c.isDigit || c = '.' then unexpected
        match Value.scan text with
        | some (number, after) =>
          goTo after
          return { value := .ofNumber number }
        | none => unexpected
where
  pre (amount : Float) : Act Item := do
    drop 2
    skip
    let name := wordOf (← rest)
    if name.isEmpty then unexpected
    drop name.length
    let result := Value.ofNumber ((← getValue name).toNumber + amount)
    setSpot (.named name) result
    return { value := result }

def named : (fuel : Nat) → (name : Octets) → Act Item
  | 0, _ => unexpected
  | fuel + 1, name => do
    let isLive := (← get).isLive
    let function := String.ofList name
    if functions.contains function then
      if function ≠ "length" || (← sign) = "(" then expect "("
      else return { value := ← apply function [] }
      let arguments ← items fuel ")"
      if isLive then return { value := ← apply function arguments } else return {}
    else if isLive then return { value := ← getValue name, spot := some (.named name) }
    else return { spot := some (.named name) }

end

/-! Statements. -/

def limit : Nat := 2 ^ 40

def isEnd : Act Bool := do
  let mark ← sign
  return mark = ";" || mark = "\x7d" || mark = "\n" || (← rest).isEmpty

def endOfStatement : Act Unit := do
  if (← accept ";") || (← accept "\n") then skipLines
  else if !(← isEnd) then unexpected

def printed (isFormatted : Bool) : Act Unit := do
  let rec more : Nat → Act (List Item)
    | 0 => unexpected
    | left + 1 => do
      let first ← value limit
      if !(← accept ",") then return [first]
      skipLines
      return first :: (← more left)
  let given ← if ← isEnd then pure [] else more limit
  let values := match given with
    | [item] => if item.group.isEmpty then [item.value] else item.group
    | items => items.map Item.value
  if !(← get).isLive then return
  let text ← if isFormatted then formatted "printf" values
    else do
      let record := (← get).record
      let texts := if values.isEmpty then [record] else values.map Value.toText
      pure ((texts.intersperse (← textNamed "OFS")).flatten ++ (← textNamed "ORS"))
  ofStep (Step.print text)

def leave (signal : Signal) : Act Unit := do if (← get).isLive then throw signal

def simple : Act Unit := do
  let word ← word
  if ["print", "printf", "next", "exit"].contains word then drop word.length
  match word with
  | "print" | "printf" => printed (word = "printf")
  | "next" => leave .next
  | "exit" =>
    if !(← isEnd) then
      let status := Value.toInt (← value limit).value.toNumber
      if (← get).isLive then
        modify fun state => { state with status := (status % 256).toNat }
    leave .exit
  | _ => discard (value limit)

def readAt {α : Type} (point : Point) (step : Act α) : Act α := do
  goTo point
  step

def passOver {α : Type} (step : Act α) : Act Point := do
  let point ← rest
  let _ ← onlyIf false step
  return point

mutual

def statement : (fuel : Nat) → Act Unit
  | 0 => unexpected
  | fuel + 1 => do
    if ← accept "\x7b" then
      statements fuel
      let _ ← accept ";"
    else if ← accept ";" then skipLines
    else if ← acceptWord "if" then
      expect "("
      let holds := (← value fuel).value.isTrue
      expect ")"
      skipLines
      onlyIf holds (statement fuel)
      let after ← rest
      skipLines
      if ← acceptWord "else" then
        skipLines
        onlyIf (!holds) (statement fuel)
      else if after.isEmpty then return
    else
      simple
      endOfStatement

def statements : (fuel : Nat) → Act Unit
  | 0 => unexpected
  | fuel + 1 => do
    skipLines
    if !(← accept "\x7d") then
      statement fuel
      statements fuel

end

/-! Scripts. -/

def rules : (fuel : Nat) → Act (List Rule)
  | 0 => unexpected
  | fuel + 1 => do
    skipLines
    if (← rest).isEmpty then return []
    if ← accept ";" then return ← rules fuel
    let kind ← if ← acceptWord "BEGIN" then pure .start
      else if ← acceptWord "END" then pure .finish
      else pure .each
    let isBody := (← sign) = "\x7b"
    if kind ≠ .each && !isBody then unexpected
    let first ← if isBody then pure none else some <$> passOver (value limit)
    let body ← if (← sign) = "\x7b" then some <$> passOver (statement limit)
      else do
        endOfStatement
        pure none
    return ⟨kind, first, body⟩ :: (← rules fuel)

def applyRules (kind : RuleKind) (rules : List Rule) : Act Unit := do
  for rule in rules do
    if rule.kind = kind then
      let applies ← match rule.first with
        | some point => do pure (← readAt point (value limit)).value.isTrue
        | none => pure true
      if applies then
        match rule.body with
        | some body => readAt body (statement limit)
        | none => ofStep (Step.print ((← get).record ++ (← textNamed "ORS")))

def scanAll (rules : List Rule) : (fuel : Nat) → Act Unit
  | 0 => return
  | fuel + 1 => do
    match ← nextRecord limit with
    | none => return
    | some record =>
      setRecord record
      fun state => match applyRules .each rules state with
        | .error .next state => .ok () state
        | result => result
      scanAll rules fuel

def unlessExit (step : Act Unit) : Act Bool := fun state =>
  match step state with
  | .ok _ state => .ok true state
  | .error .exit state => .ok false state
  | .error signal state => .error signal state

def script : Act Unit := do
  goTo (← get).script
  let rules ← rules limit
  modify fun state => { state with isLive := true }
  let goesOn ← unlessExit (applyRules .start rules)
  if goesOn && rules.any (·.kind ≠ .start) then
    let _ ← unlessExit (scanAll rules limit)
  let _ ← unlessExit (applyRules .finish rules)

end Act

end Modelsmith.Shell.Awk
