import Modelsmith.Shell.Arithmetic
import Modelsmith.Shell.Pattern
import Modelsmith.Shell.Splitting

/-! Expansion of words: from pieces to parts, and from parts to texts, patterns and fields. -/

set_option autoImplicit false

namespace Modelsmith.Shell.Expansion

abbrev Substitute := Command → Step Octets

structure Mode where
  fields : Bool
  quoted : Bool := false
  loose : Bool := false

def number (text : Octets) : Nat := Arithmetic.digitsValue 10 (Arithmetic.digits 10 text).1

def value? (name : Octets) : Step (Option Octets) := do
  let process ← Step.process
  match name with
  | ['#'] => return some (toString process.arguments.length).toList
  | ['?'] => return some (toString process.status).toList
  | ['$'] => return some (toString process.shell).toList
  | ['!'] => return process.latestJob.map fun job => (toString job).toList
  | ['-'] => return some process.switches.letters
  | c :: _ =>
    if c.isDigit then
      match number name with
      | 0 => return some process.name
      | index + 1 => return process.arguments[index]?
    else Step.value? name
  | [] => return none

def separator : Step Octets := do
  match ← Step.value? "IFS" with
  | none => return [' ']
  | some dividers => return dividers.take 1

def joinWith (separator : Octets) : List Octets → Octets
  | [] => []
  | [text] => text
  | text :: rest => text ++ separator ++ joinWith separator rest

def partText : Part → Octets
  | .fixed _ text => text
  | .loose text => text
  | .boundary => [Splitting.joint]

def text (parts : List Part) : Octets := parts.flatMap partText

def quotedText (parts : List Part) : Pattern.Quoted :=
  parts.flatMap fun part =>
    match part with
    | .fixed quoted text => text.map (·, quoted)
    | .loose text => text.map (·, false)
    | .boundary => []

def home? (user : Octets) : Step (Option Octets) := do
  if user.isEmpty then Step.value? "HOME"
  else return (Host.users.lookup (Text.ofOctets user)).map Text.octets

def tildeAt (inAssignment last : Bool) (text : Octets) : Step Word := do
  match text with
  | '~' :: rest =>
    let ends (c : Char) : Bool := c = '/' || (inAssignment && c = ':')
    let user := rest.takeWhile fun c => !ends c
    let after := rest.drop user.length
    if after.isEmpty && !last then return [.literal false text]
    match ← home? user with
    | some directory => return [.literal true directory, .literal false after]
    | none => return [.literal false text]
  | _ => return [.literal false text]

def colonParts : Octets → List Octets
  | [] => [[]]
  | c :: rest =>
    match colonParts rest with
    | part :: parts => if c = ':' then [] :: (c :: part) :: parts else (c :: part) :: parts
    | [] => [[c]]

def tildesAfterColons (last : Bool) : List Octets → Step Word
  | [] => return []
  | part :: parts => do
    let first ← match part with
      | ':' :: rest => do
        let expanded ← tildeAt true (last && parts.isEmpty) rest
        pure (Piece.literal false [':'] :: expanded)
      | text => tildeAt true (last && parts.isEmpty) text
    return first ++ (← tildesAfterColons last parts)

def tildes (inAssignment : Bool) : Word → Step Word
  | .literal false text :: rest => do
    if !text.contains '~' then return .literal false text :: rest
    let first ←
      if inAssignment then tildesAfterColons rest.isEmpty (colonParts text)
      else tildeAt false rest.isEmpty text
    return first ++ rest
  | word => return word

def splitOnChar (divider : Char) : Octets → List Octets
  | [] => [[]]
  | c :: rest =>
    match splitOnChar divider rest with
    | part :: parts => if c = divider then [] :: part :: parts else (c :: part) :: parts
    | [] => [[c]]

def valueParts (quoted : Bool) (value : Octets) : List Part :=
  if !quoted then [.loose value]
  else if !value.contains Splitting.joint then [.fixed true value]
  else
    let texts := (splitOnChar Splitting.joint value).map fun text => [Part.fixed true text]
    (texts.intersperse [.boundary]).flatten

def arguments (mode : Mode) (name : Char) (quoted : Bool) : Step (List Part) := do
  let arguments := (← Step.process).arguments
  if quoted && name = '@' && mode.fields then
    if arguments.isEmpty then return []
    return valueParts true (joinWith [Splitting.joint] arguments)
  else if !quoted && mode.fields then return [.loose (joinWith [Splitting.joint] arguments)]
  else
    let text := joinWith (← separator) arguments
    return [if quoted then .fixed true text else .loose text]

mutual

def parts (substitute : Substitute) (mode : Mode) (word : Word) : (fuel : Nat) → Step (List Part)
  | 0 => return []
  | fuel + 1 => do
    match word with
    | [] => return []
    | piece :: rest =>
      let first ← pieceParts substitute mode piece fuel
      return first ++ (← parts substitute mode rest fuel)

def pieceParts (substitute : Substitute) (mode : Mode) (piece : Piece) :
    (fuel : Nat) → Step (List Part)
  | 0 => return []
  | fuel + 1 => do
    match piece with
    | .literal quoted text =>
      return [if quoted || mode.quoted then .fixed true text
        else if mode.loose then .loose text else .fixed false text]
    | .output quoted body =>
      let output ← substitute body
      return valueParts (quoted || mode.quoted) output
    | .arithmetic quoted expression =>
      let inner ← parts substitute ⟨false, true, false⟩ expression fuel
      let value ← Arithmetic.evaluate (text inner)
      return valueParts (quoted || mode.quoted) (toString value).toList
    | .parameter quoted name form argument =>
      parameterParts substitute mode (quoted || mode.quoted) name form argument fuel

def parameterParts (substitute : Substitute) (mode : Mode) (quoted : Bool) (name : Octets)
    (form : Form) (argument : Word) : (fuel : Nat) → Step (List Part)
  | 0 => return []
  | fuel + 1 => do
    let all := name = ['@'] || name = ['*']
    let own ←
      if all then arguments mode (name.headD '@') quoted
      else do pure ((← value? name).elim [] (valueParts quoted))
    let value ← if all then pure (some (text own)) else value? name
    let counts (empty : Bool) : Bool :=
      match value with
      | some value => !(empty && value.isEmpty)
      | none => false
    let instead : Step (List Part) := do
      let word ← tildes false argument
      parts substitute { mode with quoted, loose := !quoted } word fuel
    let requireSet : Step Unit := do
      if value.isNone && (← Step.process).switches.unsetFails then
        Step.refuse (name ++ ": parameter not set")
    match form with
    | .plain =>
      requireSet
      return own
    | .orDefault empty => if counts empty then return own else instead
    | .alternative empty => if counts empty then instead else return []
    | .orAssign empty =>
      if counts empty then return own
      let word ← tildes false argument
      let inner ← parts substitute ⟨false, quoted, false⟩ word fuel
      if !isName name then Step.refuse (name ++ ": bad variable name")
      Step.assign name (text inner)
      return valueParts quoted (text inner)
    | .orFail empty =>
      if counts empty then return own
      let message ←
        if argument.isEmpty then
          pure ("parameter not set" ++ if empty then " or null" else "").toList
        else do
          let word ← tildes false argument
          pure (text (← parts substitute ⟨false, quoted, false⟩ word fuel))
      Step.refuse (name ++ ": " ++ message)
    | .length =>
      requireSet
      return valueParts quoted (toString ((value.getD []).length)).toList
    | .dropFront longest =>
      requireSet
      let inner ← parts substitute ⟨false, false, false⟩ argument fuel
      let pattern := Pattern.compile (quotedText inner)
      let value := value.getD []
      return valueParts quoted (value.drop ((pattern.frontLength? value longest).getD 0))
    | .dropBack longest =>
      requireSet
      let inner ← parts substitute ⟨false, false, false⟩ argument fuel
      let pattern := Pattern.compile (quotedText inner)
      let value := value.getD []
      return valueParts quoted
        (value.take (value.length - (pattern.backLength? value longest).getD 0))
    | .faulty => Step.refuse "Bad substitution"

end

def fuel : Nat := 1000000

def wordText (substitute : Substitute) (word : Word) : Step Octets := do
  let word ← tildes false word
  return text (← parts substitute ⟨false, false, false⟩ word fuel)

def assignedText (substitute : Substitute) (word : Word) : Step Octets := do
  let word ← tildes true word
  return text (← parts substitute ⟨false, false, false⟩ word fuel)

def documentText (substitute : Substitute) (word : Word) : Step Octets := do
  return text (← parts substitute ⟨false, true, false⟩ word fuel)

def pattern (substitute : Substitute) (word : Word) : Step Pattern := do
  let word ← tildes false word
  return Pattern.compile (quotedText (← parts substitute ⟨false, false, false⟩ word fuel))

/-! Names of files. -/

def components : (fuel : Nat) → Pattern.Quoted → List (Octets × Pattern.Quoted)
  | 0, _ => []
  | fuel + 1, text =>
    if text.isEmpty then []
    else
      let slashes := text.takeWhile fun (c, _) => c = '/'
      let rest := text.drop slashes.length
      let name := rest.takeWhile fun (c, _) => c ≠ '/'
      (slashes.map Prod.fst, name) :: components fuel (rest.drop name.length)

def matchingNames (files : Files) (directory : Octets) (name : Pattern.Quoted) : List Octets :=
  let pattern := Pattern.compile name
  let hidden := name.head?.any fun (c, _) => c = '.'
  let path := if directory.isEmpty then "." else Text.ofOctets directory
  match files.names? path with
  | none => []
  | some names =>
    let names := names.map Text.octets
    let names := if hidden then ['.'] :: ['.', '.'] :: names else names
    names.filter fun name => (hidden || name.head? ≠ some '.') && pattern.matches name

def paths (files : Files) : List (Octets × Pattern.Quoted) → Octets → List Octets
  | [], before => [before]
  | (slashes, name) :: rest, before =>
    let base := before ++ slashes
    if (Pattern.compile name).isActive then
      (matchingNames files base name).flatMap fun found => paths files rest (base ++ found)
    else
      let path := base ++ (Pattern.compile name).filterMap fun item =>
        match item with
        | .octet c => some c
        | _ => none
      if rest.isEmpty && (files.findLink (Text.ofOctets path)).toOption.isNone then []
      else paths files rest path

def fieldPaths (files : Files) (field : Field) : List Octets :=
  let quoted : Pattern.Quoted := field.flatMap fun (quoted, text) => text.map (·, quoted)
  if !(Pattern.compile quoted).isActive then [field.text]
  else
    match paths files (components (quoted.length + 1) quoted) [] with
    | [] => [field.text]
    | found => found.mergeSort Text.precedes

def mayBePattern (text : Octets) : Bool :=
  text.any fun c => c = '*' || c = '?' || c = '[' || c = '~'

def inert? : Word → Option Octets
  | [] => some []
  | .literal quoted text :: rest =>
    if !quoted && mayBePattern text then none
    else (inert? rest).map (text ++ ·)
  | _ => none

def wordFields (substitute : Substitute) (word : Word) : Step (List Octets) := do
  match inert? word with
  | some text => return [text]
  | none =>
    let word ← tildes false word
    let parts ← parts substitute ⟨true, false, false⟩ word fuel
    let fields := Splitting.fields (← Step.dividers) parts
    if (← Step.process).switches.literalPaths then return fields.map Field.text
    if fields.all fun field => field.all fun (quoted, text) => quoted || !mayBePattern text then
      return fields.map Field.text
    let files ← Step.files
    return fields.flatMap (fieldPaths files)

end Modelsmith.Shell.Expansion
