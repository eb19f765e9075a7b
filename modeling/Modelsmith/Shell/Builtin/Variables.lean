import Modelsmith.Shell.Builtin.Basic
import Modelsmith.Shell.Splitting

/-! Commands on variables, arguments and switches. -/

set_option autoImplicit false

namespace Modelsmith.Shell.Builtin

def showVariables (word : Octets) (shown : Variable → Bool) : Step Unit := do
  let settings := (← Step.process).settings.filter fun (_, content) => shown content
  let sorted := settings.mergeSort fun (left, _) (right, _) => Text.precedes left right
  for (name, content) in sorted do
    let value := content.value.elim [] fun value => '=' :: quoted value
    Step.printLine ((if word.isEmpty then [] else word ++ [' ']) ++ name ++ value)

def declare (word : String) (shown : Variable → Bool) (change : Variable → Variable) : Builtin :=
  fun arguments => do
    let (letters, names) ← options "p" "" arguments
    if !letters.isEmpty || names.isEmpty then
      showVariables word.toList shown
      return 0
    for argument in names do
      let (name, value) ← binding argument
      match value with
      | some value => Step.assign name value
      | none => pure ()
      Step.mark name change
    return 0

def «export» : Builtin := declare "export" (·.exported) fun content =>
  { content with exported := true }

def readonly : Builtin := declare "readonly" (·.constant) fun content =>
  { content with constant := true }

def localVariables : Builtin := fun arguments => do
  if (← Step.process).frames.isEmpty then Step.refuse "not in a function"
  for argument in arguments do
    if argument ≠ ['-'] then
      let (name, value) ← binding argument
      Step.remember name
      match value with
      | some value => Step.assign name value
      | none => pure ()
  return 0

def unset : Builtin := fun arguments => do
  let (letters, names) ← options "vf" "" arguments
  let functions := (letters.getLast?.map Prod.fst) = some 'f'
  for name in names do
    if functions then
      Step.modifyProcess fun process =>
        { process with functions := process.functions.filter fun (other, _) => other ≠ name }
    else
      if !isName name then Step.refuse (name ++ ": bad variable name")
      Step.unassign name
  return 0

def shift : Builtin := fun arguments => do
  let count ← match arguments with
    | [] => pure 1
    | text :: _ => number text
  let process ← Step.process
  if process.arguments.length < count then Step.refuse "can't shift that many"
  Step.modifyProcess fun process => { process with arguments := process.arguments.drop count }
  return 0

/-! Switches. -/

def switchNames : List (String × Char) :=
  [("errexit", 'e'), ("noglob", 'f'), ("ignoreeof", 'I'), ("interactive", 'i'), ("monitor", 'm'),
    ("noexec", 'n'), ("stdin", 's'), ("xtrace", 'x'), ("verbose", 'v'), ("vi", 'V'),
    ("emacs", 'E'), ("noclobber", 'C'), ("allexport", 'a'), ("notify", 'b'), ("nounset", 'u'),
    ("privileged", 'p'), ("nolog", '\x00'), ("debug", '\x00')]

def setSwitch? (letter : Char) (on : Bool) (switches : Switches) : Option Switches :=
  match letter with
  | 'a' => some { switches with exportAll := on }
  | 'C' => some { switches with keepFiles := on }
  | 'e' => some { switches with exitOnFailure := on }
  | 'f' => some { switches with literalPaths := on }
  | 'n' => some { switches with readOnly := on }
  | 'u' => some { switches with unsetFails := on }
  | 'v' => some { switches with echoLines := on }
  | 'x' => some { switches with trace := on }
  | _ =>
    if "IimsVEbp".toList.contains letter then
      let others := switches.idle.filter (· ≠ letter)
      some { switches with idle := if on then letter :: others else others }
    else none

def setSwitch (letter : Char) (on : Bool) : Step Unit := do
  if letter = 'm' && on then
    Step.complain "can't access tty; job control turned off"
    return
  match setSwitch? letter on (← Step.process).switches with
  | some switches => Step.modifyProcess fun process => { process with switches }
  | none => Step.refuse ("Illegal option -" ++ [letter])

def showSwitches (atStart on : Bool) : Step Unit := do
  let switches := (← Step.process).switches
  if on then Step.printLine "Current option settings"
  for (name, letter) in switchNames do
    let isOn := atStart || switches.isOn letter
    if on then
      let fill := List.replicate (16 - name.length) ' '
      Step.printLine (name ++ fill ++ (if isOn then "on" else "off").toList)
    else Step.printLine ((if isOn then "set -o " else "set +o ") ++ name).toList

structure AfterSwitches where
  arguments : Option (List Octets)
  takesCommand : Bool := false

def switchLetters (atStart on takesCommand : Bool) :
    List Char → List Octets → Step (List Octets × Bool)
  | [], rest => return (rest, takesCommand)
  | letter :: letters, rest => do
    if atStart && letter = 'c' then switchLetters atStart on true letters rest
    else if atStart && letter = 'l' then switchLetters atStart on takesCommand letters rest
    else if letter = 'o' then
      match rest with
      | [] =>
        showSwitches atStart on
        switchLetters atStart on takesCommand letters []
      | name :: rest =>
        match switchNames.lookup (String.ofList name) with
        | some letter =>
          if letter ≠ '\x00' then setSwitch letter on
          switchLetters atStart on takesCommand letters rest
        | none => Step.refuse ("Illegal option -o " ++ name)
    else
      if letter = 'V' && on then setSwitch 'E' false
      if letter = 'E' && on then setSwitch 'V' false
      setSwitch letter on
      switchLetters atStart on takesCommand letters rest

def setSwitches (atStart takesCommand : Bool) : (fuel : Nat) → List Octets → Step AfterSwitches
  | 0, arguments => return ⟨some arguments, takesCommand⟩
  | _ + 1, [] => return ⟨none, takesCommand⟩
  | fuel + 1, first :: rest =>
    match first with
    | ['-'] => do
      if !atStart then
        setSwitch 'x' false
        setSwitch 'v' false
      return ⟨if rest.isEmpty then none else some rest, takesCommand⟩
    | ['-', '-'] => return ⟨some rest, takesCommand⟩
    | sign :: letters =>
      if sign = '-' || sign = '+' then do
        let (rest, takesCommand) ← switchLetters atStart (sign = '-') takesCommand letters rest
        setSwitches atStart takesCommand fuel rest
      else return ⟨some (first :: rest), takesCommand⟩
    | [] => return ⟨some (first :: rest), takesCommand⟩

def set : Builtin := fun arguments => do
  if arguments.isEmpty then
    showVariables [] fun content => content.value.isSome
    return 0
  match (← setSwitches false false (arguments.length + 1) arguments).arguments with
  | none => return 0
  | some arguments =>
    Step.modifyProcess fun process => { process with arguments, optionOffset := 0 }
    return 0

/-! Reading. -/

def lineOf (raw : Bool) : Octets → List (Char × Bool) × Nat × Bool
  | [] => ([], 0, false)
  | '\n' :: _ => ([], 1, true)
  | '\\' :: rest =>
    if raw then
      let (line, used, ended) := lineOf raw rest
      (('\\', false) :: line, used + 1, ended)
    else
      match rest with
      | [] => ([], 1, false)
      | '\n' :: rest =>
        let (line, used, ended) := lineOf raw rest
        (line, used + 2, ended)
      | c :: rest =>
        let (line, used, ended) := lineOf raw rest
        ((c, true) :: line, used + 2, ended)
  | c :: rest =>
    let (line, used, ended) := lineOf raw rest
    (if c = '\x00' then line else (c, false) :: line, used + 1, ended)

def assignFields : List Octets → List Octets → Step Unit
  | [], _ => return
  | name :: names, fields => do
    if !isName name then Step.refuse (name ++ ": bad variable name")
    Step.assign name (fields.headD [])
    assignFields names fields.tail

def read : Builtin := fun arguments => do
  let (letters, names) ← options "r" "p" arguments
  if names.isEmpty then Step.refuse "arg count"
  let raw := letters.any fun (letter, _) => letter = 'r'
  match ← Step.available 0 with
  | .error _ =>
    assignFields names []
    return 1
  | .ok text =>
    let (line, used, ended) := lineOf raw text
    if !ended then Step.reachEnd 0
    Step.consume 0 used
    let fields := Splitting.lineFields (← Step.dividers) names.length line
    assignFields names fields
    return if ended then 0 else 1

/-! Options of scripts. -/

def optionIn? (wanted : Char) : Octets → Option Bool
  | [] => none
  | c :: ':' :: rest => if c = wanted then some true else optionIn? wanted rest
  | c :: rest => if c = wanted then some false else optionIn? wanted rest

def setText (name : String) (value : Octets) : Step Unit := Step.assign name.toList value

def getopts : Builtin := fun arguments => do
  match arguments with
  | spec :: name :: rest =>
    let process ← Step.process
    let texts := if rest.isEmpty then process.arguments else rest
    let index := match Arithmetic.integer? none true ((← Step.value? "OPTIND").getD []) with
      | some value => if value < 1 then 1 else value.toNat
      | none => 1
    let quiet := spec.head? = some ':'
    let offset := process.optionOffset
    let current := if 1 < index && 0 < offset then (texts[index - 2]?.getD []).drop offset else []
    let finish (index offset : Nat) (letter : Char) (status : Nat) : Step Nat := do
      setText "OPTIND" (toString index).toList
      Step.modifyProcess fun process => { process with optionOffset := offset }
      if !isName name then Step.refuse (name ++ ": bad variable name")
      Step.assign name [letter]
      return status
    let start : Option (Octets × Nat × Nat) :=
      if !current.isEmpty then some (current, index, offset)
      else
        match texts[index - 1]? with
        | some ('-' :: c :: letters) => some (c :: letters, index + 1, 1)
        | _ => none
    match start with
    | none => finish index 0 '?' 1
    | some (letters, index, offset) =>
      match letters with
      | [] => finish index 0 '?' 1
      | c :: after =>
        if c = '-' && after.isEmpty && offset = 1 then finish index 0 '?' 1
        else
          let next := if after.isEmpty then 0 else offset + 1
          match if c = ':' then none else optionIn? c (if quiet then spec.drop 1 else spec) with
          | none =>
            if quiet then setText "OPTARG" [c]
            else
              Step.report ("Illegal option -" ++ [c])
              Step.unassign "OPTARG"
            finish index next '?' 0
          | some false =>
            setText "OPTARG" []
            finish index next c 0
          | some true =>
            if !after.isEmpty then
              setText "OPTARG" after
              finish index 0 c 0
            else
              match texts[index - 1]? with
              | some argument =>
                setText "OPTARG" argument
                finish (index + 1) 0 c 0
              | none =>
                if quiet then
                  setText "OPTARG" [c]
                  finish index 0 ':' 0
                else
                  Step.report ("No arg for -" ++ c :: " option")
                  Step.unassign "OPTARG"
                  finish index 0 '?' 0
  | _ => Step.refuse "Usage: getopts optstring var [arg...]"

/-! Aliases. -/

def showAlias (name text : Octets) : Step Unit := Step.printLine (name ++ '=' :: quoted text)

def abbreviate : Builtin := fun arguments => do
  let aliases := (← Step.process).aliases
  if arguments.isEmpty then
    for (name, text) in aliases.mergeSort fun (left, _) (right, _) => Text.precedes left right do
      showAlias name text
    return 0
  let mut status := 0
  for argument in arguments do
    let name := argument.takeWhile (· ≠ '=')
    if name.isEmpty || name.length = argument.length then
      match (← Step.process).aliases.lookup argument with
      | some text => showAlias argument text
      | none =>
        Step.report ("alias: " ++ argument ++ " not found")
        status := 1
    else
      let text := argument.drop (name.length + 1)
      Step.modifyProcess fun process =>
        { process with
          aliases := (name, text) :: process.aliases.filter fun (other, _) => other ≠ name }
  return status

def unalias : Builtin := fun arguments => do
  let (letters, names) ← options "a" "" arguments
  if !letters.isEmpty then
    Step.modifyProcess fun process => { process with aliases := [] }
    return 0
  let mut status := 0
  for name in names do
    if ((← Step.process).aliases.lookup name).isNone then
      Step.report ("unalias: " ++ name ++ " not found")
      status := 1
    else
      Step.modifyProcess fun process =>
        { process with aliases := process.aliases.filter fun (other, _) => other ≠ name }
  return status

end Modelsmith.Shell.Builtin
