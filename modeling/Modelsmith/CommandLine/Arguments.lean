/-! Arguments of a program, told apart into options and operands. -/

set_option autoImplicit false

namespace Modelsmith.CommandLine

inductive Stop where
  | usage
  | help
  | version
  deriving DecidableEq

structure Flag where
  long : String
  short : Option Char := none
  /-- Which values it takes; none when it stands alone. -/
  accepts : Option (String → Bool) := none
  /-- What it asks for at once, if anything. -/
  stop : Option Stop := none

def helpFlag : Flag := { long := "help", short := some 'h', stop := some .help }

def versionFlag : Flag := { long := "version", short := some 'V', stop := some .version }

structure Given where
  options : List (String × String) := []
  operands : List String := []

namespace Given

def value? (given : Given) (name : String) : Option String := given.options.lookup name

def has (given : Given) (name : String) : Bool := (given.value? name).isSome

def addOption (given : Given) (name value : String) : Except Stop Given :=
  if given.has name then .error .usage
  else .ok { given with options := given.options ++ [(name, value)] }

def addOperand (given : Given) (limit : Nat) (operand : String) : Except Stop Given :=
  if limit ≤ given.operands.length ∨ operand = "" then .error .usage
  else .ok { given with operands := given.operands ++ [operand] }

end Given

inductive Spelling where
  | long (name : String) (value : Option String)
  | short (letter : Char) (value : Option String)

def spelling? (argument : String) : Option Spelling :=
  match argument.toList with
  | '-' :: '-' :: rest =>
    let value := match rest.dropWhile (· ≠ '=') with
      | _ :: value => some (String.ofList value)
      | [] => none
    some (.long (String.ofList (rest.takeWhile (· ≠ '='))) value)
  | '-' :: letter :: rest =>
    let value := match rest with
      | [] => none
      | '=' :: value => some (String.ofList value)
      | value => some (String.ofList value)
    some (.short letter value)
  | _ => none

def isOption (argument : String) : Bool := (spelling? argument).isSome

def Spelling.value : Spelling → Option String
  | .long _ value | .short _ value => value

def Spelling.flag? (flags : List Flag) : Spelling → Option Flag
  | .long name _ => flags.find? fun flag => flag.long = name
  | .short letter _ => flags.find? fun flag => flag.short = some letter

/-- Whether letters run together; behind a flag that ends everything they do not matter. -/
def Spelling.isShort : Spelling → Bool
  | .short _ _ => true
  | .long _ _ => false

def takeOption (flags : List Flag) (spelling : Spelling) (rest : List String) (given : Given) :
    Except Stop (Given × List String) := do
  let some flag := spelling.flag? flags | throw .usage
  match flag.stop, flag.accepts with
  | some stop, _ => if spelling.value.isSome && !spelling.isShort then throw .usage else throw stop
  | none, none =>
    if spelling.value.isSome then throw .usage
    return (← given.addOption flag.long "", rest)
  | none, some accepts =>
    let (value, rest) ← match spelling.value, rest with
      | some value, _ => pure (value, rest)
      | none, next :: rest => if isOption next then throw .usage else pure (next, rest)
      | none, [] => throw .usage
    if !accepts value then throw .usage
    return (← given.addOption flag.long value, rest)

/-- Reads all arguments; behind two hyphens there are only operands. What comes first decides when
several things are wrong. Every argument is taken once, so their number is fuel enough. -/
def readAll (flags : List Flag) (limit : Nat) : (fuel : Nat) → (operandsOnly : Bool) →
    List String → Given → Except Stop Given
  | 0, _, _, given => .ok given
  | _, _, [], given => .ok given
  | fuel + 1, operandsOnly, argument :: rest, given =>
    if !operandsOnly && argument = "--" then readAll flags limit fuel true rest given
    else
      match if operandsOnly then none else spelling? argument with
      | none =>
        match given.addOperand limit argument with
        | .ok given => readAll flags limit fuel operandsOnly rest given
        | .error stop => .error stop
      | some spelling =>
        match takeOption flags spelling rest given with
        | .ok (given, rest) => readAll flags limit fuel false rest given
        | .error stop => .error stop

def readCommand (flags : List Flag) : (fuel : Nat) → List String → Given →
    Except Stop (Given × String × List String)
  | 0, _, _ => .error .usage
  | _, [], _ => .error .usage
  | fuel + 1, argument :: rest, given =>
    if argument = "--" then .error .usage
    else
      match spelling? argument with
      | none => .ok (given, argument, rest)
      | some spelling =>
        match takeOption flags spelling rest given with
        | .ok (given, rest) => readCommand flags fuel rest given
        | .error stop => .error stop

end Modelsmith.CommandLine
