import Modelsmith.Shell.Arithmetic

/-! What the commands of the shell itself have in common. -/

set_option autoImplicit false

namespace Modelsmith.Shell

abbrev Builtin := List Octets → Step Nat

namespace Builtin

def optionsFrom (allowed withArgument : String) (fuel : Nat) (found : List (Char × Octets)) :
    List Octets → Step (List (Char × Octets) × List Octets)
  | [] => return (found.reverse, [])
  | first :: rest =>
    match fuel, first with
    | fuel + 1, '-' :: c :: letters => do
      if c = '-' && letters.isEmpty then return (found.reverse, rest)
      if allowed.toList.contains c then
        let next := if letters.isEmpty then rest else ('-' :: letters) :: rest
        optionsFrom allowed withArgument fuel ((c, []) :: found) next
      else if withArgument.toList.contains c then
        match letters, rest with
        | [], [] => Step.refuse ("No arg for -" ++ c :: " option")
        | [], argument :: rest =>
          optionsFrom allowed withArgument fuel ((c, argument) :: found) rest
        | argument, rest => optionsFrom allowed withArgument fuel ((c, argument) :: found) rest
      else Step.refuse ("Illegal option -" ++ [c])
    | _, _ => return (found.reverse, first :: rest)
termination_by fuel

def options (allowed withArgument : String) (arguments : List Octets) :
    Step (List (Char × Octets) × List Octets) :=
  optionsFrom allowed withArgument ((arguments.map List.length).sum + arguments.length + 1) []
    arguments

def number (text : Octets) : Step Nat :=
  match Arithmetic.integer? (some 10) false text with
  | some value =>
    if 0 ≤ value && value < 2 ^ 31 then return value.toNat
    else Step.refuse ("Illegal number: " ++ text)
  | none => Step.refuse ("Illegal number: " ++ text)

def quoted (text : Octets) : Octets :=
  let rec go : Octets → Octets
    | [] => ['\x27']
    | '\x27' :: rest => "'\"'\"'" ++ go rest
    | c :: rest => c :: go rest
  '\x27' :: go text

def binding (argument : Octets) : Step (Octets × Option Octets) := do
  let name := argument.takeWhile (· ≠ '=')
  if !isName name then Step.refuse (name ++ ": bad variable name")
  return (name, if name.length < argument.length then some (argument.drop (name.length + 1))
    else none)

def signalNames : List (String × Nat) :=
  [("EXIT", 0), ("HUP", 1), ("INT", 2), ("QUIT", 3), ("ILL", 4), ("TRAP", 5), ("ABRT", 6),
    ("BUS", 7), ("FPE", 8), ("KILL", 9), ("USR1", 10), ("SEGV", 11), ("USR2", 12), ("PIPE", 13),
    ("ALRM", 14), ("TERM", 15), ("CHLD", 17), ("CONT", 18), ("STOP", 19),
    ("TSTP", 20), ("TTIN", 21), ("TTOU", 22), ("URG", 23), ("XCPU", 24), ("XFSZ", 25),
    ("VTALRM", 26), ("PROF", 27), ("WINCH", 28), ("IO", 29), ("PWR", 30), ("SYS", 31),
    ("RTMIN", 34), ("RTMAX", 64)] ++
  ((List.range 15).map fun step => (s!"RTMIN+{step + 1}", step + 35)) ++
  ((List.range 14).map fun step => (s!"RTMAX-{step + 1}", 63 - step))

def signalReport : Nat → String
  | 1 => "Hangup"
  | 3 => "Quit"
  | 4 => "Illegal instruction"
  | 5 => "Trace/breakpoint trap"
  | 6 => "Aborted"
  | 7 => "Bus error"
  | 8 => "Floating point exception"
  | 9 => "Killed"
  | 10 => "User defined signal 1"
  | 11 => "Segmentation fault"
  | 12 => "User defined signal 2"
  | 14 => "Alarm clock"
  | 15 => "Terminated"
  | number => s!"Signal {number}"

def signal? (text : Octets) : Option Nat :=
  if !text.isEmpty && text.all Char.isDigit then
    let value := Arithmetic.digitsValue 10 (Arithmetic.digits 10 text).1
    if value < 65 then some value else none
  else
    let name := (String.ofList text).toUpper
    signalNames.lookup name

def signalName (signal : Nat) : String :=
  ((signalNames.find? fun (_, number) => number = signal).map Prod.fst).getD (toString signal)

def pathText (location : Files.Location) : Octets := Text.octets ("/" ++ "/".intercalate location)

end Builtin

end Modelsmith.Shell
