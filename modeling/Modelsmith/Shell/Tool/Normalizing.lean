import Modelsmith.Shell.Tool.Basic

/-! Arguments in a normal form, for scripts that read them. -/

set_option autoImplicit false

namespace Modelsmith.Shell.Tool

structure Normalized where
  words : Octets := []
  operands : List Octets := []
  complaints : List Octets := []

def scriptQuoted (text : Octets) : Octets :=
  " '" ++ (text.flatMap fun c => if c = '\x27' then "'\\''".toList else [c]) ++ ['\x27']

namespace Normalized

def adding (found : Normalized) (word : Octets) (argument : Option Octets) : Normalized :=
  { found with words := found.words ++ ' ' :: word ++ (argument.map scriptQuoted).getD [] }

def complaining (found : Normalized) (words : Octets) : Normalized :=
  { found with complaints := found.complaints ++ [words] }

end Normalized

namespace ScriptOptions

def lettersOf : Octets → List (Char × Bool)
  | c :: ':' :: rest => (c, true) :: lettersOf rest
  | c :: rest => (c, false) :: lettersOf rest
  | [] => []

def letterWords (options : List (Char × Bool)) : Octets → List Octets → Normalized →
    Normalized × List Octets
  | [], rest, found => (found, rest)
  | c :: more, rest, found =>
    match options.lookup c, more, rest with
    | none, more, rest =>
      letterWords options more rest (found.complaining ("invalid option -- " ++ inMarks [c]))
    | some false, more, rest => letterWords options more rest (found.adding ['-', c] none)
    | some true, [], [] =>
      (found.complaining ("option requires an argument -- " ++ inMarks [c]), [])
    | some true, [], argument :: rest => (found.adding ['-', c] (some argument), rest)
    | some true, argument, rest => (found.adding ['-', c] (some argument), rest)

def normalize (options : List (Char × Bool)) : (fuel : Nat) → List Octets → Normalized → Normalized
  | 0, _, found => found
  | _ + 1, [], found => found
  | fuel + 1, text :: rest, found =>
    match text with
    | ['-', '-'] => { found with operands := found.operands ++ rest }
    | '-' :: '-' :: name =>
      normalize options fuel rest
        (found.complaining ("unrecognized option " ++ inMarks ("--" ++ name)))
    | '-' :: c :: letters =>
      let (found, rest) := letterWords options (c :: letters) rest found
      normalize options fuel rest found
    | text => normalize options fuel rest { found with operands := found.operands ++ [text] }

end ScriptOptions

def getopt : Tool := optioned ⟨"", "on", [("options", 'o'), ("name", 'n')]⟩ 2
  fun given => do
    let options := ScriptOptions.lettersOf ((given.value? 'o').getD [])
    let found := ScriptOptions.normalize options (given.operands.length + 1) given.operands {}
    let caller := (given.value? 'n').getD (← name)
    found.complaints.forM fun words => Step.report (caller ++ ": " ++ words)
    Step.printLine (found.words ++ " --" ++ found.operands.flatMap scriptQuoted)
    return if found.complaints.isEmpty then 0 else 1

end Modelsmith.Shell.Tool
