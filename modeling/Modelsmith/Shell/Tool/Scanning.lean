import Modelsmith.Shell.Awk

/-! The program that scans records by a script. -/

set_option autoImplicit false

namespace Modelsmith.Shell.Awk

structure Invocation where
  separator : Option Octets := none
  assignments : List (Octets × Octets) := []
  rest : List Octets := []

def Invocation.read : (fuel : Nat) → List Octets → Invocation → Except Octets Invocation
  | 0, _, invocation => .ok invocation
  | fuel + 1, arguments, invocation =>
    let option (letter : Char) (after : Octets) (rest : List Octets)
        (act : Octets → Except Octets Invocation) : Except Octets Invocation :=
      match after, rest with
      | [], [] => .error ("option -" ++ letter :: " lacks argument")
      | [], value :: rest => do read fuel rest (← act value)
      | value, rest => do read fuel rest (← act value)
    match arguments with
    | ['-', '-'] :: rest => .ok { invocation with rest }
    | ('-' :: 'F' :: after) :: rest =>
      option 'F' after rest fun value => .ok { invocation with separator := some value }
    | ('-' :: 'v' :: after) :: rest =>
      option 'v' after rest fun value =>
        match assigning? value with
        | some pair => .ok { invocation with assignments := invocation.assignments ++ [pair] }
        | none => .error ("improper assignment: -v " ++ value)
    | ('-' :: c :: after) :: _ => .error ("not an option: -" ++ c :: after)
    | rest => .ok { invocation with rest }

end Modelsmith.Shell.Awk

namespace Modelsmith.Shell.Tool

open Awk in
def awk : Tool := fun arguments => do
  match Invocation.read (arguments.length + 1) arguments {} with
  | .error words =>
    complain words
    return 2
  | .ok { separator, assignments, rest } =>
    match rest with
    | [] =>
      Step.report "usage: mawk [-F value] [-v var=value] [--] 'program text' [file ...]"
      return 2
    | script :: operands =>
      let own ← name
      let told : List (String × Value) :=
        [("NR", .ofNumber 0), ("NF", .ofNumber 0), ("FNR", .ofNumber 0), ("FS", .ofText [' ']),
          ("OFS", .ofText [' ']), ("ORS", .ofText ['\n'])]
      let read (value : Octets) : Octets := unescape (value.length + 1) value
      let separator := separator.toList.map fun value => ("FS".toList, Value.ofText (read value))
      let given := assignments.map fun (name, value) => (name, Value.ofInput (read value))
      let values := told.map (fun (name, value) => (name.toList, value)) ++ separator ++ given
      let (status, words, machine) ←
        match Act.script { machine := ← get, script, values := .ofList values, operands } with
        | .ok _ state => pure (state.status, none, state.machine)
        | .error (.stop stop) state =>
          set state.machine
          throw stop
        | .error (.fatal words) state => pure (2, some words, state.machine)
        | .error _ state => pure (2, none, state.machine)
      set machine
      if let some words := words then Step.report (own ++ ": " ++ words)
      return status

end Modelsmith.Shell.Tool
