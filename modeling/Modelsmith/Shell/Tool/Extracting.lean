import Modelsmith.Shell.Perl

/-! The program that extracts and reports by a script. -/

set_option autoImplicit false

namespace Modelsmith.Shell.Tool

open Perl

def script (text : Octets) (loops prints : Bool) (lines : List Octets) : Act Unit := do
  Act.script text false
  if loops then
    for line in lines do
      Act.setValue ['_'] (.ofText line)
      Act.script text true
      if prints then Act.emit false (Perl.textOf (← Act.getValue ['_']))
  else Act.script text true

def outcome (step : Act Unit) : Act Nat := fun state =>
  match step state with
  | .ok _ state => .ok 0 state
  | .error (.exit status) state => .ok status state
  | .error (.die words) state =>
    (do
      Act.emit true words
      return 255) state
  | .error (.stop stop) state => .error (.stop stop) state

def perl : Tool := optioned { letters := "np", valued := "e" } 29 fun found => do
  match found.value? 'e' with
  | none =>
    Step.report "No code specified for -e."
    return 29
  | some code =>
    let prints := found.has 'p'
    let loops := prints || found.has 'n'
    let mut lines : List Octets := []
    if loops then
      for path in if found.operands.isEmpty then [['-']] else found.operands do
        match ← content path with
        | .ok text => lines := lines ++ Tool.lines text
        | .error reason => Step.report ("Can't open " ++ path ++ ": " ++ reason ++ ".")
    match outcome (script (code ++ ['\n']) loops prints lines) { machine := ← get, file := "-e" } with
    | .ok status state =>
      set state.machine
      return status
    | .error signal state =>
      set state.machine
      match signal with
      | .stop stop => throw stop
      | _ => return 255

end Modelsmith.Shell.Tool
