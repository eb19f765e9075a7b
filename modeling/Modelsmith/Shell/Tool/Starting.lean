import Modelsmith.Shell.Tool.Content
import Modelsmith.Shell.Tool.Numbers

/-! Programs that start other programs. -/

set_option autoImplicit false

namespace Modelsmith.Shell.Tool

abbrev Start := (last : Bool) → List Octets → Step (Except FileFault Nat)

def startStatus : FileFault → Nat
  | .notFound | .notDirectory | .nameTooLong => 127
  | _ => 126

def become (start : Start) (last : Bool) (words : Octets → Octets) (command : List Octets) :
    Step Nat := do
  match ← start last command with
  | .ok status => return status
  | .error fault =>
    complain (words (command.headD []) ++ ": " ++ fault.reason)
    return startStatus fault

def env (start : Start) : Tool := fun arguments => do
  let spec : Options := ⟨"i0", "uC", [("ignore-environment", 'i'), ("unset", 'u'),
    ("chdir", 'C'), ("null", '0')]⟩
  let arguments := arguments.map fun text => if text = ['-'] then "-i".toList else text
  withLeadingOptions spec 125 arguments fun found => do
    if found.has 'i' then Step.modifyProcess fun process => { process with settings := [] }
    for (letter, name) in found.options do if letter = 'u' then Step.putVariable name none
    if let some path := found.value? 'C' then
      match (← Step.files).directory (Text.ofOctets path) with
      | .ok directory => Step.modifyProcess fun process => { process with directory }
      | .error fault =>
        complain ("cannot change directory to " ++ quoted path ++ ": " ++
          fault.reason)
        return 125
    let settings := found.operands.takeWhile fun text => text.contains '='
    for setting in settings do
      let name := setting.takeWhile (· ≠ '=')
      Step.putVariable name (some ⟨some (setting.drop (name.length + 1)), true, false⟩)
    match found.operands.drop settings.length with
    | [] =>
      for (name, value) in (← Step.environment).reverse do
        Step.print (name ++ '=' :: value ++ [if found.has '0' then '\x00' else '\n'])
      return 0
    | command => become start true quoted command

def nohup (start : Start) : Tool := fun arguments => do
  match arguments with
  | [] =>
    usage "missing operand"
    return 125
  | command =>
    become start true (fun name => "failed to run command " ++ quoted name) command

def nice (start : Start) : Tool := fun arguments => do
  withLeadingOptions ⟨"", "n", [("adjustment", 'n')]⟩ 125 arguments fun found => do
    match found.value? 'n' with
    | some text =>
      if (Calculation.integer? text).isNone then
        complain ("invalid adjustment " ++ cited text)
        return 125
    | none => pure ()
    match found.operands with
    | [] =>
      Step.printLine ['0']
      return 0
    | command => become start true quoted command

def setsid (start : Start) : Tool := fun arguments =>
  become start true (fun name => "failed to execute " ++ name) arguments

def isBuffering (text : Octets) : Bool := text = ['L'] || (size? text).isSome

def stdbuf (start : Start) : Tool := fun arguments => do
  let spec : Options := ⟨"", "ioe", [("input", 'i'), ("output", 'o'), ("error", 'e')]⟩
  withLeadingOptions spec 125 arguments fun found => do
    for (letter, text) in found.options do
      if letter = 'i' && text = ['L'] then
        usage "line buffering stdin is meaningless"
        return 125
      if !isBuffering text then
        complain ("invalid mode " ++ cited text)
        return 125
    match found.operands with
    | [] =>
      usage "missing operand"
      return 125
    | command =>
      if found.options.isEmpty then
        usage "you must specify a buffering mode option"
        return 125
      become start true (fun name => "failed to run command " ++ quoted name) command

def timeout (start : Start) : Tool := fun arguments => do
  let spec : Options := ⟨"vp", "ks", [("kill-after", 'k'), ("signal", 's'), ("verbose", 'v'),
    ("preserve-status", 'p'), ("foreground", 'v')]⟩
  withLeadingOptions spec 125 arguments fun found => do
    match found.operands with
    | text :: command :: arguments =>
      match interval? text with
      | none =>
        usage ("invalid time interval " ++ cited text)
        return 125
      | some interval =>
        let process ← Step.process
        let clock := (← get).world.clock
        if interval ≠ 0 then
          Step.modifyProcess fun process =>
            { process with deadline := some (clock + interval, process.number) }
        let stop? ← tryCatch (do
          let status ← become start false
            (fun name => "failed to run command " ++ quoted name) (command :: arguments)
          return Except.ok status) fun stop => return .error stop
        Step.modifyProcess fun _ => process
        match stop? with
        | .ok status => return status
        | .error (.killed number signal) =>
          if number ≠ process.number then throw (.killed number signal)
          return if found.has 'p' then 143 else 124
        | .error stop => throw stop
    | _ =>
      Step.report ("Try '" ++ (← name) ++ " --help' for more information.")
      return 125

def which : Tool := fun arguments => do
  let path := Text.ofOctets ((← Step.value? "PATH").getD [])
  let files ← Step.files
  let names := arguments.filter fun text => text.head? ≠ some '-'
  let mut status := if names.isEmpty then 1 else 0
  for name in names do
    match Host.locate path files (Text.ofOctets name) with
    | .ok (found, _) => Step.printLine (Text.octets found)
    | .error _ => status := 1
  return status

end Modelsmith.Shell.Tool
