import Modelsmith.Shell.Builtin.Basic
import Modelsmith.Shell.Tool.Making

/-! Programs on paths. -/

set_option autoImplicit false

namespace Modelsmith.Shell.Tool

def baseName (path : Octets) : Octets :=
  let name := lastName path
  if name.isEmpty && !path.isEmpty then ['/'] else name

def basename : Tool := fun arguments =>
  let spec : Options := ⟨"az", "s", [("multiple", 'a'), ("suffix", 's'), ("zero", 'z')]⟩
  withLeadingOptions spec 1 arguments fun found => do
    let strip (suffix name : Octets) : Octets :=
      if suffix.length < name.length && suffix.isSuffixOf name then
        name.take (name.length - suffix.length)
      else name
    let ender := if found.has 'z' then '\x00' else '\n'
    if found.has 'a' || found.has 's' then
      if found.operands.isEmpty then return ← missingOperand
      for path in found.operands do
        Step.print (strip ((found.value? 's').getD []) (baseName path) ++ [ender])
      return 0
    match found.operands with
    | [] => missingOperand
    | [path] =>
      Step.print (baseName path ++ [ender])
      return 0
    | [path, suffix] =>
      Step.print (strip suffix (baseName path) ++ [ender])
      return 0
    | _ :: _ :: extra :: _ => extraOperand extra

def directoryName (path : Octets) : Octets :=
  let trimmed := (path.reverse.dropWhile (· = '/')).reverse
  if trimmed.isEmpty then if path.isEmpty then ['.'] else ['/']
  else
    let above := (trimmed.reverse.dropWhile (· ≠ '/'))
    if above.isEmpty then ['.']
    else
      let kept := (above.dropWhile (· = '/')).reverse
      if kept.isEmpty then ['/'] else kept

def dirname : Tool := optioned ⟨"z", "", [("zero", 'z')]⟩ 1 fun found => do
  if found.operands.isEmpty then missingOperand
  else
    for path in found.operands do
      Step.print (directoryName path ++ [if found.has 'z' then '\x00' else '\n'])
    return 0

def pwd : Tool := optioned ⟨"LP", "", [("logical", 'L'), ("physical", 'P')]⟩ 1 fun found => do
  if !found.operands.isEmpty then complain "ignoring non-option arguments"
  let files ← Step.files
  let given := (← Step.value? "PWD").filter fun path =>
    path.head? = some '/' && (files.find (Text.ofOctets path)).toOption.map Prod.fst =
      some files.current &&
      !(Path.names (Text.ofOctets path)).any fun name => name = "." || name = ".."
  match found.options.getLast?, given with
  | some ('L', _), some path => Step.printLine path
  | _, _ => Step.printLine (Builtin.pathText files.current)
  return 0

def readlink : Tool := optioned
    ⟨"nqsv", "", [("no-newline", 'n'), ("quiet", 'q'), ("silent", 's'), ("verbose", 'v')]⟩ 1 fun found => do
  if found.operands.isEmpty then return ← missingOperand
  let single := found.operands.length = 1
  if found.has 'n' && !single then
    complain "ignoring --no-newline with multiple arguments"
  let ender := if found.has 'n' && single then [] else ['\n']
  let files ← Step.files
  let mut status := 0
  for path in found.operands do
    let read : Except FileFault Octets := do
      match (← files.findLink (Text.ofOctets path)).2.kind with
      | .link target => return Text.octets target
      | _ => throw .invalid
    match read with
    | .ok text => Step.print (text ++ ender)
    | .error fault =>
      if found.has 'v' then complain (shown path ++ ": " ++ fault.reason)
      status := 1
  return status

end Modelsmith.Shell.Tool
