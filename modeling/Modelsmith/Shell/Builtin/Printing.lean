import Modelsmith.Shell.Builtin.Basic
import Modelsmith.Shell.Condition
import Modelsmith.Shell.Printing

/-! Commands that print or test. -/

set_option autoImplicit false

namespace Modelsmith.Shell.Builtin

def echoed (newline : Bool) : List Octets → Octets
  | [] => if newline then ['\n'] else []
  | text :: rest =>
    let (shown, stop) := Printing.escapes text
    if stop then shown
    else if rest.isEmpty then shown ++ if newline then ['\n'] else []
    else shown ++ ' ' :: echoed newline rest

def echo : Builtin := fun arguments => do
  let output := match arguments with
    | ['-', 'n'] :: rest => echoed false rest
    | texts => echoed true texts
  if !output.isEmpty then Step.print output
  return 0

def printf : Builtin := fun arguments => do
  let (_, arguments) ← options "" "" arguments
  match arguments with
  | [] => Step.refuse "usage: printf format [arg ...]"
  | format :: arguments =>
    let progress := Printing.run format arguments
    progress.complaints.reverse.forM Step.complain
    let output := progress.chunks.reverse.flatten
    match progress.refused with
    | some reason =>
      Step.complain reason
      Step.print output
      Step.setStatus 2
      throw .fault
    | none =>
      if !output.isEmpty then Step.print output
      return if progress.complaints.isEmpty then 0 else 1

def test : Builtin := fun arguments => do return if ← Condition.holds arguments then 0 else 1

def bracket : Builtin := fun arguments => do
  match arguments.getLast? with
  | some (']' :: _) => test arguments.dropLast
  | _ => Step.refuse "missing ]"

end Modelsmith.Shell.Builtin
