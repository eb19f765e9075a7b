import Modelsmith.Shell.Basic
import Modelsmith.Model.Basic
import Modelsmith.Double.Layout

/-! A shell that answers by rules instead of running anything, and so stands in for a toolchain. -/

set_option autoImplicit false

namespace Modelsmith.Shell

structure Rule where
  contains : String := ""
  /-- How often it may still answer; without limit when unset. -/
  times : Option Nat := none
  success : Bool := true
  stdout : String := ""
  stderr : String := ""
  launchError : Option String := none
  reference : Bool := false
  touch : List String := []

def referenceLine? (model : Model) (command : String) : Option String := do
  let row := (Text.words command.toList).filterMap Double.ofText?
  if row.length ≠ model.featureCount then none
  let value ← (model.predict row).toOption
  return "\x7b\"predict\": " ++ String.ofList (Double.Layout.positional.render value) ++ "\x7d\n"

def Rule.answer (rule : Rule) (model : Model) (command : String) : Answer :=
  match rule.launchError with
  | some reason => .error reason
  | none =>
    let reference := if rule.reference then referenceLine? model command else none
    .ok ⟨rule.success, reference.getD rule.stdout, rule.stderr⟩

def takeRule (command : String) : List Rule → Option (Rule × List Rule)
  | [] => none
  | rule :: rest =>
    if rule.times ≠ some 0 && Text.contains command.toList rule.contains.toList then
      some (rule, { rule with times := rule.times.map (· - 1) } :: rest)
    else (takeRule command rest).map fun (found, rest) => (found, rule :: rest)

/-- Answers by the first rule; with none, every command succeeds silently. -/
def scripted (model : Model) : Shell (List Rule) where
  run rules files command :=
    match takeRule command rules with
    | none => (.ok ⟨true, "", ""⟩, rules, files)
    | some (rule, rules) =>
      (rule.answer model command, rules,
        rule.touch.foldl (fun files path => files.place path "") files)

end Modelsmith.Shell
