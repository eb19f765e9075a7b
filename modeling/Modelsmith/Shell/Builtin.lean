import Modelsmith.Shell.Builtin.Control
import Modelsmith.Shell.Builtin.Printing
import Modelsmith.Shell.Builtin.Variables

/-! The commands of the shell itself, by their names. -/

set_option autoImplicit false

namespace Modelsmith.Shell.Builtin

def isSpecial (name : String) : Bool := Reading.specialUtilities.contains name

def declares (name : String) : Bool := ["export", "readonly", "local", "alias"].contains name

def interpreted : List String := ["eval", ".", "command", "exec", "wait", "type", "hash", "fc"]

def find? : String → Option Builtin
  | ":" | "true" => some succeed
  | "false" => some fail
  | "echo" => some echo
  | "printf" => some printf
  | "test" => some test
  | "[" => some bracket
  | "export" => some «export»
  | "readonly" => some readonly
  | "local" => some localVariables
  | "unset" => some unset
  | "shift" => some shift
  | "set" => some set
  | "read" => some read
  | "getopts" => some getopts
  | "alias" => some abbreviate
  | "unalias" => some unalias
  | "exit" => some exit
  | "return" => some giveBack
  | "break" => some leave
  | "continue" => some next
  | "pwd" => some pwd
  | "cd" | "chdir" => some cd
  | "trap" => some trap
  | "kill" => some kill
  | "jobs" => some jobs
  | "fg" | "bg" => some moveJob
  | "ulimit" => some ulimit
  | "umask" => some umask
  | "times" => some times
  | _ => none

def isBuiltin (name : String) : Bool := (find? name).isSome || interpreted.contains name

end Modelsmith.Shell.Builtin
