import Modelsmith.CommandLine.Task
import Modelsmith.Shell.System

/-! Requests of the command line, carried out on a host. -/

set_option autoImplicit false

namespace Modelsmith.CommandLine

def Request.carryOut (request : Request) (host : Host) (files : Files) : Answer :=
  request.carryOutBy (Shell.system host) host ⟨files, ()⟩

structure Exit where
  code : UInt8
  stdout : String
  stderr : String

def versionText : String := "porter 0.1.0\n"

def usageText : String :=
  "usage: porter [--config PATH] (show | port MODEL | predict MODEL ROWS | score MODEL ROWS)\n"

def Stop.exit : Stop → Exit
  | .usage => ⟨2, "", usageText⟩
  | .help => ⟨0, usageText, ""⟩
  | .version => ⟨0, versionText, ""⟩

def Answer.exit (answer : Answer) : Exit :=
  match answer.result with
  | .ok _ => ⟨0, answer.stdout, ""⟩
  | .error (.failed (.rendering fault)) => ⟨101, "", fault.message ++ "\n"⟩
  | .error refusal => ⟨1, answer.stdout, "error: " ++ refusal.message ++ "\n"⟩

end Modelsmith.CommandLine
