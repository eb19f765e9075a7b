import Modelsmith.Shell.Basic
import Modelsmith.Shell.Interpreter

/-! The shell of a host: command lines run as scripts. -/

set_option autoImplicit false

namespace Modelsmith.Shell

def defaultEnvironment : List (String × String) := [("HOME", "/root"), ("PATH", Host.searchPath)]

def environmentOf (host : Host) : List (Octets × Variable) :=
  let defaults := defaultEnvironment.filter fun (name, _) => (host.environment.lookup name).isNone
  (host.environment ++ defaults).map fun (name, value) =>
    (Text.octets name, ⟨some (Text.octets value), true, false⟩)

def initialStreams : Array Stream :=
  #[⟨.nowhere, true, false⟩, ⟨.memory [] [] 0 .all, false, true⟩,
    ⟨.memory [] [] 0 .all, false, true⟩]

def initialMachine (host : Host) (files : Files) (name : Octets) : Machine where
  world := { files, streams := initialStreams }
  process := {
    name
    settings := environmentOf host
    directory := files.current
    trail := Builtin.pathText files.current }

def Machine.written (machine : Machine) (index : Nat) : String :=
  match machine.world.streams[index]? with
  | some ⟨.memory front back _ _, _, _⟩ => Text.ofOctets (front ++ back.reverse.flatten)
  | _ => ""

def start (name path : String) (content : Octets) (command : String) : Step (Option Nat) :=
  tryCatch
    (do
      let arguments := [Text.octets name, "-c", Text.octets command]
      return some (← Interpreter.launch true true path content arguments Interpreter.fuel))
    fun _ => return none

def system (host : Host) (executable : String) : Shell Unit where
  run _ files command :=
    if command.toList.contains '\x00' || executable.toList.contains '\x00' then
      (.error "nul byte found in provided data", (), files)
    else
      match Host.locate host.path files executable with
      | .error fault => (.error fault.message, (), files)
      | .ok (path, content) =>
        if !Host.canTake [Text.octets executable, "-c", Text.octets command] then
          (.error FileFault.tooMuch.message, (), files)
        else
          let machine := initialMachine host files (Text.octets executable)
          let (ended, machine) := (start executable path content command).run machine
          let success := match ended with
            | .ok (some 0) => true
            | _ => false
          (.ok ⟨success, machine.written 1, machine.written 2⟩, (),
            { machine.world.files with current := files.current })

end Modelsmith.Shell
