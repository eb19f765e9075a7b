import Modelsmith.Config.Toml
import Modelsmith.Config.Toolchain
import Modelsmith.Failure

/-! Configurations: how programs are run, and toolchains that differ from the usual ones. -/

set_option autoImplicit false

namespace Modelsmith

/-- How programs are compiled and run. Times are in milliseconds. -/
structure Options where
  /-- Rows run at a time; as many as there are processors when unset. -/
  workers : Option Nat := none
  cleanup : Bool := true
  checkDependencies : Bool := true
  shell : String := "/bin/sh"
  /-- Working directory; a fresh one when unset. -/
  directory : Option String := none
  /-- How often files of a run are looked for. Commands are over when they answer, so looking again
  changes nothing. -/
  pollAttempts : Nat := 10
  pollInterval : Nat := 100
  retryAttempts : Nat := 10
  retryDelay : Nat := 100
  strictOutput : Bool := false
  deriving DecidableEq

structure Config where
  options : Options := {}
  /-- Overrides by the name of their language, sorted by that name. -/
  sections : List (String × Override) := []
  deriving DecidableEq

namespace Toml

def string? : Toml → Option String
  | .string text => some text
  | _ => none

def boolean? : Toml → Option Bool
  | .boolean value => some value
  | _ => none

def natural? (bound : Nat) : Toml → Option Nat
  | .integer value => if 0 ≤ value ∧ value < bound then some value.toNat else none
  | _ => none

def strings? : Toml → Option (List String)
  | .array items => items.mapM string?
  | _ => none

/-- The fields of a record: a table by names, or an array by positions. -/
def fields? (names : List String) : Toml → Option (List (String × Toml))
  | .table _ members => some members
  | .array items => some (names.zip items)
  | _ => none

end Toml

namespace Options

def names : List String :=
  ["workers", "cleanup", "check_dependencies", "shell", "directory", "poll_attempts",
    "poll_interval_ms", "retry_attempts", "retry_delay_ms", "strict_output"]

def set? (options : Options) (name : String) (value : Toml) : Option Options :=
  match name with
  | "workers" => do return { options with workers := some (← value.natural? (2 ^ 64)) }
  | "cleanup" => do return { options with cleanup := ← value.boolean? }
  | "check_dependencies" => do return { options with checkDependencies := ← value.boolean? }
  | "shell" => do return { options with shell := ← value.string? }
  | "directory" => do return { options with directory := some (← value.string?) }
  | "poll_attempts" => do return { options with pollAttempts := ← value.natural? (2 ^ 32) }
  | "poll_interval_ms" => do return { options with pollInterval := ← value.natural? (2 ^ 64) }
  | "retry_attempts" => do return { options with retryAttempts := ← value.natural? (2 ^ 32) }
  | "retry_delay_ms" => do return { options with retryDelay := ← value.natural? (2 ^ 64) }
  | "strict_output" => do return { options with strictOutput := ← value.boolean? }
  | _ => none

def ofToml? (value : Toml) : Option Options := do
  (← value.fields? names).foldlM (fun options (name, value) => options.set? name value) {}

def validate (options : Options) : Except ConfigFault Unit :=
  if options.workers = some 0 then .error .noWorkers
  else if options.retryAttempts = 0 then .error .noAttempts
  else .ok ()

end Options

namespace Override

def names : List String := ["compile", "execute", "dependencies", "extension"]

def set? (override : Override) (name : String) (value : Toml) : Option Override :=
  match name with
  | "compile" => do return { override with compile := some (← value.string?) }
  | "execute" => do return { override with execute := some (← value.string?) }
  | "dependencies" => do return { override with dependencies := some (← value.strings?) }
  | "extension" => do return { override with extension := some (← value.string?) }
  | _ => none

/-- An array must have every field. -/
def ofToml? (value : Toml) : Option Override := do
  if let .array items := value then
    if items.length < names.length then none
  (← value.fields? names).foldlM (fun override field => override.set? field.1 field.2) {}

end Override

namespace Config

def section? (member : String × Toml) : Option (String × Override) :=
  (Override.ofToml? member.2).map (member.1, ·)

def sectionsOf? : Toml → Option (List (String × Override))
  | .table _ members =>
    (members.mapM section?).map fun sections =>
      sections.mergeSort fun left right => decide (left.1 ≤ right.1)
  | _ => none

def set? (config : Config) (member : String × Toml) : Option Config :=
  if member.1 = "harness" then
    (Options.ofToml? member.2).map fun options => { config with options }
  else if member.1 = "languages" then
    (sectionsOf? member.2).map fun sections => { config with sections }
  else none

def ofMembers? (members : Toml.Members) : Option Config := members.foldlM set? {}

def checkSections (sections : List (String × Override)) : Except ConfigFault Unit :=
  match sections.find? fun entry => (Language.ofText? entry.1).isNone with
  | some entry => .error (.unknownLanguage entry.1)
  | none => .ok ()

def parse (text : String) : Except ConfigFault Config := do
  let some config := (Toml.read? text.toList).bind ofMembers? | throw .malformed
  config.options.validate
  checkSections config.sections
  return config

def load (files : Files) (path : String) : Except Failure Config := do
  let text ← match files.readText path with
    | .ok text => pure text
    | .error fault => throw (.file .readConfig path fault)
  match parse text with
  | .ok config => return config
  | .error fault => throw (.config path fault)

def fileName : String := "porter.toml"

/-- The nearest configuration at a directory or above it. A path has fewer steps up than
characters. -/
def findFrom (files : Files) : (fuel : Nat) → (directory : String) → Option String
  | 0, _ => none
  | fuel + 1, directory =>
    let candidate := Path.join directory fileName
    if files.exists candidate then some candidate
    else
      match Path.parent? directory with
      | some above => findFrom files fuel above
      | none => none

def find (files : Files) (directory : String) : Option String :=
  findFrom files (directory.length + 1) directory

def discover (files : Files) (directory : String) : Except Failure Config :=
  match find files directory with
  | some path => load files path
  | none => .ok {}

def toolchain (config : Config) (language : Language) : Toolchain :=
  config.sections.foldl (fun toolchain entry =>
    if Language.ofText? entry.1 = some language then toolchain.apply entry.2 else toolchain)
    (Toolchain.builtin language)

end Config

end Modelsmith
