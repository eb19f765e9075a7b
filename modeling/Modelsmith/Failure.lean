import Modelsmith.Model.Fault
import Modelsmith.Capability
import Modelsmith.Dialect.Basic
import Modelsmith.Double.Layout
import Modelsmith.Files.System

/-! Everything that can go wrong between the text of a model and a score. -/

set_option autoImplicit false

namespace Modelsmith

inductive InputFault where
  | unknownWord (word : UnknownWord)
  | className (name : String)
  | rowWidth (row found expected : Nat)
  | rowValue (row feature : Nat) (value : Double)
  | labelCount (rows labels : Nat)
  | predictionCount (predictions labels : Nat)
  | unknownSlot (command slot : String)
  | classPath

def InputFault.message : InputFault → String
  | .unknownWord word => word.message
  | .className name => "'" ++ name ++ "' is not a valid class name"
  | .rowWidth row found expected => s!"row {row} has {found} features, the model expects {expected}"
  | .rowValue row feature value =>
    s!"row {row} feature {feature} is " ++
      String.ofList (Double.Layout.positional.render value) ++ ", features must be finite"
  | .labelCount rows labels => s!"{rows} rows but {labels} expected labels"
  | .predictionCount predictions labels =>
    s!"{predictions} predictions but {labels} expected labels"
  | .unknownSlot command slot =>
    "command `" ++ command ++ "` uses the unknown slot `" ++ slot ++ "`"
  | .classPath => "cannot build class path: path segment contains separator `:`"

inductive CompilerFault where
  | failed
  | codeTooLarge
  | tooManyConstants
  deriving DecidableEq

inductive FileAction where
  | read
  | readConfig
  | write
  | createDirectory
  deriving DecidableEq

def FileAction.text : FileAction → String
  | .read => "cannot read"
  | .readConfig => "cannot read config"
  | .write => "cannot write"
  | .createDirectory => "cannot create directory"

inductive ConfigFault where
  | malformed
  | noWorkers
  | noAttempts
  | unknownLanguage (key : String)
  deriving DecidableEq

def ConfigFault.reason : ConfigFault → String
  | .malformed => "not a configuration"
  | .noWorkers => "harness.workers must be at least 1"
  | .noAttempts => "harness.retry_attempts must be at least 1"
  | .unknownLanguage key => "unknown language section [languages." ++ key ++ "]"

inductive Failure where
  | malformedModel
  | model (kind : ModelKind) (fault : ModelFault)
  | unsupported (kind : ModelKind) (gap : Capability.Gap)
  | unscorable (kind : ModelKind)
  | missingDependency (language : Language) (binary : String)
  | compilation (fault : CompilerFault) (command output : String)
  | execution (command : String) (attempts : Nat) (output : String)
  | malformedOutput (command output : String)
  /-- A converted number that a data document cannot hold. -/
  | invalidNumber (value : Double) (text : String)
  | input (fault : InputFault)
  | download (url : String)
  | file (action : FileAction) (path : String) (fault : FileFault)
  | config (path : String) (fault : ConfigFault)
  /-- A text that cannot be rendered. Generation only ever meets the fault of a number. -/
  | rendering (fault : RenderFault)
  | evaluation (fault : EvaluationFault)

namespace Failure

def message : Failure → String
  | .malformedModel => "invalid model descriptor: not a descriptor"
  | .model kind (.missing field) =>
    "the " ++ kind.name ++ " descriptor is not fitted: missing `" ++ field ++ "`"
  | .model kind fault => "invalid " ++ kind.name ++ " descriptor: " ++ fault.reason
  | .unsupported kind gap => gap.text ++ " is not supported for the model `" ++ kind.name ++ "`"
  | .unscorable kind => "scoring is not supported for the model `" ++ kind.name ++ "`"
  | .missingDependency language binary =>
    "required dependency `" ++ binary ++ "` for " ++ language.label ++ " is missing"
  | .compilation .failed command output =>
    "command `" ++ command ++ "` failed to compile the generated code:\n\n" ++ output
  | .compilation .codeTooLarge command output =>
    "generated method body is too large for the compiler (`" ++ command ++ "`):\n\n" ++ output
  | .compilation .tooManyConstants command output =>
    "generated code has too many constants for the compiler (`" ++ command ++ "`):\n\n" ++ output
  | .execution command attempts output =>
    "command `" ++ command ++ s!"` failed after {attempts} attempts:\n\n" ++ output
  | .malformedOutput command output =>
    "command `" ++ command ++ "` printed malformed output (not a prediction):\n\n" ++ output
  | .invalidNumber value text =>
    "converter produced `" ++ text ++ "` for " ++
      String.ofList (Double.Layout.positional.render value) ++
      ", which is not a valid JSON number"
  | .input fault => "invalid input: " ++ fault.message
  | .download url => "cannot download `" ++ url ++ "`: not a usable address"
  | .file action path fault => action.text ++ " '" ++ path ++ "': " ++ fault.message
  | .config path fault => "invalid config '" ++ path ++ "': " ++ fault.reason
  | .rendering fault => fault.message
  | .evaluation .outOfRange => "a row of features is out of range"
  | .evaluation .endless => "the walk through the tree does not end"
  | .evaluation .overflow => "the counts of a leaf are too large"

def isCompilation : Failure → Bool
  | .compilation .. => true
  | _ => false

end Failure

end Modelsmith
