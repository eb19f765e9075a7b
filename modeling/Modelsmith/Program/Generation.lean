import Modelsmith.Model.Loading
import Modelsmith.Program.Data
import Modelsmith.Program.Source

/-! Models compiled into programs. -/

set_option autoImplicit false

namespace Modelsmith

def Target.check (target : Target) (kind : ModelKind) : Except Failure Unit :=
  match Capability.gap? kind target.language target.packaging target.method with
  | some gap => .error (.unsupported kind gap)
  | none =>
    if isClassName target.className then .ok ()
    else .error (.input (.className target.className))

def generate (model : Model) (target : Target) : Except Failure Program := do
  model.check
  target.check model.kind
  let source ← match Source.ofModel target model with
    | .ok source => pure source
    | .error fault => throw (.rendering fault)
  let data ←
    if target.packaging = .exported then
      (DataDocument.ofModel target.converter model).map fun document =>
        some (String.ofList document.text)
    else pure none
  return {
    className := target.className
    language := target.language
    packaging := target.packaging
    method := target.method
    extension := target.extension
    source
    data }

end Modelsmith
