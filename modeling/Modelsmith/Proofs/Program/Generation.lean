import Modelsmith.Proofs.Network.Layers
import Modelsmith.Proofs.Program.Document
import Modelsmith.Proofs.Program.Rendering
import Modelsmith.Proofs.Tree.Reads

/-! When a program is generated, and why not.

Four things are asked in turn: the model is valid, the combination is supported, the name can name a
class and, for data beside the program, every number can stand in it. Nothing else keeps a program
from being generated: the tables of the languages, the names that are bound for them and the shapes
that validation asks for agree.
-/

set_option autoImplicit false

namespace Modelsmith

/-! ## The checks -/

def IsClassName (name : String) : Prop :=
  ∃ first rest, name.toList = first :: rest ∧ IsLetter first ∧
    ∀ c ∈ rest, IsLetter c ∨ ('0' ≤ c ∧ c ≤ '9') ∨ c = '_'

theorem isClassName_iff (name : String) : isClassName name = true ↔ IsClassName name := by
  unfold isClassName IsClassName
  cases name.toList with
  | nil => simp
  | cons first rest =>
    simp only [Bool.and_eq_true, List.all_eq_true, Bool.or_eq_true, decide_eq_true_eq,
      Char.isAlphanum, Char.isDigit, Char.le_def, isAlpha_iff, or_assoc]
    constructor
    · exact fun starts => ⟨first, rest, rfl, starts⟩
    · rintro ⟨_, _, ⟨⟩, starts⟩
      exact starts

namespace Capability

theorem gap?_eq_none {kind : ModelKind} {language : Language} {packaging : Packaging}
    {method : Method} :
    gap? kind language packaging method = none ↔ supports kind language packaging method = true := by
  unfold gap?
  cases supported : supports kind language packaging method with
  | false =>
    split
    · simp
    · split <;> simp
  | true =>
    obtain ⟨entry, listed, holds⟩ := List.any_eq_true.mp supported
    have filled : (entries kind language).isEmpty = false := by
      simpa using List.ne_nil_of_mem listed
    have packaged : ((entries kind language).any fun entry =>
        entry.packagings.contains packaging) = true :=
      List.any_eq_true.mpr ⟨entry, listed, (Bool.and_eq_true _ _ ▸ holds).1⟩
    rw [filled, packaged]
    simp

section
variable {language : Language} {packaging : Packaging} {method : Method}

theorem supports_tree (supported : supports .treeClassifier language packaging method = true) :
    ¬ (language = .c ∧ packaging = .exported) := by
  rintro ⟨rfl, rfl⟩
  simp [supports, entries, table] at supported

theorem supports_network {kind : ModelKind} (network : kind ≠ .treeClassifier)
    (supported : supports kind language packaging method = true) :
    (language = .java ∨ language = .javaScript) ∧ packaging ≠ .combined ∧
      (kind = .networkRegressor → language = .javaScript) := by
  obtain ⟨entry, listed, holds⟩ := List.any_eq_true.mp supported
  obtain ⟨known, fits⟩ := List.mem_filter.mp listed
  simp only [table, List.mem_cons, List.not_mem_nil, or_false] at known
  rcases known with rfl | rfl | rfl | rfl <;>
    simp only [Bool.and_eq_true, decide_eq_true_eq, List.contains_iff_mem, List.mem_cons,
      List.not_mem_nil, or_false] at fits holds
  · exact absurd fits.1.symm network
  · exact absurd fits.1.symm network
  · obtain ⟨rfl, spoken⟩ := fits
    exact ⟨spoken, by rintro rfl; simp at holds, nofun⟩
  · obtain ⟨rfl, spoken⟩ := fits
    exact ⟨.inr spoken, by rintro rfl; simp at holds, fun _ => spoken⟩

end

end Capability

namespace Network

theorem allowed_of_validate {network : Network} (valid : network.validate = .ok ()) :
    network.hidden.allowedHidden = true ∧
      (network.output.getD .identity).allowedOutput = true := by
  simp only [validate, bind_eq_ok, require_eq_ok, exists_const] at valid
  obtain ⟨-, -, -, -, -, _, -, hidden, last⟩ := valid
  refine ⟨hidden, ?_⟩
  cases chosen : network.output with
  | none => rfl
  | some output =>
    rw [chosen] at last
    exact require_eq_ok.mp last

theorem kind_ne_treeClassifier (network : Network) :
    (Model.ofNetwork network).kind ≠ .treeClassifier := by
  rw [Model.kind]
  split <;> simp

end Network

/-! ## Sources -/

namespace Source

def skeleton (packaging : Packaging) : Model → String
  | .ofTree _ => treeSkeleton packaging
  | .ofNetwork _ => networkSkeleton packaging

section
variable {model : Model} {target : Target} (valid : model.validate = .ok ())
  (supported : Capability.supports model.kind target.language target.packaging target.method = true)
include supported

theorem has_skeleton : target.language.dialect.has (skeleton target.packaging model) = true := by
  cases model with
  | ofTree tree => exact (offers_treeSkeleton (Capability.supports_tree supported)).has
  | ofNetwork network =>
    obtain ⟨known, laidOut, -⟩ :=
      Capability.supports_network network.kind_ne_treeClassifier supported
    obtain ⟨-, attached, exported⟩ := offers_network known
    cases packaging : target.packaging with
    | attached => exact attached.has
    | combined => exact absurd packaging laidOut
    | exported => exact exported.has

include valid

theorem ofModel_succeeds {write : Double → String}
    (total : ∀ value, target.converter value = .ok (write value)) :
    Succeeds (ofModel target model) := by
  cases model with
  | ofTree tree => exact ofTree_succeeds total rfl (Capability.supports_tree supported) tree
  | ofNetwork network =>
    obtain ⟨hidden, output⟩ := Network.allowed_of_validate valid
    obtain ⟨known, laidOut, regressor⟩ :=
      Capability.supports_network network.kind_ne_treeClassifier supported
    refine ofNetwork_succeeds total rfl known (fun regresses => regressor ?_) laidOut hidden output
    simp [Model.kind, regresses]

end

end Source

/-! ## Programs -/

theorem Target.check_eq_ok {target : Target} {kind : ModelKind} :
    target.check kind = .ok () ↔
      Capability.supports kind target.language target.packaging target.method = true ∧
        IsClassName target.className := by
  rw [← Capability.gap?_eq_none, ← isClassName_iff, Target.check]
  cases Capability.gap? kind target.language target.packaging target.method with
  | some gap => simp
  | none => cases isClassName target.className <;> simp

def Target.program (target : Target) (source : String) (data : Option String) : Program :=
  ⟨target.className, target.language, target.packaging, target.method, target.extension, source, data⟩

theorem generate_checked {model : Model} {target : Target} {write : Double → String}
    (total : ∀ value, target.converter value = .ok (write value))
    (valid : model.validate = .ok ()) (checked : target.check model.kind = .ok ()) :
    ∃ source, Source.ofModel target model = .ok source ∧ generate model target =
      if target.packaging = .exported then
        DataDocument.settle write (DataDocument.numbers model) (target.program source
          (some (String.ofList (Json.object (DataDocument.members write model)).text)))
      else .ok (target.program source none) := by
  obtain ⟨source, written⟩ :=
    Source.ofModel_succeeds valid (Target.check_eq_ok.mp checked).1 total
  refine ⟨source, written, ?_⟩
  have document := DataDocument.ofModel_settle total model
  simp only [generate, Model.check, valid, checked, written, ok_bind, document,
    DataDocument.settle_map, pure_bind]
  split
  · exact DataDocument.settle_bind_ok rfl
  · rfl

/-- Why no program is generated. Each reason is asked for only when none before it applies. -/
inductive Refused (model : Model) (target : Target) (write : Double → String) : Failure → Prop where
  | invalid {fault : ModelFault} : model.validate = .error fault →
      Refused model target write (.model model.kind fault)
  | unsupported {gap : Capability.Gap} : model.validate = .ok () →
      Capability.supports model.kind target.language target.packaging target.method = false →
      Capability.gap? model.kind target.language target.packaging target.method = some gap →
      Refused model target write (.unsupported model.kind gap)
  | unnamed : model.validate = .ok () →
      Capability.supports model.kind target.language target.packaging target.method = true →
      ¬ IsClassName target.className →
      Refused model target write (.input (.className target.className))
  | rejected {value : Double} : model.validate = .ok () →
      Capability.supports model.kind target.language target.packaging target.method = true →
      IsClassName target.className → target.packaging = .exported →
      DataDocument.firstRejected? write (DataDocument.numbers model) = some value →
      Refused model target write (.invalidNumber value (write value))

/-- Everything that is asked for a program. -/
structure Granted (model : Model) (target : Target) (write : Double → String) : Prop where
  valid : model.validate = .ok ()
  supported :
    Capability.supports model.kind target.language target.packaging target.method = true
  named : IsClassName target.className
  accepted : target.packaging = .exported →
    ∀ value ∈ DataDocument.numbers model, DataDocument.accepts (write value) = true

section
variable {model : Model} {target : Target} {write : Double → String}

theorem granted_or_refused :
    Granted model target write ∨ ∃ failure, Refused model target write failure := by
  cases valid : model.validate with
  | error fault => exact .inr ⟨_, .invalid valid⟩
  | ok _ =>
    cases supported :
      Capability.supports model.kind target.language target.packaging target.method with
    | false =>
      have lacking := mt Capability.gap?_eq_none.mp (ne_true_of_eq_false supported)
      obtain ⟨gap, found⟩ := Option.ne_none_iff_exists'.mp lacking
      exact .inr ⟨_, .unsupported valid supported found⟩
    | true =>
      by_cases named : IsClassName target.className
      · by_cases exported : target.packaging = .exported
        · cases found : DataDocument.firstRejected? write (DataDocument.numbers model) with
          | some value => exact .inr ⟨_, .rejected valid supported named exported found⟩
          | none =>
            refine .inl ⟨valid, supported, named, fun _ => ?_⟩
            simpa [DataDocument.firstRejected?] using found
        · exact .inl ⟨valid, supported, named, fun other => absurd other exported⟩
      · exact .inr ⟨_, .unnamed valid supported named⟩

variable (total : ∀ value, target.converter value = .ok (write value))
include total

theorem Refused.generate_eq {failure : Failure} (refused : Refused model target write failure) :
    generate model target = .error failure := by
  cases refused with
  | invalid invalid =>
    rw [generate, Model.check, invalid]
    rfl
  | unsupported valid supported found =>
    rw [generate, Model.check, valid, ok_bind, Target.check, found]
    rfl
  | unnamed valid supported unnamed =>
    have other : isClassName target.className = false :=
      Bool.eq_false_iff.mpr (mt (isClassName_iff _).mp unnamed)
    rw [generate, Model.check, valid, ok_bind, Target.check,
      Capability.gap?_eq_none.mpr supported, other]
    rfl
  | rejected valid supported named exported found =>
    have checked := Target.check_eq_ok.mpr ⟨supported, named⟩
    obtain ⟨source, -, generated⟩ := generate_checked total valid checked
    rw [generated, if_pos exported, DataDocument.settle, found]

theorem Granted.generate_eq (granted : Granted model target write) :
    ∃ program, generate model target = .ok program ∧
      (program.data.isSome = true ↔ target.packaging = .exported) := by
  have checked := Target.check_eq_ok.mpr ⟨granted.supported, granted.named⟩
  obtain ⟨source, -, generated⟩ := generate_checked total granted.valid checked
  rw [generated]
  by_cases exported : target.packaging = .exported
  · have none : DataDocument.firstRejected? write (DataDocument.numbers model) = none := by
      simpa [DataDocument.firstRejected?] using granted.accepted exported
    rw [if_pos exported, DataDocument.settle, none]
    exact ⟨_, rfl, by simp [Target.program, exported]⟩
  · rw [if_neg exported]
    exact ⟨_, rfl, by simp [Target.program, exported]⟩

end

/-- A program is generated exactly when all is granted, with data exactly when it is exported, and
otherwise the failure is the first reason that applies. Once the model is valid and the combination
supported, the source is rendered, and every read of the arrays that this takes is in range. -/
theorem generate_or_refuse {model : Model} {target : Target} {write : Double → String}
    (total : ∀ value, target.converter value = .ok (write value)) :
    (∀ failure, generate model target = .error failure ↔ Refused model target write failure) ∧
      ((∃ program, generate model target = .ok program) ↔ Granted model target write) ∧
      (∀ program, generate model target = .ok program →
        (program.data.isSome = true ↔ target.packaging = .exported)) ∧
      (model.validate = .ok () →
        Capability.supports model.kind target.language target.packaging target.method = true →
        target.language.dialect.has (Source.skeleton target.packaging model) = true ∧
          (∃ source, Source.ofModel target model = .ok source) ∧
          ∀ tree, model = .ofTree tree →
            tree.emit? tree.size 0 0 = some tree.branchLines ∧
              tree.countFeatures? = some tree.featureCount) := by
  refine ⟨fun failure => ⟨fun failed => ?_, Refused.generate_eq total⟩,
    ⟨fun ⟨program, generated⟩ => ?_, fun granted => ?_⟩, fun program generated => ?_,
    fun valid supported => ⟨Source.has_skeleton supported,
      Source.ofModel_succeeds valid supported total, ?_⟩⟩
  · rcases granted_or_refused with granted | ⟨other, refused⟩
    · obtain ⟨program, generated, -⟩ := granted.generate_eq total
      cases failed.symm.trans generated
    · cases failed.symm.trans (refused.generate_eq total)
      exact refused
  · rcases granted_or_refused with granted | ⟨other, refused⟩
    · exact granted
    · cases generated.symm.trans (refused.generate_eq total)
  · obtain ⟨program, generated, -⟩ := granted.generate_eq total
    exact ⟨program, generated⟩
  · rcases granted_or_refused with granted | ⟨other, refused⟩
    · obtain ⟨same, succeeded, data⟩ := granted.generate_eq total
      cases generated.symm.trans succeeded
      exact data
    · cases generated.symm.trans (refused.generate_eq total)
  · rintro tree rfl
    have wellFormed := Tree.validate_eq_ok_iff_wellFormed.mp valid
    exact ⟨wellFormed.emit?_eq 0 (.here 0) (Nat.le_add_left _ _),
      wellFormed.sameLengths.countFeatures?_eq⟩

/-- A target whose numbers are not spelled at all. -/
def muteTarget : Target := ⟨.javaScript, .exported, .predict, "Stump", "js", fun _ => .ok "x"⟩

theorem generate_or_refuse_mute :
    (∀ value, muteTarget.converter value = .ok "x") ∧
      generate (.ofTree Source.stump) muteTarget =
        .error (.invalidNumber (Double.ofDecimal false 5 (-1)) "x") := by
  refine ⟨fun _ => rfl, ?_⟩
  have decided :=
    (@generate_or_refuse (.ofTree Source.stump) muteTarget (fun _ => "x") fun _ => rfl).1
  refine (decided _).mpr (.rejected Source.stump_valid rfl ((isClassName_iff _).mp (by decide)) rfl ?_)
  exact List.find?_cons_of_pos (show (!DataDocument.accepts "x") = true by decide)

end Modelsmith
