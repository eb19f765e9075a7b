import Modelsmith.Model.Document
import Modelsmith.Proofs.Json
import Modelsmith.Proofs.Numeral.Leading

/-! Parts of a document, and the values that are read from them.

A part stands where its numerals are read and it nests no deeper than what is left. What is read from
an object hangs on the values of the members with each name, in whatever order they are.
-/

set_option autoImplicit false

namespace Modelsmith

namespace Json

theorem wellFormed_array (items : List Json) :
    (array items).WellFormed ↔ ∀ item ∈ items, item.WellFormed := by
  rw [WellFormed]
  induction items with
  | nil => simp [ItemsWellFormed]
  | cons item items ih => simp [ItemsWellFormed, ih]

theorem wellFormed_object (members : List (String × Json)) :
    (object members).WellFormed ↔ ∀ member ∈ members, member.2.WellFormed := by
  rw [WellFormed]
  induction members with
  | nil => simp [MembersWellFormed]
  | cons member members ih => rw [MembersWellFormed, ih, List.forall_mem_cons]

theorem acceptable_array (reading : Numeral.Reading) (levels : ℕ) (items : List Json) :
    (array items).acceptable reading (levels + 1) = items.all (acceptable reading levels) := by
  rw [acceptable, decide_eq_true (Nat.succ_pos levels), Bool.true_and, Nat.add_sub_cancel]
  induction items with
  | nil => rfl
  | cons item items ih => rw [acceptableItems, ih, List.all_cons]

theorem acceptable_object (reading : Numeral.Reading) (levels : ℕ)
    (members : List (String × Json)) : (object members).acceptable reading (levels + 1) =
      members.all fun member => acceptable reading levels member.2 := by
  rw [acceptable, decide_eq_true (Nat.succ_pos levels), Bool.true_and, Nat.add_sub_cancel]
  induction members with
  | nil => rfl
  | cons member members ih => rw [acceptableMembers, ih, List.all_cons]

theorem wellFormed_ofList {α : Type} {encode : α → Json} {items : List α}
    (each : ∀ item ∈ items, (encode item).WellFormed) : (ofList encode items).WellFormed := by
  rw [ofList, wellFormed_array]
  exact List.forall_mem_map.mpr each

end Json

namespace Numeral.Reading

/-- Every whole number of 64 bits is read. -/
def TakesWords (reading : Numeral.Reading) : Prop :=
  ∀ value : Int, value.natAbs < 2 ^ 64 → (reading (.ofInt value)).isSome = true

theorem coefficient_ofInt (value : Int) : (Numeral.ofInt value).coefficient = value.natAbs := by
  simp [coefficient, Numeral.ofInt]

theorem scale_ofInt (value : Int) : (Numeral.ofInt value).scale = (0 : ℕ) := by
  simp [scale, writtenExponent, Numeral.ofInt]

theorem TakesWords.nearest : TakesWords .nearest := by
  intro value small
  have rank : Double.decimalRank value.natAbs (0 : ℕ) < Double.pastFinite := by
    refine Double.decimalRank_lt ?_
    rw [Nat.pow_zero, Nat.mul_one]
    exact Nat.lt_trans small (by decide +kernel)
  have finite : (Numeral.ofInt value).value.isFinite = true := by
    rw [Numeral.value, coefficient_ofInt, scale_ofInt, Double.ofDecimal_eq]
    exact Double.isFinite_ofRank rank
  rw [Reading.nearest, if_pos finite, Option.isSome_some]

theorem TakesWords.leading : TakesWords .leading := by
  intro value small
  refine leading_isSome (Numeral.ofInt_wellFormed value) ?_
  have word : ((value.natAbs : ℕ) : ℚ) ≤ 2 ^ 64 := by exact_mod_cast small.le
  have unit := Double.word_lt_coarsest
  rw [magnitude, coefficient_ofInt, scale_ofInt, Nat.cast_zero, zpow_zero, mul_one]
  linarith

end Numeral.Reading

namespace Model

/-- Part of a document that may stand at some level. -/
def Stands (reading : Numeral.Reading) (levels : ℕ) (part : Json) : Prop :=
  part.WellFormed ∧ part.acceptable reading levels = true

/-- Part of a document that is read as a value. -/
structure Carries {α : Type} (reading : Numeral.Reading) (levels : ℕ) (decode : Json → Option α)
    (part : Json) (value : α) : Prop where
  stands : Stands reading levels part
  decoded : decode part = some value

section
variable {reading : Numeral.Reading} {levels : ℕ}

theorem stands_string (text : String) : Stands reading levels (.string text) :=
  ⟨trivial, by rw [Json.acceptable]⟩

theorem stands_array {items : List Json} (each : ∀ item ∈ items, Stands reading levels item) :
    Stands reading (levels + 1) (.array items) := by
  rw [Stands, Json.wellFormed_array, Json.acceptable_array, List.all_eq_true]
  exact ⟨fun item member => (each item member).1, fun item member => (each item member).2⟩

theorem stands_object {fields : List (String × Json)}
    (each : ∀ field ∈ fields, Stands reading levels field.2) :
    Stands reading (levels + 1) (.object fields) := by
  rw [Stands, Json.wellFormed_object, Json.acceptable_object, List.all_eq_true]
  exact ⟨fun field member => (each field member).1, fun field member => (each field member).2⟩

theorem carries_ofList {α : Type} {decode : Json → Option α} {encode : α → Json} {items : List α}
    (each : ∀ item ∈ items, Carries reading levels decode (encode item) item) :
    Carries reading (levels + 1) (Json.list? decode) (.ofList encode items) items where
  stands := by
    refine stands_array fun part inside => ?_
    obtain ⟨item, member, rfl⟩ := List.mem_map.mp inside
    exact (each item member).stands
  decoded := by
    have decoded := mapM_eq_pure fun item member => (each item member).decoded
    rw [Json.ofList, Json.list?, List.mapM_map]
    exact decoded.trans (by rw [List.map_id']; rfl)

theorem carries_signed (takes : reading.TakesWords) {value : Int}
    (fits : -(2 ^ 63) ≤ value ∧ value < 2 ^ 63) :
    Carries reading levels Json.signed? (.ofInt value) value where
  stands := ⟨Numeral.ofInt_wellFormed value, by
    rw [Json.ofInt, Json.acceptable, takes value (by omega)]⟩
  decoded := by
    simp only [Json.signed?, Json.integer?, Json.ofInt, Numeral.integer?_ofInt, Option.bind_eq_bind,
      Option.bind_some, if_pos fits]

theorem unsigned?_of_integer? {part : Json} {value : Int} (read : part.integer? = some value)
    (fits : 0 ≤ value ∧ value < 2 ^ 64) : part.unsigned? = some value.toNat := by
  simp only [Json.unsigned?, read, Option.bind_eq_bind, Option.bind_some, if_pos fits]

theorem carries_unsigned (takes : reading.TakesWords) {value : ℕ} (small : value < 2 ^ 64) :
    Carries reading levels Json.unsigned? (.ofNat value) value where
  stands := ⟨Numeral.ofInt_wellFormed value, by
    rw [Json.ofNat, Json.ofInt, Json.acceptable, takes value (by rwa [Int.natAbs_natCast])]⟩
  decoded := by
    have read : (Json.ofNat value).integer? = some (value : Int) := by
      rw [Json.ofNat, Json.ofInt, Json.integer?, Numeral.integer?_ofInt]
    have decoded := unsigned?_of_integer? read
      ⟨Int.natCast_nonneg value, by exact_mod_cast small⟩
    rwa [Int.toNat_natCast] at decoded

theorem carries_children (takes : reading.TakesWords) {values : List Int}
    (fits : ∀ value ∈ values, -(2 ^ 63) ≤ value ∧ value < 2 ^ 63) :
    Carries reading (levels + 1) (Json.list? Json.signed?) (.ofList .ofInt values) values :=
  carries_ofList fun value member => carries_signed takes (fits value member)

end

theorem activation?_key (activation : Activation) :
    activation? (.string activation.key) = some activation := by
  cases activation <;> rfl

def forms : List (String × List String) := [
  ("tree", ["lefts", "rights", "thresholds", "indices", "classes", "n_features"]),
  ("mlp", ["layers", "weights", "biases", "hidden_activation", "output_activation"])]

def spellings (name : String) : List String :=
  if name = "biases" then ["biases", "bias"] else [name]

def valuesOf (names : List String) (members : List (String × Json)) : List Json :=
  (members.filter fun member => names.contains member.1).map Prod.snd

def sole? : List Json → Option (Option Json)
  | [] => some none
  | [value] => some (some value)
  | _ => none

theorem member?_eq_sole? (names : List String) (members : List (String × Json)) :
    member? names members = sole? (valuesOf names members) := by
  unfold member? valuesOf
  generalize members.filter (fun member => names.contains member.1) = found
  rcases found with _ | ⟨⟨_, value⟩, _ | ⟨next, rest⟩⟩
  · rfl
  · rfl
  · rfl

theorem sole?_perm {values others : List Json} (perm : values.Perm others) :
    sole? values = sole? others := by
  match values with
  | [] => rw [perm.nil_eq]
  | [value] => rw [List.singleton_perm.mp perm]
  | first :: second :: rest =>
    match others, perm.length_eq with
    | _ :: _ :: _, _ => rfl

theorem member?_perm {names : List String} {listed fields : List (String × Json)}
    (perm : listed.Perm fields) : member? names listed = member? names fields := by
  rw [member?_eq_sole?, member?_eq_sole?]
  exact sole?_perm ((perm.filter _).map Prod.snd)

section
variable {reading : Numeral.Reading} {fields : List (String × Json)}

theorem ofMembers?_tree {lefts rights thresholds indices classes width : Option Json}
    (form : member? ["type"] fields = some (some (.string "tree")))
    (ofLefts : member? ["lefts"] fields = some lefts)
    (ofRights : member? ["rights"] fields = some rights)
    (ofThresholds : member? ["thresholds"] fields = some thresholds)
    (ofIndices : member? ["indices"] fields = some indices)
    (ofClasses : member? ["classes"] fields = some classes)
    (ofWidth : member? ["n_features"] fields = some width) :
    ofMembers? reading fields =
      (treeOfFields? reading lefts rights thresholds indices classes width).map .ofTree := by
  simp only [ofMembers?, form, ofLefts, ofRights, ofThresholds, ofIndices, ofClasses, ofWidth,
    Option.bind_eq_bind, Option.bind_some, Option.pure_def, Option.map_eq_bind]
  rfl

theorem ofMembers?_network {layers weights biases hidden output : Option Json}
    (form : member? ["type"] fields = some (some (.string "mlp")))
    (ofLayers : member? ["layers"] fields = some layers)
    (ofWeights : member? ["weights"] fields = some weights)
    (ofBiases : member? ["biases", "bias"] fields = some biases)
    (ofHidden : member? ["hidden_activation"] fields = some hidden)
    (ofOutput : member? ["output_activation"] fields = some output) :
    ofMembers? reading fields =
      (networkOfFields? reading layers weights biases hidden output).map .ofNetwork := by
  simp only [ofMembers?, form, ofLayers, ofWeights, ofBiases, ofHidden, ofOutput,
    Option.bind_eq_bind, Option.bind_some, Option.pure_def, Option.map_eq_bind]
  rfl

@[simp] theorem field?_some {α : Type} (decode : Json → Option α) (default : α) (part : Json) :
    field? decode default (some part) = decode part := rfl

theorem field?_optional {α : Type} {decode : Json → Option α} {part : Json} {value : α}
    (present : part ≠ .null) (decoded : decode part = some value) :
    field? (Json.optional? decode) none (some part) = some (some value) := by
  rw [field?_some, Json.optional?, decoded]
  · rfl
  · exact present

theorem treeOfFields?_eq_some {tree : Tree} {lefts rights thresholds indices classes : Json}
    {width : Option Json}
    (ofLefts : Json.list? Json.signed? lefts = some tree.lefts)
    (ofRights : Json.list? Json.signed? rights = some tree.rights)
    (ofThresholds : Json.list? (Json.double? reading) thresholds = some tree.thresholds)
    (ofIndices : Json.list? Json.signed? indices = some tree.indices)
    (ofClasses : Json.list? (Json.list? Json.unsigned?) classes = some tree.classes)
    (ofWidth : field? (Json.optional? Json.unsigned?) none width = some tree.width) :
    treeOfFields? reading (some lefts) (some rights) (some thresholds) (some indices) (some classes)
      width = some tree := by
  simp only [treeOfFields?, field?_some, ofWidth, ofLefts, ofRights, ofThresholds, ofIndices, ofClasses,
    Option.bind_eq_bind, Option.bind_some, Option.pure_def]

theorem networkOfFields?_eq_some {network : Network} {layers weights biases hidden : Json}
    {output : Option Json}
    (ofLayers : Json.list? Json.unsigned? layers = some network.layers)
    (ofWeights : Json.list? (Json.list? (Json.list? (Json.double? reading))) weights =
      some network.weights)
    (ofBiases : Json.list? (Json.list? (Json.double? reading)) biases = some network.biases)
    (ofHidden : activation? hidden = some network.hidden)
    (ofOutput : field? (Json.optional? activation?) none output = some network.output) :
    networkOfFields? reading (some layers) (some weights) (some biases) (some hidden) output =
      some network := by
  simp only [networkOfFields?, field?_some, ofOutput, ofLayers, ofWeights, ofBiases, ofHidden,
    Option.bind_eq_bind, Option.bind_some, Option.pure_def]

theorem ofMembers?_congr {others : List (String × Json)}
    (form : member? ["type"] fields = member? ["type"] others)
    (same : ∀ entry ∈ forms, member? ["type"] fields = some (some (.string entry.1)) →
      ∀ name ∈ entry.2, member? (spellings name) fields = member? (spellings name) others) :
    ofMembers? reading fields = ofMembers? reading others := by
  simp only [forms, List.forall_mem_cons, spellings, String.reduceEq, if_true, if_false] at same
  obtain ⟨tree, network, -⟩ := same
  unfold ofMembers?
  rw [← form]
  match found : member? ["type"] fields with
  | none => rfl
  | some none => rfl
  | some (some value) =>
    simp only [Option.bind_eq_bind, Option.bind_some]
    split
    · obtain ⟨lefts, rights, thresholds, indices, classes, width, -⟩ := tree found
      rw [lefts, rights, thresholds, indices, classes, width]
    · obtain ⟨layers, weights, biases, hidden, output, -⟩ := network found
      rw [layers, weights, biases, hidden, output]
    · rfl

theorem ofMembers?_perm {listed : List (String × Json)} (perm : listed.Perm fields) :
    ofMembers? reading listed = ofMembers? reading fields :=
  ofMembers?_congr (member?_perm perm) fun _ _ _ _ _ => member?_perm perm

theorem read?_object (each : ∀ field ∈ fields, Stands reading 126 field.2) :
    read? reading (Json.object fields).text = ofMembers? reading fields := by
  obtain ⟨wellFormed, acceptable⟩ := stands_object each
  have document : Json.document? reading (Json.object fields).text = some (.object fields) := by
    rw [Json.document?, Json.read?_text wellFormed]
    exact if_pos acceptable
  rw [read?, document]
  rfl

end

end Model

end Modelsmith
