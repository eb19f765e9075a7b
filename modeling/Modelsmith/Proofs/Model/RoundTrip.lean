import Modelsmith.Model.Loading
import Modelsmith.Proofs.Program.Exported

/-! Models read back from their own documents.

The digits of a finite double identify it, so a reader that takes every numeral for the nearest double
gives back each model as it is. A reader that goes by the leading digits does so wherever they tell the
doubles of the model.
-/

set_option autoImplicit false

namespace Modelsmith.Model
open DataDocument

/-- Children and features are words of 64 bits with a sign; counts, sizes and a declared width are
words without one. -/
def HasWords : Model → Prop
  | .ofTree tree => Fits (.ofTree tree) ∧ ∀ width ∈ tree.width, width < 2 ^ 64
  | .ofNetwork network => Fits (.ofNetwork network)

/-- The doubles of a model are read back from their digits in a document. -/
def IdentifiedBy (reading : Numeral.Reading) (model : Model) : Prop :=
  ∀ value ∈ numbers model,
    value.isFinite = true ∧ reading (Double.Layout.document.numeral value) = some value

section
variable {reading : Numeral.Reading} {levels : ℕ}

theorem identifiedBy_nearest {model : Model}
    (finite : ∀ value ∈ numbers model, value.isFinite = true) : model.IdentifiedBy .nearest := by
  intro value member
  have isFinite := finite value member
  refine ⟨isFinite, ?_⟩
  rw [Numeral.Reading.nearest, Double.Layout.document.value_numeral isFinite, if_pos isFinite]

theorem carries_double {value : Double} (identified : value.isFinite = true ∧
    reading (Double.Layout.document.numeral value) = some value) :
    Carries reading levels (Json.double? reading) (.ofDouble value) value := by
  obtain ⟨finite, read⟩ := identified
  rw [Json.ofDouble, if_pos finite]
  refine ⟨⟨Double.Layout.document.numeral_wellFormed finite, ?_⟩, ?_⟩
  · rw [Json.acceptable, read, Option.isSome_some]
  · rw [Json.double?, read]

theorem read?_text_tree (takes : reading.TakesWords) {tree : Tree} (words : HasWords (.ofTree tree))
    (identified : IdentifiedBy reading (.ofTree tree)) :
    read? reading (text (.ofTree tree)) = some (.ofTree tree) := by
  obtain ⟨⟨signed, counts⟩, wide⟩ := words
  have ofLefts := @carries_children reading 125 takes tree.lefts fun value member =>
    signed value (by simp [member])
  have ofRights := @carries_children reading 125 takes tree.rights fun value member =>
    signed value (by simp [member])
  have ofIndices := @carries_children reading 125 takes tree.indices fun value member =>
    signed value (by simp [member])
  have ofThresholds : Carries reading 126 (Json.list? (Json.double? reading))
      (.ofList .ofDouble tree.thresholds) tree.thresholds :=
    carries_ofList fun value member => carries_double (identified value member)
  have ofClasses : Carries reading 126 (Json.list? (Json.list? Json.unsigned?))
      (.ofList (.ofList .ofNat) tree.classes) tree.classes :=
    carries_ofList fun row inside => carries_ofList fun count member =>
      carries_unsigned takes (counts row inside count member)
  have ofWidth {width : ℕ} (declared : width ∈ tree.width) :
      Carries reading 126 Json.unsigned? (.ofNat width) width :=
    carries_unsigned takes (wide width declared)
  rw [text, toJson, read?_object]
  · -- A width that is not declared is left out, and read as not declared.
    obtain ⟨lefts, rights, thresholds, indices, classes, width⟩ := tree
    cases width with
    | none =>
      rw [ofMembers?_tree rfl rfl rfl rfl rfl rfl rfl]
      exact Option.map_eq_some_iff.mpr ⟨_, treeOfFields?_eq_some ofLefts.decoded ofRights.decoded
        ofThresholds.decoded ofIndices.decoded ofClasses.decoded rfl, rfl⟩
    | some width =>
      rw [ofMembers?_tree rfl rfl rfl rfl rfl rfl rfl]
      exact Option.map_eq_some_iff.mpr ⟨_, treeOfFields?_eq_some ofLefts.decoded ofRights.decoded
        ofThresholds.decoded ofIndices.decoded ofClasses.decoded
        (field?_optional (by simp [Json.ofNat, Json.ofInt]) (ofWidth rfl).decoded), rfl⟩
  · intro field member
    simp only [List.cons_append, List.nil_append, List.mem_cons, Option.mem_toList,
      Option.map_eq_some_iff] at member
    rcases member with rfl | rfl | rfl | rfl | rfl | rfl | ⟨width, declared, rfl⟩
    exacts [stands_string _, ofLefts.stands, ofRights.stands, ofThresholds.stands, ofIndices.stands,
      ofClasses.stands, (ofWidth declared).stands]

theorem read?_text_network (takes : reading.TakesWords) {network : Network}
    (words : HasWords (.ofNetwork network))
    (identified : IdentifiedBy reading (.ofNetwork network)) :
    read? reading (text (.ofNetwork network)) = some (.ofNetwork network) := by
  have ofLayers : Carries reading 126 (Json.list? Json.unsigned?) (.ofList .ofNat network.layers)
      network.layers :=
    carries_ofList fun units member => carries_unsigned takes (words units member)
  have ofWeights : Carries reading 126 (Json.list? (Json.list? (Json.list? (Json.double? reading))))
      (.ofList (.ofList (.ofList .ofDouble)) network.weights) network.weights :=
    carries_ofList fun _ inLayers => carries_ofList fun _ inLayer => carries_ofList fun value inRow =>
      carries_double (identified value (weight_mem inLayers inLayer inRow))
  have ofBiases : Carries reading 126 (Json.list? (Json.list? (Json.double? reading)))
      (.ofList (.ofList .ofDouble) network.biases) network.biases :=
    carries_ofList fun _ inRows => carries_ofList fun value inRow =>
      carries_double (identified value (bias_mem inRows inRow))
  rw [text, toJson, read?_object]
  · obtain ⟨layers, weights, biases, hidden, output⟩ := network
    cases output with
    | none =>
      rw [ofMembers?_network rfl rfl rfl rfl rfl rfl]
      exact Option.map_eq_some_iff.mpr ⟨_, networkOfFields?_eq_some ofLayers.decoded
        ofWeights.decoded ofBiases.decoded (activation?_key hidden) rfl, rfl⟩
    | some output =>
      rw [ofMembers?_network rfl rfl rfl rfl rfl rfl]
      exact Option.map_eq_some_iff.mpr ⟨_, networkOfFields?_eq_some ofLayers.decoded
        ofWeights.decoded ofBiases.decoded (activation?_key hidden)
        (field?_optional (by simp) (activation?_key output)), rfl⟩
  · intro field member
    simp only [List.cons_append, List.nil_append, List.mem_cons, Option.mem_toList,
      Option.map_eq_some_iff] at member
    rcases member with rfl | rfl | rfl | rfl | rfl | ⟨output, -, rfl⟩
    exacts [stands_string _, ofLayers.stands, ofWeights.stands, ofBiases.stands, stands_string _,
      stands_string _]

theorem read?_text (takes : reading.TakesWords) {model : Model} (words : model.HasWords)
    (identified : model.IdentifiedBy reading) : read? reading model.text = some model := by
  cases model with
  | ofTree tree => exact read?_text_tree takes words identified
  | ofNetwork network => exact read?_text_network takes words identified

end

/-- A model of the right shape with finite doubles comes back from its document as it is, so it is
written as the same document again. The leading digits give it back when they tell its doubles. -/
theorem parse_text_eq {model : Model} (valid : model.validate = .ok ()) (words : model.HasWords)
    (finite : ∀ value ∈ numbers model, value.isFinite = true) :
    parseBy .nearest model.text = .ok model ∧
      (∀ again, parseBy .nearest model.text = .ok again → again.text = model.text) ∧
      ((∀ value ∈ numbers model, Numeral.Reading.leading (Double.Layout.document.numeral value) =
        some value) → parse model.text = .ok model) := by
  have nearest := parseBy_of_read? (read?_text .nearest words (identifiedBy_nearest finite)) valid
  refine ⟨nearest, fun again read => ?_, fun told => ?_⟩
  · rw [nearest] at read
    rw [Except.ok.inj read]
  · have identified : model.IdentifiedBy .leading := fun value member =>
      ⟨finite value member, told value member⟩
    exact parseBy_of_read? (read?_text .leading words identified) valid

/-- A tree with words and doubles at both ends of their ranges, some of them where no walk comes. -/
def extremes : Model := .ofTree {
  lefts := [1, -9223372036854775808, 9223372036854775807, -1]
  rights := [2, 9223372036854775807, -9223372036854775808, -1]
  thresholds := [Double.ofRank true 0, Tree.leafMark, Tree.leafMark, Double.ofRank false 1]
  indices := [0, 9223372036854775807, -9223372036854775808, 0]
  classes := [[18446744073709551615, 0], [0, 1], [1, 0], [0, 0]]
  width := some 18446744073709551615 }

/-- Negative zero is told from zero. -/
theorem parse_text_eq_extremes : parseBy .nearest extremes.text = .ok extremes ∧
    parse extremes.text = .ok extremes ∧ Double.ofRank true 0 ≠ Double.zero := by
  have valid : extremes.validate = .ok () := eq_ok_of_toOption (by decide +kernel)
  have words : extremes.HasWords :=
    ⟨⟨by decide +kernel, by decide +kernel⟩, fun width declared => by
      rw [← Option.some.inj declared]
      decide⟩
  have finite : ∀ value ∈ numbers extremes, value.isFinite = true := by decide +kernel
  obtain ⟨nearest, -, leading⟩ := parse_text_eq valid words finite
  exact ⟨nearest, leading (by decide +kernel), by decide⟩

end Modelsmith.Model
