import Modelsmith.Proofs.Model.Parts
import Modelsmith.Proofs.Program.Generation

/-! The data document of an exported program: its text, and the model that is read from it.

A converted text stands in the document as it is, when it is one numeral that the leading digits
tell. The text of the document is written down here on its own, without a JSON value.
-/

set_option autoImplicit false

namespace Modelsmith

namespace Json

theorem itemsText_eq (items : List Json) : itemsText items = [','].intercalate (items.map text) := by
  induction items with
  | nil => rfl
  | cons item items ih =>
    cases items with
    | nil => simp [itemsText]
    | cons next rest => simp [itemsText, ih]

theorem membersText_eq (members : List (String × Json)) : membersText members =
    [','].intercalate (members.map fun member => quoted member.1 ++ ':' :: text member.2) := by
  induction members with
  | nil => rfl
  | cons member members ih =>
    cases members with
    | nil => simp [membersText]
    | cons next rest => simp [membersText, ih]

theorem text_ofInt (value : Int) : (ofInt value).text = (toString value).toList := by
  cases value with
  | ofNat count =>
    show (Numeral.ofInt count).text = (String.ofList (Nat.toDigits 10 count)).toList
    simp [Numeral.ofInt, Numeral.text, digitText]
  | negSucc count =>
    show (Numeral.ofInt (.negSucc count)).text =
      ("-" ++ String.ofList (Nat.toDigits 10 (count + 1))).toList
    simp [Numeral.ofInt, Numeral.text, digitText]

end Json

theorem Model.parseBy_of_read? {reading : Numeral.Reading} {model : Model} {text : List Char}
    (read : read? reading text = some model) (valid : model.validate = .ok ()) :
    parseBy reading text = .ok model := by
  have checked : model.check = .ok () := by rw [check, valid]
  simp only [parseBy, read, checked, ok_bind]
  rfl

/-! ## Trees without a declared width -/

namespace Tree

theorem Below.of_withoutWidth {tree : Tree} {start node : Nat} {path : List Side}
    (below : Below { tree with width := none } start path node) : tree.Below start path node := by
  induction below with
  | here node => exact .here node
  | step has _ ih => exact .step has ih

theorem WellFormed.withoutWidth {tree : Tree} (wellFormed : tree.WellFormed) :
    WellFormed { tree with width := none } where
  nonempty := wellFormed.nonempty
  lengths := wellFormed.lengths
  classRows := wellFormed.classRows
  children path node side entry leads := wellFormed.children path node side entry leads.of_withoutWidth
  features path node leads split := by
    obtain ⟨feature, read, nonneg, -⟩ := wellFormed.features path node leads.of_withoutWidth split
    exact ⟨feature, read, nonneg, by simp⟩
  onePath path other node leads again :=
    wellFormed.onePath path other node leads.of_withoutWidth again.of_withoutWidth

end Tree

namespace DataDocument
open Model

/-! ## The text -/

/-- A text that is one numeral, with a magnitude that its leading digits tell. -/
def Holds (text : String) : Prop :=
  ∃ numeral : Numeral, numeral.WellFormed ∧ numeral.text = text.toList ∧
    (Numeral.Reading.leading numeral).isSome = true

theorem accepts_iff (text : String) : accepts text = true ↔ Holds text := by
  constructor
  · intro accepted
    cases read : Numeral.ofText? text.toList with
    | none => simp [accepts, read] at accepted
    | some numeral =>
      obtain ⟨wellFormed, same⟩ := Numeral.ofText?_eq_some read
      exact ⟨numeral, wellFormed, same, by simpa [accepts, read, Option.filter] using accepted⟩
  · rintro ⟨numeral, wellFormed, same, inRange⟩
    simp [accepts, ← same, Numeral.ofText?_text wellFormed, Option.filter, inRange]

theorem entry_of_holds {text : String} (holds : Holds text) :
    (entry text).WellFormed ∧ (entry text).text = text.toList := by
  obtain ⟨numeral, wellFormed, same, -⟩ := holds
  rw [entry, ← same, Numeral.ofText?_text wellFormed]
  exact ⟨wellFormed, rfl⟩

def bracketed {α : Type} (shown : α → List Char) (items : List α) : List Char :=
  '[' :: ([','].intercalate (items.map shown) ++ [']'])

def braced (members : List (List Char)) : List Char := '{' :: ([','].intercalate members ++ ['}'])

def labelled (key : String) (value : List Char) : List Char :=
  '"' :: (key.toList ++ '"' :: ':' :: value)

def whole (value : Int) : List Char := (toString value).toList

/-- The data document without white space, every converted text as it is. -/
def dataText (write : Double → String) : Model → List Char
  | .ofTree tree => braced [
    labelled "lefts" (bracketed whole tree.lefts),
    labelled "rights" (bracketed whole tree.rights),
    labelled "thresholds" (bracketed (fun value => (write value).toList) tree.thresholds),
    labelled "indices" (bracketed whole tree.indices),
    labelled "classes" (bracketed (bracketed fun count : ℕ => whole count) tree.classes)]
  | .ofNetwork network => braced [
    labelled "layers" (bracketed (fun units : ℕ => whole units) network.layers),
    labelled "weights"
      (bracketed (bracketed (bracketed fun value => (write value).toList)) network.weights),
    labelled "bias" (bracketed (bracketed fun value => (write value).toList) network.biases)]

theorem weight_mem {network : Network} {layer : List (List Double)} {row : List Double}
    {value : Double} (inLayers : layer ∈ network.weights) (inLayer : row ∈ layer)
    (inRow : value ∈ row) : value ∈ numbers (.ofNetwork network) := by
  simp only [numbers, List.mem_append, List.mem_flatten]
  exact .inl ⟨row, ⟨layer, inLayers, inLayer⟩, inRow⟩

theorem bias_mem {network : Network} {row : List Double} {value : Double}
    (inRows : row ∈ network.biases) (inRow : value ∈ row) : value ∈ numbers (.ofNetwork network) := by
  simp only [numbers, List.mem_append, List.mem_flatten]
  exact .inr ⟨row, inRows, inRow⟩

theorem text_ofList {α : Type} {encode : α → Json} {shown : α → List Char} {items : List α}
    (same : ∀ item ∈ items, (encode item).text = shown item) :
    (Json.ofList encode items).text = bracketed shown items := by
  rw [Json.ofList, Json.text, Json.itemsText_eq, List.map_map, bracketed]
  congr 3
  exact List.map_congr_left same

theorem text_labelled {key : String} {value : Json} {shown : List Char}
    (plain : Json.quoted key = '"' :: (key.toList ++ ['"'])) (same : value.text = shown) :
    Json.quoted key ++ ':' :: value.text = labelled key shown := by
  simp [plain, same, labelled]

theorem text_members {write : Double → String} {model : Model}
    (holds : ∀ value ∈ numbers model, Holds (write value)) :
    (Json.object (members write model)).text = dataText write model := by
  have ints (values : List Int) : (Json.ofList .ofInt values).text = bracketed whole values :=
    text_ofList fun value _ => Json.text_ofInt value
  have nats (values : List ℕ) :
      (Json.ofList .ofNat values).text = bracketed (fun value : ℕ => whole value) values :=
    text_ofList fun value _ => Json.text_ofInt value
  have row {values : List Double} (inside : ∀ value ∈ values, value ∈ numbers model) :
      (Json.ofList (fun value => entry (write value)) values).text =
        bracketed (fun value => (write value).toList) values :=
    text_ofList fun value member => (entry_of_holds (holds value (inside value member))).2
  have rows {values : List (List Double)}
      (inside : ∀ part ∈ values, ∀ value ∈ part, value ∈ numbers model) :
      (Json.ofList (.ofList fun value => entry (write value)) values).text =
        bracketed (bracketed fun value => (write value).toList) values :=
    text_ofList fun part member => row (inside part member)
  cases model with
  | ofTree tree =>
    rw [members, Json.text, Json.membersText_eq]
    simp only [List.map_cons, List.map_nil]
    rw [text_labelled rfl (ints _), text_labelled rfl (ints _),
      text_labelled rfl (@row tree.thresholds fun _ member => member), text_labelled rfl (ints _),
      text_labelled rfl (text_ofList fun counts _ => nats counts)]
    rfl
  | ofNetwork network =>
    rw [members, Json.text, Json.membersText_eq]
    simp only [List.map_cons, List.map_nil]
    rw [text_labelled rfl (nats _),
      text_labelled rfl (text_ofList fun _ inLayers => rows fun _ inLayer _ => weight_mem inLayers inLayer),
      text_labelled rfl (rows fun _ inRows _ => bias_mem inRows)]
    rfl

/-! ## Reading it back -/

/-- The members that tell what the arrays of a model are for. -/
def added : Model → List (String × Json)
  | .ofTree _ => [("type", .string "tree")]
  | .ofNetwork network =>
    [("type", .string "mlp"), ("hidden_activation", .string network.hidden.key)] ++
      (network.output.map fun output => ("output_activation", Json.string output.key)).toList

/-- The declared width is no part of the data document. -/
def withoutWidth : Model → Model
  | .ofTree tree => .ofTree { tree with width := none }
  | .ofNetwork network => .ofNetwork network

theorem validate_withoutWidth {model : Model} (valid : model.validate = .ok ()) :
    (withoutWidth model).validate = .ok () := by
  cases model with
  | ofNetwork network => exact valid
  | ofTree tree =>
    have wellFormed := Tree.validate_eq_ok_iff_wellFormed.mp valid
    exact Tree.validate_eq_ok_iff_wellFormed.mpr wellFormed.withoutWidth

/-- Children and features are words of 64 bits with a sign, counts and sizes without one. -/
def Fits : Model → Prop
  | .ofTree tree =>
    (∀ value ∈ tree.lefts ++ tree.rights ++ tree.indices, -(2 ^ 63) ≤ value ∧ value < 2 ^ 63) ∧
      ∀ counts ∈ tree.classes, ∀ count ∈ counts, count < 2 ^ 64
  | .ofNetwork network => ∀ units ∈ network.layers, units < 2 ^ 64

section
variable {levels : ℕ}

theorem entry_shortest {value : Double} (finite : value.isFinite = true) :
    entry (Source.shortestText value) = .number (Double.Layout.exact.numeral value) := by
  rw [entry, Source.shortestText, String.toList_ofList, Double.Layout.exact.render_of_finite finite,
    Numeral.ofText?_text (Double.Layout.exact.numeral_wellFormed finite)]

theorem carries_entry {value : Double} (finite : value.isFinite = true) :
    Carries .nearest levels (Json.double? .nearest) (entry (Source.shortestText value)) value := by
  have nearest : Numeral.Reading.nearest (Double.Layout.exact.numeral value) = some value := by
    rw [Numeral.Reading.nearest, Double.Layout.exact.value_numeral finite, if_pos finite]
  rw [entry_shortest finite]
  refine ⟨⟨Double.Layout.exact.numeral_wellFormed finite, ?_⟩, ?_⟩
  · rw [Json.acceptable, nearest, Option.isSome_some]
  · rw [Json.double?, nearest]

end

theorem read?_tree {tree : Tree} {lefts rights thresholds indices classes : Json}
    {listed : List (String × Json)}
    (perm : listed.Perm [("lefts", lefts), ("rights", rights), ("thresholds", thresholds),
      ("indices", indices), ("classes", classes), ("type", .string "tree")])
    (ofLefts : Carries .nearest 126 (Json.list? Json.signed?) lefts tree.lefts)
    (ofRights : Carries .nearest 126 (Json.list? Json.signed?) rights tree.rights)
    (ofThresholds : Carries .nearest 126 (Json.list? (Json.double? .nearest)) thresholds tree.thresholds)
    (ofIndices : Carries .nearest 126 (Json.list? Json.signed?) indices tree.indices)
    (ofClasses : Carries .nearest 126 (Json.list? (Json.list? Json.unsigned?)) classes tree.classes) :
    Model.read? .nearest (Json.object listed).text =
      some (.ofTree { tree with width := none }) := by
  have read := @read?_object .nearest listed fun field member => by
    have inside := perm.mem_iff.mp member
    simp only [List.mem_cons, List.not_mem_nil, or_false] at inside
    rcases inside with rfl | rfl | rfl | rfl | rfl | rfl
    exacts [ofLefts.stands, ofRights.stands, ofThresholds.stands, ofIndices.stands,
      ofClasses.stands, stands_string _]
  rw [read, ofMembers?_perm perm, ofMembers?_tree rfl rfl rfl rfl rfl rfl rfl]
  exact Option.map_eq_some_iff.mpr ⟨{ tree with width := none },
    treeOfFields?_eq_some ofLefts.decoded ofRights.decoded ofThresholds.decoded ofIndices.decoded
      ofClasses.decoded rfl, rfl⟩

theorem read?_network {network : Network} {layers weights biases : Json}
    {listed : List (String × Json)}
    (perm : listed.Perm ([("layers", layers), ("weights", weights), ("bias", biases)] ++
      added (.ofNetwork network)))
    (ofLayers : Carries .nearest 126 (Json.list? Json.unsigned?) layers network.layers)
    (ofWeights : Carries .nearest 126 (Json.list? (Json.list? (Json.list? (Json.double? .nearest)))) weights
      network.weights)
    (ofBiases : Carries .nearest 126 (Json.list? (Json.list? (Json.double? .nearest))) biases
      network.biases) :
    Model.read? .nearest (Json.object listed).text = some (.ofNetwork network) := by
  have read := @read?_object .nearest listed fun field member => by
    have inside := perm.mem_iff.mp member
    simp only [added, List.cons_append, List.nil_append, List.mem_cons, Option.mem_toList,
      Option.map_eq_some_iff] at inside
    rcases inside with rfl | rfl | rfl | rfl | rfl | ⟨output, -, rfl⟩
    exacts [ofLayers.stands, ofWeights.stands, ofBiases.stands, stands_string _, stands_string _,
      stands_string _]
  obtain ⟨sizes, weight, bias, hidden, output⟩ := network
  rw [read, ofMembers?_perm perm]
  cases output with
  | none =>
    rw [ofMembers?_network rfl rfl rfl rfl rfl rfl]
    exact Option.map_eq_some_iff.mpr ⟨⟨sizes, weight, bias, hidden, none⟩,
      networkOfFields?_eq_some ofLayers.decoded ofWeights.decoded ofBiases.decoded
        (activation?_key hidden) rfl, rfl⟩
  | some output =>
    rw [ofMembers?_network rfl rfl rfl rfl rfl rfl]
    exact Option.map_eq_some_iff.mpr ⟨⟨sizes, weight, bias, hidden, some output⟩,
      networkOfFields?_eq_some ofLayers.decoded ofWeights.decoded ofBiases.decoded
        (activation?_key hidden) (field?_optional (by simp) (activation?_key output)), rfl⟩

theorem read?_members {model : Model} (fits : Fits model)
    (finite : ∀ value ∈ numbers model, value.isFinite = true) {listed : List (String × Json)}
    (perm : listed.Perm (members Source.shortestText model ++ added model)) :
    Model.read? .nearest (Json.object listed).text = some (withoutWidth model) := by
  cases model with
  | ofTree tree =>
    obtain ⟨words, counts⟩ := fits
    refine read?_tree perm (carries_children .nearest ?_) (carries_children .nearest ?_) ?_ (carries_children .nearest ?_) ?_
    · exact fun value member => words value (by simp [member])
    · exact fun value member => words value (by simp [member])
    · exact carries_ofList fun value member => carries_entry (finite value member)
    · exact fun value member => words value (by simp [member])
    · exact carries_ofList fun row inside => carries_ofList fun count member =>
        carries_unsigned .nearest (counts row inside count member)
  | ofNetwork network =>
    refine read?_network perm ?_ ?_ ?_
    · exact carries_ofList fun units member => carries_unsigned .nearest (fits units member)
    · exact carries_ofList fun _ inLayers => carries_ofList fun _ inLayer =>
        carries_ofList fun value inRow => carries_entry (finite value (weight_mem inLayers inLayer inRow))
    · exact carries_ofList fun _ inRows => carries_ofList fun value inRow =>
        carries_entry (finite value (bias_mem inRows inRow))

/-! ## The document of an exported program -/

theorem members_wellFormed {write : Double → String} {model : Model}
    (holds : ∀ value ∈ numbers model, Holds (write value)) :
    (Json.object (members write model)).WellFormed := by
  have ints (values : List Int) : (Json.ofList .ofInt values).WellFormed :=
    Json.wellFormed_ofList fun value _ => Numeral.ofInt_wellFormed value
  have nats (values : List ℕ) : (Json.ofList .ofNat values).WellFormed :=
    Json.wellFormed_ofList fun value _ => Numeral.ofInt_wellFormed value
  have stands {value : Double} (member : value ∈ numbers model) := (entry_of_holds (holds value member)).1
  cases model with
  | ofTree tree =>
    exact ⟨ints _, ints _, Json.wellFormed_ofList fun _ => stands, ints _,
      Json.wellFormed_ofList fun counts _ => nats counts, trivial⟩
  | ofNetwork network =>
    refine ⟨nats _, ?_, ?_, trivial⟩
    · exact Json.wellFormed_ofList fun _ inLayers => Json.wellFormed_ofList fun _ inLayer =>
        Json.wellFormed_ofList fun _ inRow => stands (weight_mem inLayers inLayer inRow)
    · exact Json.wellFormed_ofList fun _ inRows => Json.wellFormed_ofList fun _ inRow =>
        stands (bias_mem inRows inRow)

theorem holds_shortest (value : Double) :
    Holds (Source.shortestText value) ↔ value.isFinite = true := by
  constructor
  · intro holds
    by_contra infinite
    have rejected : accepts (Source.shortestText value) = false := by
      rw [Source.shortestText, Double.Layout.render]
      split
      · decide
      · rw [if_pos (by simpa using infinite)]
        cases value.negative <;> decide
    rw [(accepts_iff _).mpr holds] at rejected
    cases rejected
  · intro finite
    refine ⟨_, Double.Layout.exact.numeral_wellFormed finite, ?_, Numeral.leading_exact finite⟩
    rw [Source.shortestText, String.toList_ofList, Double.Layout.exact.render_of_finite finite]

theorem settle_of_holds {write : Double → String} {values : List Double} {α : Type}
    (holds : ∀ value ∈ values, Holds (write value)) (result : α) :
    settle write values result = .ok result := by
  have none : firstRejected? write values = none :=
    List.find?_eq_none.mpr fun value member => by simp [(accepts_iff _).mpr (holds value member)]
  rw [settle, none]

theorem settle_eq_ok {write : Double → String} {values : List Double} {α : Type} {result other : α}
    (settled : settle write values result = .ok other) :
    (∀ value ∈ values, Holds (write value)) ∧ other = result := by
  rw [settle] at settled
  split at settled
  · cases settled
  · rename_i none
    refine ⟨fun value member => (accepts_iff _).mp ?_, (Except.ok.inj settled).symm⟩
    simpa using List.find?_eq_none.mp none value member

theorem settle_of_first {write : Double → String} {before after : List Double} {value : Double}
    {α : Type} (holds : ∀ earlier ∈ before, Holds (write earlier)) (rejected : ¬ Holds (write value))
    (result : α) : settle write (before ++ value :: after) result =
      .error (.invalidNumber value (write value)) := by
  have none : before.find? (fun earlier => !accepts (write earlier)) = none :=
    List.find?_eq_none.mpr fun earlier member => by simp [(accepts_iff _).mpr (holds earlier member)]
  have found : (value :: after).find? (fun earlier => !accepts (write earlier)) = some value :=
    List.find?_cons_of_pos (by simpa [← accepts_iff] using rejected)
  rw [settle, firstRejected?, List.find?_append, none, Option.none_or, found]

theorem numeral_of_holds {numeral : Numeral} (wellFormed : numeral.WellFormed)
    (holds : Holds (String.ofList numeral.text)) :
    (Numeral.Reading.leading numeral).isSome = true := by
  obtain ⟨other, otherFormed, same, inRange⟩ := holds
  have read := Numeral.ofText?_text otherFormed
  rw [same, String.toList_ofList, Numeral.ofText?_text wellFormed] at read
  rwa [Option.some.inj read]

end DataDocument

open DataDocument in
/-- A converter whose texts all stand in the document gives them as they are, and the first text that
does not is reported with its number. All but a few numbers around `2 ^ 1024` stand exactly when they
are in the range of a double. -/
theorem exported_document {model : Model} {target : Target} {write : Double → String}
    (exported : target.packaging = .exported)
    (total : ∀ value, target.converter value = .ok (write value))
    (valid : model.validate = .ok ()) (checked : target.check model.kind = .ok ()) :
    ((∀ value ∈ numbers model, Holds (write value)) → ∃ source,
      generate model target =
          .ok (target.program source (some (String.ofList (dataText write model)))) ∧
        Json.read? (dataText write model) = some (.object (members write model))) ∧
      (∀ before value after, numbers model = before ++ value :: after →
        (∀ earlier ∈ before, Holds (write earlier)) → ¬ Holds (write value) →
          generate model target = .error (.invalidNumber value (write value))) ∧
      (∀ numeral : Numeral, numeral.WellFormed →
        (numeral.magnitude ≤ (2 ^ 53 - 4) * 2 ^ 971 → Holds (String.ofList numeral.text)) ∧
          ((2 ^ 53 + 4) * 2 ^ 971 ≤ numeral.magnitude → ¬ Holds (String.ofList numeral.text))) ∧
      (∀ value, Holds (Source.shortestText value) ↔ value.isFinite = true) ∧
      (write = Source.shortestText → Fits model → ∀ program data,
        generate model target = .ok program → program.data = some data →
          ∃ fields, Json.read? data.toList = some (.object fields) ∧
            ∀ listed, listed.Perm (fields ++ added model) →
              Model.parseBy .nearest (Json.object listed).text = .ok (withoutWidth model)) := by
  obtain ⟨source, -, generated⟩ := generate_checked total valid checked
  rw [if_pos exported] at generated
  refine ⟨fun holds => ⟨source, ?_, ?_⟩, fun before value after split holds rejected => ?_,
    fun numeral wellFormed => ⟨fun small => ?_, fun large holds => ?_⟩, holds_shortest, ?_⟩
  · rw [generated, settle_of_holds holds, text_members holds]
  · rw [← text_members holds, Json.read?_text (members_wellFormed holds)]
  · rw [generated, split, settle_of_first holds rejected]
  · exact ⟨numeral, wellFormed, String.toList_ofList.symm, Numeral.leading_isSome wellFormed small⟩
  · have inRange := numeral_of_holds wellFormed holds
    rw [Numeral.leading_eq_none wellFormed large] at inRange
    cases inRange
  · rintro rfl fits program data succeeded isData
    obtain ⟨holds, rfl⟩ := settle_eq_ok (generated.symm.trans succeeded)
    cases isData
    refine ⟨members Source.shortestText model, ?_, fun listed perm => ?_⟩
    · rw [String.toList_ofList, Json.read?_text (members_wellFormed holds)]
    · refine Model.parseBy_of_read? (read?_members fits (fun value member => ?_) perm)
        (validate_withoutWidth valid)
      exact (holds_shortest value).mp (holds value member)

/-- A numeral that is nearest to the largest double. -/
def brimText : String := "1.7976931348623158e308"

def brimTarget : Target := ⟨.javaScript, .exported, .predict, "Stump", "js", fun _ => .ok brimText⟩

/-- A numeral in the range of a double that does not stand in the document. -/
theorem exported_document_brim :
    (∀ value, brimTarget.converter value = .ok brimText) ∧
      Model.validate (.ofTree Source.stump) = .ok () ∧
      brimTarget.check (Model.kind (.ofTree Source.stump)) = .ok () ∧
      (Numeral.ofText? brimText.toList).any (fun numeral => numeral.value.isFinite) = true ∧
      generate (.ofTree Source.stump) brimTarget =
        .error (.invalidNumber (Double.ofDecimal false 5 (-1)) brimText) := by
  have total : ∀ value, brimTarget.converter value = .ok brimText := fun _ => rfl
  have checked : brimTarget.check (Model.kind (.ofTree Source.stump)) = .ok () :=
    Target.check_eq_ok.mpr ⟨rfl, (isClassName_iff _).mp (by decide)⟩
  have rejected : ¬ DataDocument.Holds brimText := by
    rw [← DataDocument.accepts_iff]
    decide +kernel
  refine ⟨total, Source.stump_valid, checked, by decide +kernel, ?_⟩
  obtain ⟨-, first, -⟩ := @exported_document (.ofTree Source.stump) brimTarget (fun _ => brimText) rfl
    total Source.stump_valid checked
  exact first [] (Double.ofDecimal false 5 (-1)) [Tree.leafMark, Tree.leafMark] rfl
    (fun _ member => nomatch member) rejected

end Modelsmith
