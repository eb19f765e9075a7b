import Modelsmith.Proofs.Double.Places
import Modelsmith.Proofs.Double.Shortest
import Modelsmith.Proofs.Program.Exported
import Modelsmith.Proofs.Program.Lines

/-! The texts of the numbers of a program, and what becomes of them in its data.

A shortest text always stands in the data document. A text of fixed places does for every finite
double but the largest, on either side of zero, so that one number is all that keeps a model read from
a document from being exported. With more places than can be asked for nothing is written at all.
-/

set_option autoImplicit false

namespace Modelsmith

/-! ## The numbers of a document that was read -/

namespace Model

theorem forall_of_field? {Item : Type} {decode : Json → Option Item} {holds : Item → Prop}
    (each : ∀ {json value}, decode json = some value → holds value) {json : Option Json}
    {values : List Item} (read : field? (Json.list? decode) [] json = some values) :
    ∀ value ∈ values, holds value := by
  cases json with
  | none =>
    cases read
    simp
  | some json => exact Json.forall_of_list? each read

theorem isFinite_of_treeOfFields? {lefts rights thresholds indices classes width : Option Json}
    {tree : Tree}
    (read : treeOfFields? .leading lefts rights thresholds indices classes width = some tree) :
    ∀ value ∈ DataDocument.numbers (.ofTree tree), value.isFinite = true := by
  simp only [treeOfFields?, Option.bind_eq_bind, Option.bind_eq_some_iff, Option.pure_def] at read
  obtain ⟨_, _, _, _, values, ofThresholds, _, _, _, _, _, _, equal⟩ := read
  cases equal
  exact forall_of_field? Json.isFinite_of_double? ofThresholds

theorem isFinite_of_networkOfFields? {layers weights biases hidden output : Option Json}
    {network : Network}
    (read : networkOfFields? .leading layers weights biases hidden output = some network) :
    ∀ value ∈ DataDocument.numbers (.ofNetwork network), value.isFinite = true := by
  simp only [networkOfFields?, Option.bind_eq_bind, Option.bind_eq_some_iff, Option.pure_def] at read
  obtain ⟨_, _, weights, ofWeights, biases, ofBiases, _, _, _, _, equal⟩ := read
  cases equal
  have row {json : Json} {values : List Double} 
      (read : json.list? (Json.double? .leading) = some values) :
      ∀ value ∈ values, value.isFinite = true := Json.forall_of_list? Json.isFinite_of_double? read
  intro value member
  simp only [DataDocument.numbers, List.mem_append, List.mem_flatten] at member
  rcases member with ⟨values, ⟨layer, inLayers, inLayer⟩, inRow⟩ | ⟨values, inRows, inRow⟩
  · exact forall_of_field? (Json.forall_of_list? row) ofWeights layer inLayers values inLayer value
      inRow
  · exact forall_of_field? row ofBiases values inRows value inRow

theorem isFinite_of_read? {text : List Char} {model : Model} (read : read? .leading text = some model) :
    ∀ value ∈ DataDocument.numbers model, value.isFinite = true := by
  obtain ⟨json, -, ofJson⟩ := Option.bind_eq_some_iff.mp read
  cases json with
  | object members =>
    simp only [ofJson?, ofMembers?, Option.bind_eq_bind, Option.bind_eq_some_iff] at ofJson
    obtain ⟨_, _, form, _, rest⟩ := ofJson
    split at rest
    · simp only [Option.bind_eq_some_iff, Option.pure_def, Option.some.injEq] at rest
      obtain ⟨_, _, _, _, _, _, _, _, _, _, _, _, tree, ofTree, rfl⟩ := rest
      exact isFinite_of_treeOfFields? ofTree
    · simp only [Option.bind_eq_some_iff, Option.pure_def, Option.some.injEq] at rest
      obtain ⟨_, _, _, _, _, _, _, _, _, _, network, ofNetwork, rfl⟩ := rest
      exact isFinite_of_networkOfFields? ofNetwork
    · cases rest
  | array items =>
    rw [ofJson?] at ofJson
    unfold ofItems? at ofJson
    split at ofJson
    · simp only [Option.bind_eq_bind, Option.pure_def] at ofJson
      split at ofJson
      · cases ofJson
      · obtain ⟨tree, ofTree, equal⟩ := Option.bind_eq_some_iff.mp ofJson
        cases equal
        exact isFinite_of_treeOfFields? ofTree
    · simp only [Option.bind_eq_bind, Option.pure_def] at ofJson
      split at ofJson
      · cases ofJson
      · obtain ⟨network, ofNetwork, equal⟩ := Option.bind_eq_some_iff.mp ofJson
        cases equal
        exact isFinite_of_networkOfFields? ofNetwork
    · cases ofJson
  | _ => cases ofJson

end Model

/-! ## Texts in the data -/

namespace DataDocument

theorem accepts_text {numeral : Numeral} (wellFormed : numeral.WellFormed) :
    accepts (String.ofList numeral.text) = (Numeral.Reading.leading numeral).isSome := by
  rw [accepts, String.toList_ofList, Numeral.ofText?_text wellFormed, Option.filter_some]
  cases (Numeral.Reading.leading numeral).isSome <;> rfl

theorem fixedText_of_finite (places : ℕ) {value : Double} (finite : value.isFinite = true) :
    fixedText places value = String.ofList (value.fixedNumeral places).text := by
  rw [fixedText, Double.fixed, if_pos finite]

theorem accepts_fixedText (places : ℕ) {value : Double} (finite : value.isFinite = true) :
    accepts (fixedText places value) = !value.isLargest := by
  rw [fixedText_of_finite places finite, accepts_text (Double.fixedNumeral_wellFormed places value),
    Double.leading_fixedNumeral finite]

theorem find?_congr_of_mem {Item : Type} {first second : Item → Bool} {items : List Item}
    (same : ∀ item ∈ items, first item = second item) : items.find? first = items.find? second := by
  induction items with
  | nil => rfl
  | cons item items ih =>
    obtain ⟨here, others⟩ := List.forall_mem_cons.mp same
    rw [List.find?_cons, List.find?_cons, here, ih others]

theorem firstRejected?_fixedText (places : ℕ) {values : List Double}
    (finite : ∀ value ∈ values, value.isFinite = true) :
    firstRejected? (fixedText places) values = values.find? Double.isLargest := by
  refine find?_congr_of_mem fun value member => ?_
  rw [accepts_fixedText places (finite value member), Bool.not_not]

theorem converts_shortest {value : Double} (finite : value.isFinite = true) :
    Converter.shortest value = .ok (String.ofList (Double.Layout.exact.numeral value).text) := by
  rw [Converter.shortest, Double.Layout.exact.render_of_finite finite]

theorem number_shortest {value : Double} (finite : value.isFinite = true) :
    number .shortest value = .ok (.number (Double.Layout.exact.numeral value)) := by
  have read := Numeral.ofText?_text (Double.Layout.exact.numeral_wellFormed finite)
  rw [number_eq (converts_shortest finite) (by rw [String.toList_ofList, read]),
    if_pos (Numeral.leading_exact finite)]

/-- A result that no text of a number was rejected for. -/
def Unrejected {Result : Type} (result : Except Failure Result) : Prop :=
  ∀ value text, result ≠ .error (.invalidNumber value text)

theorem Unrejected.bind {First Second : Type} {result : Except Failure First}
    {next : First → Except Failure Second} (unrejected : Unrejected result)
    (continues : ∀ first, Unrejected (next first)) : Unrejected (result >>= next) := by
  cases result with
  | ok first => exact continues first
  | error failure =>
    intro value text failed
    exact unrejected value text (congrArg Except.error (Except.error.inj failed))

theorem Unrejected.map {First Second : Type} {result : Except Failure First} (f : First → Second)
    (unrejected : Unrejected result) : Unrejected (result.map f) := by
  cases result with
  | ok first =>
    intro value text failed
    cases failed
  | error failure =>
    intro value text failed
    exact unrejected value text (congrArg Except.error (Except.error.inj failed))

theorem unrejected_ok {Result : Type} (result : Result) : Unrejected (.ok result) := by
  intro value text failed
  cases failed

theorem unrejected_array {Item : Type} {item : Item → Except Failure Json}
    (each : ∀ value, Unrejected (item value)) (items : List Item) : Unrejected (array item items) := by
  refine Unrejected.map _ ?_
  induction items with
  | nil => exact unrejected_ok []
  | cons first rest ih =>
    rw [List.mapM_cons]
    exact (each first).bind fun _ => ih.bind fun _ => unrejected_ok _

theorem unrejected_generate {model : Model} {target : Target} {fault : RenderFault}
    (refuses : ∀ value, target.converter value = .error fault) :
    Unrejected (generate model target) := by
  have each (value : Double) : Unrejected (number target.converter value) := by
    intro other text failed
    rw [number, refuses] at failed
    cases failed
  have document : Unrejected (ofModel target.converter model) := by
    cases model with
    | ofTree tree => exact (unrejected_array each _).bind fun _ => unrejected_ok _
    | ofNetwork network =>
      exact (unrejected_array (unrejected_array (unrejected_array each)) _).bind fun _ =>
        (unrejected_array (unrejected_array each) _).bind fun _ => unrejected_ok _
  have checked : Unrejected model.check := by
    intro value text failed
    rw [Model.check] at failed
    split at failed <;> cases failed
  have supported : Unrejected (target.check model.kind) := by
    intro value text failed
    rw [Target.check] at failed
    split at failed
    · cases failed
    · split at failed <;> cases failed
  -- Each stage has failures of its own, and none of them is about a number.
  refine checked.bind fun _ => supported.bind fun _ => ?_
  cases Source.ofModel target model with
  | error fault =>
    intro value text failed
    cases failed
  | ok source =>
    dsimp only
    split
    · exact (document.map _).bind fun _ => unrejected_ok _
    · exact unrejected_ok _

end DataDocument

/-! ## Failing for a number -/

theorem refused_of_error {model : Model} {target : Target} {write : Double → String}
    (total : ∀ value, target.converter value = .ok (write value)) {failure : Failure}
    (failed : generate model target = .error failure) : Refused model target write failure := by
  rcases granted_or_refused with granted | ⟨other, refused⟩
  · obtain ⟨program, generated, -⟩ := granted.generate_eq total
    cases failed.symm.trans generated
  · cases failed.symm.trans (refused.generate_eq total)
    exact refused

open DataDocument

theorem generate_invalidNumber_iff {model : Model} {target : Target} {write : Double → String}
    (total : ∀ value, target.converter value = .ok (write value)) {value : Double} {text : String} :
    generate model target = .error (.invalidNumber value text) ↔
      model.validate = .ok () ∧ target.check model.kind = .ok () ∧ target.packaging = .exported ∧
        firstRejected? write (numbers model) = some value ∧ text = write value := by
  constructor
  · intro failed
    cases refused_of_error total failed with
    | rejected valid supported named exported found =>
      exact ⟨valid, Target.check_eq_ok.mpr ⟨supported, named⟩, exported, found, rfl⟩
  · rintro ⟨valid, checked, exported, found, rfl⟩
    obtain ⟨supported, named⟩ := Target.check_eq_ok.mp checked
    exact Refused.generate_eq total (.rejected valid supported named exported found)

theorem number_fixed_of_finite {places : ℕ} (few : places ≤ Converter.placesLimit) {value : Double}
    (finite : value.isFinite = true) :
    number (.fixed places) value =
      if value.isLargest then
        .error (.invalidNumber value (String.ofList (value.fixedNumeral places).text))
      else .ok (.number (value.fixedNumeral places)) := by
  rw [number_fixed few finite, Double.leading_fixedNumeral finite, fixedText_of_finite places finite]
  cases value.isLargest <;> rfl

theorem generate_shortest_ne {model : Model} {target : Target}
    (finite : ∀ value ∈ numbers model, value.isFinite = true)
    (shortest : target.converter = .shortest) (value : Double) (shown : String) :
    generate model target ≠ .error (.invalidNumber value shown) := by
  intro failed
  have total (value : Double) : target.converter value = .ok (Source.shortestText value) := by
    rw [shortest]
    rfl
  obtain ⟨-, -, -, found, -⟩ := (generate_invalidNumber_iff total).mp failed
  have stands := (holds_shortest value).mpr (finite value (List.mem_of_find?_eq_some found))
  have rejected := List.find?_some found
  rw [(accepts_iff _).mpr stands] at rejected
  cases rejected

theorem generate_fixed_iff {model : Model} {target : Target}
    (finite : ∀ value ∈ numbers model, value.isFinite = true) {places : ℕ}
    (fixed : target.converter = .fixed places) (value : Double) (shown : String) :
    generate model target = .error (.invalidNumber value shown) ↔
      places ≤ Converter.placesLimit ∧ model.validate = .ok () ∧
        target.check model.kind = .ok () ∧ target.packaging = .exported ∧
        (numbers model).find? Double.isLargest = some value ∧
        shown = String.ofList (value.fixedNumeral places).text := by
  by_cases few : places ≤ Converter.placesLimit
  · have total (value : Double) : target.converter value = .ok (fixedText places value) :=
      fixed ▸ fixed_eq few value
    rw [generate_invalidNumber_iff total, firstRejected?_fixedText places finite]
    simp only [few, true_and]
    refine and_congr_right fun _ => and_congr_right fun _ => and_congr_right fun _ =>
      and_congr_right fun found => ?_
    rw [fixedText_of_finite places (finite value (List.mem_of_find?_eq_some found))]
  · have refuses (value : Double) : target.converter value = .error .tooManyPlaces :=
      fixed ▸ if_neg few
    exact iff_of_false (unrejected_generate refuses value shown) fun all => few all.1

/-- The texts of finite doubles are faithful numerals. The shortest one is a numeral of the fewest
digits that the double is the nearest one to, and it stands in the data. One of fixed places is the
nearest multiple of the last place and keeps the order, and it stands in the data unless the double is
the largest. So a model that was read is exported with the shortest texts, and with fixed places it
fails for a number exactly when it has the largest one. -/
theorem number_texts_faithful (places : ℕ) :
    (∀ value : Double, value.isFinite = true → ∃ numeral : Numeral,
      Converter.shortest value = .ok (String.ofList numeral.text) ∧ value.IsShortest numeral ∧
        numeral.value = value ∧ number .shortest value = .ok (.number numeral)) ∧
      (Converter.placesLimit < places → ∀ value,
        Converter.fixed places value = .error .tooManyPlaces) ∧
      (places ≤ Converter.placesLimit → ∀ value : Double, value.isFinite = true →
        Converter.fixed places value = .ok (String.ofList (value.fixedNumeral places).text) ∧
          value.Placed places (value.fixedNumeral places) ∧
          (∀ other : Double, value.le other = true →
            (value.fixedNumeral places).number ≤ (other.fixedNumeral places).number) ∧
          number (.fixed places) value =
            if value.isLargest then
              .error (.invalidNumber value (String.ofList (value.fixedNumeral places).text))
            else .ok (.number (value.fixedNumeral places))) ∧
      ∀ text model target, Model.read? .leading text = some model →
        (target.converter = .shortest → ∀ value shown,
          generate model target ≠ .error (.invalidNumber value shown)) ∧
        (target.converter = .fixed places → ∀ value shown,
          (generate model target = .error (.invalidNumber value shown) ↔
            places ≤ Converter.placesLimit ∧ model.validate = .ok () ∧
              target.check model.kind = .ok () ∧ target.packaging = .exported ∧
              (numbers model).find? Double.isLargest = some value ∧
              shown = String.ofList (value.fixedNumeral places).text)) := by
  refine ⟨fun value finite => ⟨Double.Layout.exact.numeral value, converts_shortest finite,
      Double.Layout.exact.isShortest finite, Double.Layout.exact.value_numeral finite,
      number_shortest finite⟩,
    fun many value => if_neg (Nat.not_le.mpr many),
    fun few value finite => ⟨?_, Double.placed_fixedNumeral places value,
      fun other le => Double.number_fixedNumeral_mono places le, number_fixed_of_finite few finite⟩,
    fun text model target read => ⟨generate_shortest_ne (Model.isFinite_of_read? read),
      generate_fixed_iff (Model.isFinite_of_read? read)⟩⟩
  rw [fixed_eq few, fixedText_of_finite places finite]

/-- A tree whose root compares with the largest number. -/
def largestText : String :=
  "\x7b\"type\":\"tree\",\"lefts\":[1,-1,-1],\"rights\":[2,-1,-1]," ++
    "\"thresholds\":[1.7976931348623157e308,-2,-2],\"indices\":[0,0,0]," ++
    "\"classes\":[[1,1],[1,0],[0,1]]\x7d"

def largestStump : Tree := { Source.stump with
  thresholds := [.ofRank false (Double.pastFinite - 1), Tree.leafMark, Tree.leafMark] }

def wholeTarget : Target := ⟨.javaScript, .exported, .predict, "Stump", "js", .fixed 0⟩

theorem number_texts_faithful_largest :
    Model.read? .leading largestText.toList = some (.ofTree largestStump) ∧
      generate (.ofTree largestStump) wholeTarget = .error (.invalidNumber
        (.ofRank false (Double.pastFinite - 1)) (toString ((2 ^ 53 - 1) * 2 ^ 971))) := by
  have read : Model.read? .leading largestText.toList = some (.ofTree largestStump) := by
    decide +kernel
  refine ⟨read, ?_⟩
  have failed := (((number_texts_faithful 0).2.2.2 _ _ wholeTarget read).2 rfl
    (.ofRank false (Double.pastFinite - 1)) (toString ((2 ^ 53 - 1) * 2 ^ 971))).mpr
  have checked : wholeTarget.check (Model.kind (.ofTree largestStump)) = .ok () :=
    Target.check_eq_ok.mpr ⟨rfl, (isClassName_iff _).mp (by decide)⟩
  exact failed ⟨by decide, by decide +kernel, checked, rfl, by decide +kernel, by decide +kernel⟩

end Modelsmith
