import Modelsmith.Proofs.Json
import Modelsmith.Proofs.Program.Source
import Modelsmith.Proofs.Tree.Lookup

/-! Rows looked up in the arrays of a program, and rows run through its branches.

The declarations of a program and the document beside it carry the same arrays. What the loop finds
in them is what the branches compute, unless a split on the way of the row is written like a leaf.
With sixteen places or more no split is; with fewer there are trees for which the two differ.
-/

set_option autoImplicit false

namespace Modelsmith

open Literal

/-! ## Arrays read from literals -/

namespace Tree.Arrays

def int? : Nested → Option Int
  | .word text => (Numeral.ofText? text).bind Numeral.integer?
  | .list _ => none

def nat? (nested : Nested) : Option Nat :=
  (int? nested).bind fun value => if 0 ≤ value then some value.toNat else none

def double? : Nested → Option Double
  | .word text => (Numeral.ofText? text).map Numeral.value
  | .list _ => none

def items? {α : Type} (item : Nested → Option α) : Nested → Option (List α)
  | .list items => items.mapM item
  | .word _ => none

/-- The arrays of a tree, given what stands under each name. -/
def read? (member : String → Option Nested) : Option Arrays := do
  return {
    lefts := ← (member "lefts").bind (items? int?)
    rights := ← (member "rights").bind (items? int?)
    thresholds := ← (member "thresholds").bind (items? double?)
    indices := ← (member "indices").bind (items? int?)
    classes := ← (member "classes").bind (items? (items? nat?)) }

theorem int?_ofInt (value : Int) : int? (.ofInt value) = some value := by
  rw [Nested.ofInt, ← intText_eq, intText, String.toList_ofList]
  simp [int?, Numeral.ofText?_text (Numeral.ofInt_wellFormed value)]

theorem nat?_ofInt (value : Nat) : nat? (.ofInt (Int.ofNat value)) = some value := by
  simp [nat?, int?_ofInt]

theorem items?_map {α β : Type} {item : Nested → Option β} {encode : α → Nested} (decode : α → β)
    {values : List α} (reads : ∀ value ∈ values, item (encode value) = some (decode value)) :
    items? item (.list (values.map encode)) = some (values.map decode) := by
  rw [items?, List.mapM_map]
  exact mapM_eq_pure reads

theorem read?_treeArrays (write : Double → String) {reading : Double → Double} {tree : Tree}
    (spelled : ∀ threshold ∈ tree.thresholds,
      double? (Source.word write threshold) = some (reading threshold))
    {member : String → Option Nested}
    (carried : ∀ array ∈ Source.treeArrays write tree, member array.name = some array.value) :
    read? member = some (tree.asRead reading) := by
  have ints : ∀ values : List Int, items? int? (.list (values.map .ofInt)) = some values := by
    intro values
    simpa using items?_map id fun value _ => int?_ofInt value
  have nats : ∀ counts : List Nat,
      items? nat? (.list (counts.map fun count => .ofInt (Int.ofNat count))) = some counts := by
    intro counts
    simpa using items?_map id fun count _ => nat?_ofInt count
  have rows : ∀ classes : List (List Nat), items? (items? nat?) (.list (classes.map fun counts =>
      .list (counts.map fun count => .ofInt (Int.ofNat count)))) = some classes := by
    intro classes
    simpa using items?_map id fun counts _ => nats counts
  simp only [Source.treeArrays, List.forall_mem_cons, List.not_mem_nil, false_imp_iff,
    implies_true, and_true] at carried
  obtain ⟨lefts, rights, thresholds, indices, classes⟩ := carried
  simp only [read?, lefts, rights, thresholds, indices, classes, Option.bind_some, ints, rows,
    items?_map reading spelled]
  rfl

end Tree.Arrays

/-! ## Declarations -/

def fixedText (places : Nat) (value : Double) : String := String.ofList (value.fixed places)

theorem fixedText_plain (places : Nat) (value : Double) :
    IsPlain (fixedText places value).toList := by
  rw [fixedText, String.toList_ofList, Double.fixed]
  split
  · exact isPlain_text (Double.fixedNumeral_wellFormed places value)
  · have plain := Source.shortestText_plain value
    rw [Source.shortestText, String.toList_ofList] at plain
    exact plain

theorem fixed_eq {places : Nat} (few : places ≤ Converter.placesLimit) (value : Double) :
    Converter.fixed places value = .ok (fixedText places value) := by
  rw [Converter.fixed, if_pos few, fixedText]

theorem double?_fixedText (places : Nat) {value : Double} (finite : value.isFinite = true) :
    Tree.Arrays.double? (Source.word (fixedText places) value) = some (value.atPlaces places) := by
  simp [Tree.Arrays.double?, Source.word, fixedText, Double.fixed, finite,
    Numeral.ofText?_text (Double.fixedNumeral_wellFormed places value), Double.value_fixedNumeral]

def Source.declared? (language : Language) (bindings : Template.Bindings) (name : String) :
    Option Nested := do
  let declaration ← bindings.lookup name
  let (_, value) ← decode? language declaration
  return value

theorem Source.read?_declared (language : Language) {places : Nat}
    (few : places ≤ Converter.placesLimit) {tree : Tree} (wellFormed : tree.WellFormed)
    (finite : ∀ threshold ∈ tree.thresholds, threshold.isFinite = true) :
    ∃ bindings, treeDeclarations language.dialect (.fixed places) tree = .ok bindings ∧
      Tree.Arrays.read? (declared? language bindings) =
        some (tree.asRead (Double.atPlaces places)) := by
  obtain ⟨width, -, rows⟩ := wellFormed.classRows
  have count := Tree.classCount_eq wellFormed.nonempty.2.2.2.2 rows
  obtain ⟨bindings, written, -, declares⟩ := treeDeclarations_declare (fixed_eq few)
    (fixedText_plain places) language wellFormed.sameLengths (count ▸ rows)
  refine ⟨bindings, written, Tree.Arrays.read?_treeArrays (fixedText places)
    (fun threshold member => double?_fixedText places (finite threshold member)) ?_⟩
  intro array member
  obtain ⟨declaration, bound, sizes, decoded, -⟩ := declares array member
  simp [declared?, bound, decoded]

theorem Source.treeDeclarations_tooMany (language : Language) {places : Nat}
    (many : Converter.placesLimit < places) {tree : Tree} (wellFormed : tree.WellFormed) :
    treeDeclarations language.dialect (.fixed places) tree = .error .tooManyPlaces := by
  obtain ⟨leftsText, leftsWritten, -⟩ := ints_reads language tree.lefts
  obtain ⟨rightsText, rightsWritten, -⟩ := ints_reads language tree.rights
  obtain ⟨lefts, hlefts⟩ := declare_vector language .int "lefts" leftsText tree.size
  obtain ⟨rights, hrights⟩ := declare_vector language .int "rights" rightsText tree.size
  have refused : doubles language.dialect (.fixed places) tree.thresholds =
      .error .tooManyPlaces := by
    cases thresholds : tree.thresholds with
    | nil => exact absurd thresholds wellFormed.nonempty.2.2.1
    | cons threshold rest =>
      simp only [doubles, List.mapM_cons, Converter.fixed, if_neg (Nat.not_le.mpr many)]
      rfl
  simp only [treeDeclarations, leftsWritten, rightsWritten, hlefts, hrights, refused, ok_bind]
  rfl

/-! ## Documents -/

namespace DataDocument

mutual
/-- Numbers and arrays of them, with the numbers as they are spelled. -/
def nested? : Json → Option Nested
  | .number numeral => some (.word numeral.text)
  | .array items => (nestedItems? items).map .list
  | _ => none

def nestedItems? : List Json → Option (List Nested)
  | [] => some []
  | item :: rest => do return (← nested? item) :: (← nestedItems? rest)
end

def member? (text : List Char) (name : String) : Option Nested :=
  match Json.read? text with
  | some (.object members) => (members.lookup name).bind nested?
  | _ => none

theorem nested?_ofList {α : Type} {encode : α → Json} {shape : α → Nested} (items : List α)
    (nests : ∀ item ∈ items, nested? (encode item) = some (shape item)) :
    nested? (.ofList encode items) = some (.list (items.map shape)) := by
  rw [Json.ofList, nested?]
  induction items with
  | nil => rfl
  | cons item items ih =>
    have rest := ih fun other member => nests other (by simp [member])
    simp only [Option.map_eq_some_iff, Nested.list.injEq, exists_eq_right] at rest ⊢
    simp [nestedItems?, nests item (by simp), rest]

theorem nested?_ofInt (value : Int) : nested? (.ofInt value) = some (.ofInt value) := by
  rw [Nested.ofInt, ← intText_eq, intText, String.toList_ofList, Json.ofInt, nested?]

section
variable (places : Nat) (tree : Tree)

/-- The document of a tree whose thresholds have a set number of places. -/
def fixedDocument : Json := .object [
  ("lefts", .ofList .ofInt tree.lefts),
  ("rights", .ofList .ofInt tree.rights),
  ("thresholds", .ofList (fun threshold => .number (threshold.fixedNumeral places))
    tree.thresholds),
  ("indices", .ofList .ofInt tree.indices),
  ("classes", .ofList (.ofList .ofNat) tree.classes)]

theorem wellFormed_ofList {α : Type} {encode : α → Json} (wellFormed : ∀ item, (encode item).WellFormed)
    (items : List α) : (Json.ofList encode items).WellFormed := by
  rw [Json.ofList, Json.WellFormed]
  induction items with
  | nil => trivial
  | cons item items ih => exact ⟨wellFormed item, ih⟩

theorem fixedDocument_wellFormed : (fixedDocument places tree).WellFormed := by
  have int : ∀ value, (Json.ofInt value).WellFormed := Numeral.ofInt_wellFormed
  have nat : ∀ value, (Json.ofNat value).WellFormed := fun value => int value
  have number : ∀ threshold : Double, (Json.number (threshold.fixedNumeral places)).WellFormed :=
    Double.fixedNumeral_wellFormed places
  exact ⟨wellFormed_ofList int _, wellFormed_ofList int _, wellFormed_ofList number _,
    wellFormed_ofList int _, wellFormed_ofList (wellFormed_ofList nat) _, trivial⟩

variable {places} {tree}

theorem number_eq {converter : Converter} {value : Double} {text : String} {numeral : Numeral}
    (converts : converter value = .ok text) (read : Numeral.ofText? text.toList = some numeral) :
    number converter value = if (Numeral.Reading.leading numeral).isSome then .ok (.number numeral)
      else .error (.invalidNumber value text) := by
  simp only [number, converts, read]
  cases inRange : (Numeral.Reading.leading numeral).isSome with
  | true => simp only [Option.filter_some, inRange, if_true]
  | false => simp only [Option.filter_some, inRange, Bool.false_eq_true, if_false]

theorem number_fixed (few : places ≤ Converter.placesLimit) {value : Double}
    (finite : value.isFinite = true) :
    number (.fixed places) value =
      if (Numeral.Reading.leading (value.fixedNumeral places)).isSome then
        .ok (.number (value.fixedNumeral places))
      else .error (.invalidNumber value (fixedText places value)) := by
  refine number_eq (fixed_eq few value) ?_
  rw [fixedText, String.toList_ofList, Double.fixed, if_pos finite]
  exact Numeral.ofText?_text (Double.fixedNumeral_wellFormed places value)

theorem ofTree_fixed (few : places ≤ Converter.placesLimit)
    (finite : ∀ threshold ∈ tree.thresholds, threshold.isFinite = true) {document : Json} :
    ofTree (.fixed places) tree = .ok document ↔
      document = fixedDocument places tree ∧ ∀ threshold ∈ tree.thresholds,
        (Numeral.Reading.leading (threshold.fixedNumeral places)).isSome = true := by
  have written : (∀ threshold ∈ tree.thresholds,
      (Numeral.Reading.leading (threshold.fixedNumeral places)).isSome = true) →
        tree.thresholds.mapM (number (.fixed places)) =
          .ok (tree.thresholds.map fun threshold => .number (threshold.fixedNumeral places)) := by
    intro inRange
    refine mapM_eq_pure fun threshold member => ?_
    rw [number_fixed few (finite threshold member), if_pos (inRange threshold member)]
    rfl
  simp only [ofTree, array, bind_eq_ok, map_eq_ok, pure, Except.pure, Except.ok.injEq]
  constructor
  · rintro ⟨_, ⟨values, succeeds, rfl⟩, rfl⟩
    have inRange : ∀ threshold ∈ tree.thresholds,
        (Numeral.Reading.leading (threshold.fixedNumeral places)).isSome = true := by
      intro threshold member
      obtain ⟨result, ok⟩ := ok_of_mapM succeeds threshold member
      rw [number_fixed few (finite threshold member)] at ok
      split at ok
      · assumption
      · cases ok
    cases (written inRange).symm.trans succeeds
    exact ⟨rfl, inRange⟩
  · rintro ⟨rfl, inRange⟩
    exact ⟨_, ⟨_, written inRange, rfl⟩, rfl⟩

theorem read?_fixedDocument
    (finite : ∀ threshold ∈ tree.thresholds, threshold.isFinite = true) :
    Tree.Arrays.read? (member? (fixedDocument places tree).text) =
      some (tree.asRead (Double.atPlaces places)) := by
  refine Tree.Arrays.read?_treeArrays (fixedText places)
    (fun threshold member => double?_fixedText places (finite threshold member)) ?_
  have ints := fun values => nested?_ofList values fun value _ => nested?_ofInt value
  have nats := fun values => nested?_ofList values fun value _ => nested?_ofInt (Int.ofNat value)
  have rows := nested?_ofList tree.classes fun counts _ => nats counts
  have thresholds : nested? (.ofList (fun threshold => .number (threshold.fixedNumeral places))
      tree.thresholds) = some (.list (tree.thresholds.map (Source.word (fixedText places)))) := by
    refine nested?_ofList _ fun threshold member => ?_
    simp [nested?, Source.word, fixedText, Double.fixed, finite threshold member]
  simp only [Source.treeArrays, List.forall_mem_cons, List.not_mem_nil, false_imp_iff,
    implies_true, and_true, member?, Json.read?_text (fixedDocument_wellFormed places tree)]
  exact ⟨ints _, ints _, thresholds, ints _, rows⟩

theorem ofTree_tooMany (many : Converter.placesLimit < places) (wellFormed : tree.WellFormed) :
    ofTree (.fixed places) tree = .error (.rendering .tooManyPlaces) := by
  cases thresholds : tree.thresholds with
  | nil => exact absurd thresholds wellFormed.nonempty.2.2.1
  | cons threshold rest =>
    simp only [ofTree, array, thresholds, List.mapM_cons, number, Converter.fixed,
      if_neg (Nat.not_le.mpr many)]
    rfl

end

end DataDocument

/-! ## The loop and the branches -/

namespace Tree

theorem isNaN_ofRank (negative : Bool) (rank : Nat) :
    (Double.ofRank negative rank).isNaN = false := by
  by_cases finite : rank < Double.pastFinite
  · apply Double.isNaN_of_isFinite
    rw [Double.ofRank, dif_pos finite]
    simp only [Double.isFinite, decide_eq_true_eq]
    rw [Double.pastFinite] at finite
    omega
  · rw [Double.ofRank_of_le negative (Nat.le_of_not_lt finite)]
    cases negative <;> decide

section
variable {places : Nat} (few : places ≤ Converter.placesLimit) {tree : Tree}
  (wellFormed : tree.WellFormed)
  (finite : ∀ threshold ∈ tree.thresholds, threshold.isFinite = true) {row : List Double}
  (numbers : ∀ value ∈ row, value.isNaN = false) (wide : tree.HasFeatures row)
include few wellFormed finite numbers wide

theorem lookup_and_branches (language : Language) :
    ∃ text lines result, Branches.text language.dialect (.fixed places) tree = .ok text ∧
      Branches.read? language text = some lines ∧
      execute row tree.classCount lines = some (tree.outcome result) ∧
      tree.walkFrom (Double.atPlaces places) row tree.size 0 = .ok result ∧
      ∀ fuel, tree.size ≤ fuel → (tree.asRead (Double.atPlaces places)).lookup row fuel 0 =
        some (tree.foundCounts
          (tree.firstMarked? (Double.atPlaces places) row tree.size 0) result) := by
  obtain ⟨text, written, read⟩ :=
    Branches.text_reads (Converter.fixed_reads few) language finite
  obtain ⟨result, walked, executed⟩ := execute_readLines wellFormed (Double.atPlaces places)
    (fun threshold _ => by rw [atPlaces_eq]; exact isNaN_ofRank ..) numbers wide
  refine ⟨text, _, result, written, read, executed, walked, fun fuel enough => ?_⟩
  refine lookup_mono ?_ enough
  have marks : ∀ threshold, isLeafMark threshold = true →
      isLeafMark (threshold.atPlaces places) = true := by
    intro threshold marked
    rw [isLeafMark_iff.mp marked, atPlaces_leafMark]
    exact isLeafMark_iff.mpr rfl
  exact lookup_asRead wellFormed marks (.here 0) walked

end

/-- Branches compute the walk under the written thresholds. The loop over the arrays that a program
carries, in its declarations or in its document, finds the same counts exactly when the first split
on the way that is written like a leaf, if there is one, has them. With sixteen places or more the
leaves are the nodes that are written like one, and the two always agree. -/
theorem lookup_agrees_iff (language : Language) (places : Nat) {tree : Tree}
    (valid : tree.validate = .ok ())
    (finite : ∀ threshold ∈ tree.thresholds, threshold.isFinite = true) {row : List Double}
    (numbers : ∀ value ∈ row, value.isNaN = false) {count : Nat}
    (counted : tree.CountsFeatures count) (wide : count ≤ row.length) :
    (places ≤ Converter.placesLimit → ∃ bindings arrays found text lines counts result,
      Source.treeDeclarations language.dialect (.fixed places) tree = .ok bindings ∧
      Arrays.read? (Source.declared? language bindings) = some arrays ∧
      (∀ document, DataDocument.ofTree (.fixed places) tree = .ok document →
        Arrays.read? (DataDocument.member? document.text) = some arrays) ∧
      ((∃ document, DataDocument.ofTree (.fixed places) tree = .ok document) ↔
        ∀ threshold ∈ tree.thresholds,
          (Numeral.Reading.leading (threshold.fixedNumeral places)).isSome = true) ∧
      (∀ fuel, tree.size ≤ fuel → arrays.lookup row fuel 0 = some found) ∧
      Branches.text language.dialect (.fixed places) tree = .ok text ∧
      Branches.read? language text = some lines ∧
      execute row tree.classCount lines = some counts ∧
      tree.walkFrom (Double.atPlaces places) row tree.size 0 = .ok result ∧
      counts = tree.outcome result ∧
      (∀ node, tree.firstMarked? (Double.atPlaces places) row tree.size 0 = some node →
        found = tree.counts node) ∧
      (found = counts ↔ ∀ node,
        tree.firstMarked? (Double.atPlaces places) row tree.size 0 = some node →
          tree.counts node = counts) ∧
      (16 ≤ places →
        arrays.thresholds.map isLeafMark = tree.thresholds.map isLeafMark ∧ found = counts)) ∧
    (Converter.placesLimit < places →
      Source.treeDeclarations language.dialect (.fixed places) tree = .error .tooManyPlaces ∧
      DataDocument.ofTree (.fixed places) tree = .error (.rendering .tooManyPlaces)) := by
  have wellFormed := validate_eq_ok_iff_wellFormed.mp valid
  refine ⟨fun few => ?_, fun many => ⟨Source.treeDeclarations_tooMany language many wellFormed,
    DataDocument.ofTree_tooMany many wellFormed⟩⟩
  obtain ⟨bindings, declared, carried⟩ := Source.read?_declared language few wellFormed finite
  obtain ⟨text, lines, result, written, read, executed, walked, found⟩ :=
    lookup_and_branches few wellFormed finite numbers (counted.hasFeatures wellFormed wide) language
  refine ⟨bindings, _, _, text, lines, _, result, declared, carried, ?_, ?_, found, written, read,
    executed, walked, rfl, ?_, foundCounts_eq_iff .., fun many => ⟨?_, ?_⟩⟩
  · intro document isDocument
    rw [((DataDocument.ofTree_fixed few finite).mp isDocument).1]
    exact DataDocument.read?_fixedDocument finite
  · constructor
    · rintro ⟨document, isDocument⟩
      exact ((DataDocument.ofTree_fixed few finite).mp isDocument).2
    · intro inRange
      exact ⟨_, (DataDocument.ofTree_fixed few finite).mpr ⟨rfl, inRange⟩⟩
  · intro node marked
    rw [marked, foundCounts]
  · exact marks_asRead fun threshold _ => isLeafMark_atPlaces many threshold
  · rw [firstMarked?_eq_none fun threshold _ => isLeafMark_atPlaces many threshold]
    rfl

/-- A root beside the mark, with two leaves. -/
def besideStump : Tree where
  lefts := [1, -1, -1]
  rights := [2, -1, -1]
  thresholds := [besideMark, leafMark, leafMark]
  indices := [0, 0, 0]
  classes := [[1, 1], [1, 0], [0, 1]]
  width := none

theorem besideStump_valid : besideStump.validate = .ok () := eq_ok_of_toOption (by decide +kernel)

theorem besideStump_counts : besideStump.CountsFeatures 1 := by
  have width : besideStump.featureCount = 1 := by decide +kernel
  exact width ▸
    (validate_eq_ok_iff_wellFormed.mp besideStump_valid).sameLengths.countsFeatures

/-- In two places the root of the stump is written like a leaf: its own counts are found for a row
of zero, and JavaScript branches find those of the right leaf. -/
theorem lookup_agrees_iff_besideStump :
    besideStump.validate = .ok () ∧
      (∀ threshold ∈ besideStump.thresholds, threshold.isFinite = true) ∧
      (∀ value ∈ [Double.zero], value.isNaN = false) ∧ besideStump.CountsFeatures 1 ∧
      ∃ bindings arrays text lines document,
        Source.treeDeclarations Dialect.javaScript (.fixed 2) besideStump = .ok bindings ∧
        Arrays.read? (Source.declared? .javaScript bindings) = some arrays ∧
        DataDocument.ofTree (.fixed 2) besideStump = .ok document ∧
        Arrays.read? (DataDocument.member? document.text) = some arrays ∧
        arrays.lookup [Double.zero] 3 0 = some [1, 1] ∧
        Branches.text Dialect.javaScript (.fixed 2) besideStump = .ok text ∧
        Branches.read? .javaScript text = some lines ∧
        execute [Double.zero] 2 lines = some [0, 1] := by
  have finite : ∀ threshold ∈ besideStump.thresholds, threshold.isFinite = true := by decide +kernel
  have numbers : ∀ value ∈ [Double.zero], value.isNaN = false := by decide +kernel
  refine ⟨besideStump_valid, finite, numbers, besideStump_counts, ?_⟩
  obtain ⟨bindings, arrays, found, text, lines, counts, result, declared, carried, documented,
    exists_, looked, written, read, executed, walked, same, marked, -, -⟩ :=
    (lookup_agrees_iff .javaScript 2 besideStump_valid finite numbers besideStump_counts
      (Nat.le_refl 1)).1 (by decide)
  obtain ⟨document, isDocument⟩ := exists_.mpr (by decide +kernel)
  have fell : besideStump.walkFrom (Double.atPlaces 2) [Double.zero] besideStump.size 0 =
      .ok (some 2) := eq_ok_of_toOption (by decide +kernel)
  cases fell.symm.trans walked
  have first := marked 0 (by decide +kernel)
  subst same first
  exact ⟨bindings, arrays, text, lines, document, declared, carried, isDocument,
    documented document isDocument, looked 3 (by decide), written, read, executed⟩

theorem besideStump_root : besideStump.node? 0 = some (.split 0 besideMark (some 1) (some 2)) := by
  have unmarked : isLeafMark besideMark = false := by decide +kernel
  simp [node?, besideStump, unmarked, child?, noChild]

theorem besideStump_leaf : besideStump.node? 2 = some (.leaf [0, 1]) := by
  simp [node?, besideStump, isLeafMark_iff.mpr rfl]

/-- With fewer than sixteen places there is a tree for which the loop and the branches differ. -/
theorem lookup_differs (language : Language) {places : Nat} (few : places < 16) :
    ∃ tree : Tree, tree.validate = .ok () ∧
      (∀ threshold ∈ tree.thresholds, threshold.isFinite = true) ∧
      ∃ row text lines counts found, (∀ value ∈ row, value.isNaN = false) ∧
        tree.featureCount = row.length ∧
        Branches.text language.dialect (.fixed places) tree = .ok text ∧
        Branches.read? language text = some lines ∧
        execute row tree.classCount lines = some counts ∧
        (∀ fuel, tree.size ≤ fuel →
          (tree.asRead (Double.atPlaces places)).lookup row fuel 0 = some found) ∧
        found ≠ counts := by
  have finite : ∀ threshold ∈ besideStump.thresholds, threshold.isFinite = true := by decide +kernel
  have numbers : ∀ value ∈ [Double.zero], value.isNaN = false := by decide +kernel
  have width : besideStump.featureCount = [Double.zero].length := by decide +kernel
  have limit : places ≤ Converter.placesLimit := by
    rw [Converter.placesLimit]
    omega
  obtain ⟨text, lines, result, written, read, executed, walked, found⟩ := lookup_and_branches limit
    (validate_eq_ok_iff_wellFormed.mp besideStump_valid) finite numbers
    (besideStump_counts.hasFeatures (validate_eq_ok_iff_wellFormed.mp besideStump_valid)
      (Nat.le_refl 1)) language
  refine ⟨besideStump, besideStump_valid, finite, [Double.zero], text, lines, _, _, numbers,
    width, written, read, executed, found, ?_⟩
  have marked : besideStump.firstMarked? (Double.atPlaces places) [Double.zero] 3 0 = some 0 := by
    simp [firstMarked?, besideStump_root, atPlaces_besideMark few, isLeafMark_iff.mpr rfl]
  have above : Double.zero.le leafMark = false := by decide +kernel
  have fell : besideStump.walkFrom (Double.atPlaces places) [Double.zero] 3 0 = .ok (some 2) := by
    simp [walkFrom, besideStump_root, besideStump_leaf, atPlaces_besideMark few, above]
  cases fell.symm.trans walked
  rw [show besideStump.size = 3 from rfl, marked]
  decide

end Tree

end Modelsmith
