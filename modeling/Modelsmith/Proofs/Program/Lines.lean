import Modelsmith.Proofs.Program.Lookup
import Modelsmith.Proofs.Tree.Traversal

/-! The lines of branch code, told by the nodes that they belong to.

The text has one line for each entry of the traversal, in its order and in every language, behind
the indentation for the depth of the node; the first line stands without. Thresholds may be any
doubles, and a converter is refused only when there is a split.
-/

set_option autoImplicit false

namespace Modelsmith

open Literal
open Modelsmith.Tree (Line Entry)

/-! ## Converters of every double -/

inductive Converter.Standard : Converter → Prop where
  | shortest : Standard .shortest
  | fixed (places : Nat) : Standard (.fixed places)

theorem Converter.Standard.writes {converter : Converter} (standard : converter.Standard) :
    (∀ value, converter value = .ok (String.ofList (converter.spell value)) ∧
      IsPlain (converter.spell value)) ∨
    (∃ places, converter = .fixed places ∧ placesLimit < places) ∧
      ∀ value, converter value = .error .tooManyPlaces := by
  cases standard with
  | shortest =>
    refine .inl fun value => ⟨?_, Source.shortestText_plain value⟩
    exact congrArg Except.ok String.ofList_toList.symm
  | fixed places =>
    by_cases few : places ≤ placesLimit
    · refine .inl fun value => ?_
      have plain := fixedText_plain places value
      rw [spell, fixed_eq few]
      exact ⟨by rw [String.ofList_toList], plain⟩
    · refine .inr ⟨⟨places, rfl, Nat.lt_of_not_le few⟩, fun value => ?_⟩
      exact if_neg few

namespace Branches

/-! ## Entries and lines -/

theorem length_written (language : Language) (spell : Double → List Char)
    (lines : List (Nat × Line)) : (written language spell lines).length = lines.length := by
  cases lines <;> simp [written]

/-- What comes of a tree with these entries: a text with a line for each of them, or a refusal of
the places. Every split that is reached has its threshold converted, and the first is the root. -/
inductive Outcome (language : Language) (converter : Converter) (tree : Tree)
    (entries : List Entry) : Except RenderFault String → Prop where
  | listed {text : String} :
      (∀ entry ∈ entries, ∀ feature relation threshold,
        entry.line = .test feature relation threshold →
          converter threshold = .ok (String.ofList (converter.spell threshold))) →
      (∀ entry ∈ entries, ∃ c rest,
        (wording language).line converter.spell entry.line = c :: rest ∧
          Text.isBlank c = false) →
      splitLines text.toList = written language converter.spell
        (entries.map fun entry => (entry.depth, entry.line)) →
      (splitLines text.toList).length = entries.length →
      Outcome language converter tree entries (.ok text)
  | refused {places : Nat} : converter = .fixed places → Converter.placesLimit < places →
      tree.IsSplit 0 → Outcome language converter tree entries (.error .tooManyPlaces)

theorem outcome_of_branchLines (language : Language) {converter : Converter}
    (standard : converter.Standard) {tree : Tree} (wellFormed : tree.WellFormed)
    {entries : List Entry}
    (lines : tree.branchLines = entries.map fun entry => (entry.depth, entry.line)) :
    Outcome language converter tree entries (Branches.text language.dialect converter tree) := by
  -- Where no split is reached there is nothing to convert, whatever the converter does.
  have succeeds : (∀ threshold ∈ tree.thresholdsFrom tree.size 0,
        converter threshold = .ok (String.ofList (converter.spell threshold))) →
      (∀ depth feature relation threshold,
        (depth, .test feature relation threshold) ∈ tree.branchLines →
          converter threshold = .ok (String.ofList (converter.spell threshold)) ∧
            IsPlain (converter.spell threshold)) →
      Outcome language converter tree entries (Branches.text language.dialect converter tree) := by
    intro converts each
    rw [lines] at each
    have split := @splitLines_layout language converter.spell _
      fun depth feature relation threshold member newline =>
        absurd ((each depth feature relation threshold member).2.2 '\n' newline).2 (by decide)
    rw [text_eq_layout fun threshold member => ⟨_, converts threshold member⟩, lines,
      layout_eq language converter converter.spell fun depth feature relation threshold member =>
        (each depth feature relation threshold member).1]
    refine .listed (fun entry member feature relation threshold is => ?_)
      (fun entry _ => line_starts (wording_lawful language) _ _) ?_ ?_
    · exact (each entry.depth feature relation threshold
        (List.mem_map.mpr ⟨entry, member, by rw [is]⟩)).1
    · rw [String.toList_ofList, split]
    · rw [String.toList_ofList, split, length_written, List.length_map]
  rcases standard.writes with each | ⟨⟨places, same, many⟩, refuses⟩
  · exact succeeds (fun threshold _ => (each threshold).1) fun _ _ _ threshold _ => each threshold
  · obtain ⟨fuel, size⟩ := Nat.exists_eq_add_one.mpr wellFormed.sameLengths.positive
    obtain leaf | ⟨feature, threshold, left, right, split⟩ := wellFormed.node_cases (.here 0)
    · refine succeeds ?_ ?_
      · simp [size, Tree.thresholdsFrom, leaf.atNode]
      · intro depth feature relation threshold member
        rw [Tree.branchLines, size, Tree.linesFrom, leaf.atNode] at member
        obtain ⟨line, listed, same⟩ := List.mem_map.mp member
        obtain ⟨class_, count, rfl⟩ := Tree.mem_assignments listed
        cases same
    · have refused : Branches.text language.dialect converter tree = .error .tooManyPlaces := by
        simp only [Branches.text, size, Tree.thresholdsFrom, split.atNode, List.mapM_cons, refuses]
        rfl
      rw [refused]
      exact .refused same many ⟨threshold, split.atThreshold, split.isSplit⟩

/-- Branch code lists the traversal of the tree: every reached node with its own lines at its own
depth, no other node, and as many lines in one language as in another. -/
theorem text_lists_traversal {tree : Tree} (valid : tree.validate = .ok ())
    {converter : Converter} (standard : converter.Standard) :
    ∃ entries, tree.Traversal 0 0 entries ∧
      (∀ others, tree.Traversal 0 0 others → others = entries) ∧
      (∀ path node, tree.Leads path node → ∃ found, tree.node? node = some found ∧
        entries.filter (fun entry => entry.node = node) =
          found.ownLines.map (Entry.mk node path.length)) ∧
      (∀ entry ∈ entries, ∃ path, tree.Leads path entry.node) ∧
      ∀ language, Outcome language converter tree entries
          (Branches.text language.dialect converter tree) ∧
        ∃ unit, language.dialect.text "indent" = .ok unit ∧ ∀ depth, indent language depth =
          if language = .c ∨ language = .go then []
          else (List.replicate (2 + depth) unit.toList).flatten := by
  have wellFormed := Tree.validate_eq_ok_iff_wellFormed.mp valid
  obtain ⟨entries, traversal, lines⟩ := wellFormed.branchLines_eq
  refine ⟨entries, traversal, fun others => traversal.unique, ?_, ?_, ?_⟩
  · intro path node leads
    obtain leaf | ⟨_, _, _, _, split⟩ := wellFormed.node_cases leads
    · exact ⟨_, leaf.atNode, by
        simpa using traversal.filter_eq wellFormed (.here 0) leads leaf.atNode⟩
    · exact ⟨_, split.atNode, by
        simpa using traversal.filter_eq wellFormed (.here 0) leads split.atNode⟩
  · intro entry member
    exact traversal.leads wellFormed (.here 0) entry member
  · intro language
    refine ⟨outcome_of_branchLines language standard wellFormed lines, ?_⟩
    cases language with
    | go => exact ⟨"\t", rfl, fun _ => rfl⟩
    | c | java | javaScript | php | ruby => exact ⟨"    ", rfl, fun _ => rfl⟩

/-- With one place for every number there are six lines in every language. -/
theorem text_lists_traversal_oneSided :
    oneSided.validate = .ok () ∧ (Converter.fixed 1).Standard ∧
      ∀ language : Language, ∃ text, Branches.text language.dialect (.fixed 1) oneSided = .ok text ∧
        (splitLines text.toList).length = 6 := by
  have valid : oneSided.validate = .ok () := eq_ok_of_toOption (by decide +kernel)
  refine ⟨valid, .fixed 1, fun language => ?_⟩
  obtain ⟨entries, -, only, -, -, each⟩ := text_lists_traversal valid (.fixed 1)
  obtain ⟨others, traversal, lines⟩ := (Tree.validate_eq_ok_iff_wellFormed.mp valid).branchLines_eq
  obtain rfl := only others traversal
  have counted : oneSided.branchLines.length = 6 := by decide +kernel
  have six : others.length = 6 := by rw [← counted, lines, List.length_map]
  have outcome := (each language).1
  generalize Branches.text language.dialect (.fixed 1) oneSided = result at outcome ⊢
  cases outcome with
  | listed _ _ _ count => exact ⟨_, rfl, count.trans six⟩
  | refused same many =>
    have written := congrFun same Double.zero
    rw [Converter.fixed, Converter.fixed, if_pos (by decide), if_neg (Nat.not_le.mpr many)] at written
    cases written

end Branches

end Modelsmith
