import Modelsmith.Proofs.Program.Branches
import Modelsmith.Proofs.Program.Declarations

/-! The arrays of a model in the source of its program.

A program that carries its data has one declaration for each array of the model, put into the
skeleton of the program as it is. Each declares the array it is named for.
-/

set_option autoImplicit false

namespace Modelsmith.Source

open Literal

/-! ## The arrays of a model -/

structure NamedArray where
  name : String
  scalar : Scalar
  value : Nested

def treeNames : List String := ["lefts", "rights", "thresholds", "indices", "classes"]

def networkNames : List String := ["layers", "weights", "bias"]

section
variable (write : Double → String)

def word (value : Double) : Nested := .word (write value).toList

def treeArrays (tree : Tree) : List NamedArray := [
  ⟨"lefts", .int, .list (tree.lefts.map .ofInt)⟩,
  ⟨"rights", .int, .list (tree.rights.map .ofInt)⟩,
  ⟨"thresholds", .double, .list (tree.thresholds.map (word write))⟩,
  ⟨"indices", .int, .list (tree.indices.map .ofInt)⟩,
  ⟨"classes", .int, .list (tree.classes.map fun counts =>
    .list (counts.map fun count => .ofInt (Int.ofNat count)))⟩]

def networkArrays (network : Network) : List NamedArray := [
  ⟨"layers", .int, .list (network.layers.map fun layer => .ofInt (Int.ofNat layer))⟩,
  ⟨"weights", .double, .list (network.weights.map fun rows =>
    .list (rows.map fun row => .list (row.map (word write))))⟩,
  ⟨"bias", .double, .list (network.biases.map fun row => .list (row.map (word write)))⟩]

def arrays : Model → List NamedArray
  | .ofTree tree => treeArrays write tree
  | .ofNetwork network => networkArrays write network

end

/-! ## Declarations -/

theorem nats_reads (language : Language) (values : List Nat) :
    ∃ text, nats language.dialect values = .ok text ∧
      ReadsList (brackets language) text.toList
        (.list (values.map fun value => .ofInt (Int.ofNat value))) := by
  obtain ⟨text, written, reads⟩ := ints_reads language (values.map Int.ofNat)
  rw [List.map_map] at reads
  exact ⟨text, by rw [nats_eq_ints, written], reads⟩

theorem rows_reads (language : Language) (rows : List (List Nat)) :
    ∃ text, nested language.dialect (nats language.dialect) rows = .ok text ∧
      ReadsList (brackets language) text.toList (.list (rows.map fun counts =>
        .list (counts.map fun count => .ofInt (Int.ofNat count)))) :=
  nested_lists language fun row _ => nats_reads language row

theorem opening_not_mem (language : Language) {name : String}
    (plain : '{' ∉ name.toList ∧ '[' ∉ name.toList) :
    (brackets language).opening ∉ name.toList := by
  cases language with
  | c | go | java => exact plain.1
  | javaScript | php | ruby => exact plain.2

theorem declares_vector {language : Language} {scalar : Scalar} {name text declaration : String}
    (plain : '{' ∉ name.toList ∧ '[' ∉ name.toList) {α : Type} {word : α → List Char}
    {values : List α} {size : Nat} (length : values.length = size)
    (written : declare language.dialect scalar name text (.vector size) = .ok declaration)
    (reads : ReadsList (brackets language) text.toList
      (.list (values.map fun value => .word (word value)))) :
    Declares language scalar name (.list (values.map fun value => .word (word value)))
      declaration := by
  refine declares_of_declare (opening_not_mem language plain) written reads ?_ fun _ => ?_
  · simp [Shape.sizes, Nested.HasRank]
  · simp [Shape.sizes, Nested.HasSizes, length]

section
variable {converter : Converter} {write : Double → String}
  (total : ∀ value, converter value = .ok (write value))
  (plain : ∀ value, IsPlain (write value).toList)
include total plain

theorem doubles_reads (language : Language) (values : List Double) :
    ∃ text, doubles language.dialect converter values = .ok text ∧
      ReadsList (brackets language) text.toList (.list (values.map (word write))) :=
  nested_reads language fun value _ => ⟨write value, total value, (plain value).reads language⟩

theorem matrix_reads (language : Language) (rows : List (List Double)) :
    ∃ text, nested language.dialect (doubles language.dialect converter) rows = .ok text ∧
      ReadsList (brackets language) text.toList
        (.list (rows.map fun row => .list (row.map (word write)))) :=
  nested_lists language fun row _ => doubles_reads total plain language row

theorem cube_reads (language : Language) (layers : List (List (List Double))) :
    ∃ text, nested language.dialect (nested language.dialect
        (doubles language.dialect converter)) layers = .ok text ∧
      ReadsList (brackets language) text.toList
        (.list (layers.map fun rows => .list (rows.map fun row => .list (row.map (word write))))) :=
  nested_lists language fun rows _ => matrix_reads total plain language rows

theorem treeDeclarations_declare (language : Language) {tree : Tree} (lengths : tree.SameLengths)
    (rows : ∀ row ∈ tree.classes, row.length = tree.classCount) :
    ∃ bindings, treeDeclarations language.dialect converter tree = .ok bindings ∧
      bindings.map Prod.fst = treeNames ∧
      ∀ array ∈ treeArrays write tree, ∃ declaration,
        bindings.lookup array.name = some declaration ∧
          Declares language array.scalar array.name array.value declaration := by
  obtain ⟨leftsText, leftsWritten, leftsRead⟩ := ints_reads language tree.lefts
  obtain ⟨rightsText, rightsWritten, rightsRead⟩ := ints_reads language tree.rights
  obtain ⟨thresholdsText, thresholdsWritten, thresholdsRead⟩ :=
    doubles_reads total plain language tree.thresholds
  obtain ⟨indicesText, indicesWritten, indicesRead⟩ := ints_reads language tree.indices
  obtain ⟨classesText, classesWritten, classesRead⟩ := rows_reads language tree.classes
  obtain ⟨lefts, hlefts⟩ := declare_vector language .int "lefts" leftsText tree.size
  obtain ⟨rights, hrights⟩ := declare_vector language .int "rights" rightsText tree.size
  obtain ⟨thresholds, hthresholds⟩ :=
    declare_vector language .double "thresholds" thresholdsText tree.size
  obtain ⟨indices, hindices⟩ := declare_vector language .int "indices" indicesText tree.size
  obtain ⟨classes, hclasses⟩ :=
    declare_matrix language .int "classes" classesText tree.size tree.classCount
  refine ⟨[("lefts", lefts), ("rights", rights), ("thresholds", thresholds), ("indices", indices),
    ("classes", classes)], ?_, rfl, ?_⟩
  · simp only [treeDeclarations, leftsWritten, rightsWritten, thresholdsWritten, indicesWritten,
      classesWritten, hlefts, hrights, hthresholds, hindices, hclasses, ok_bind, pure, Except.pure]
  simp only [treeArrays, List.forall_mem_cons, List.not_mem_nil, false_imp_iff, implies_true,
    and_true]
  refine ⟨⟨lefts, rfl, declares_vector (by decide) rfl hlefts leftsRead⟩,
    ⟨rights, rfl, declares_vector (by decide) lengths.rights hrights rightsRead⟩,
    ⟨thresholds, rfl, declares_vector (by decide) lengths.thresholds hthresholds thresholdsRead⟩,
    ⟨indices, rfl, declares_vector (by decide) lengths.indices hindices indicesRead⟩,
    ⟨classes, rfl, declares_of_declare (opening_not_mem language (by decide)) hclasses classesRead
      ?_ fun _ => ?_⟩⟩
  · simp [Shape.sizes, Nested.HasRank, Nested.ofInt]
  · simpa [Shape.sizes, Nested.HasSizes, Nested.ofInt, lengths.classes] using rows

omit total plain in
theorem declare_cube_c {scalar : Scalar} {name values declaration : String} :
    declare Dialect.c scalar name values .cube ≠ .ok declaration := by
  cases scalar <;> rintro ⟨⟩

theorem networkDeclarations_declare {language : Language} {network : Network}
    {bindings : Template.Bindings}
    (written : networkDeclarations language.dialect converter network = .ok bindings) :
    ∀ array ∈ networkArrays write network, ∃ declaration,
      bindings.lookup array.name = some declaration ∧
        Declares language array.scalar array.name array.value declaration := by
  obtain ⟨layersText, layersWritten, layersRead⟩ := nats_reads language network.layers
  obtain ⟨weightsText, weightsWritten, weightsRead⟩ :=
    cube_reads total plain language network.weights
  obtain ⟨biasText, biasWritten, biasRead⟩ := matrix_reads total plain language network.biases
  simp only [networkDeclarations, bind_eq_ok, layersWritten, weightsWritten, biasWritten,
    Except.ok.injEq, exists_eq_left', pure, Except.pure] at written
  obtain ⟨layers, hlayers, weights, hweights, bias, hbias, rfl⟩ := written
  -- Ragged arrays have no sizes to declare, and C has no declaration without them.
  have notC : language ≠ .c := by
    rintro rfl
    exact declare_cube_c hweights
  simp only [networkArrays, List.forall_mem_cons, List.not_mem_nil, false_imp_iff, implies_true,
    and_true]
  refine ⟨⟨layers, rfl, declares_vector (by decide) rfl hlayers layersRead⟩,
    ⟨weights, rfl, declares_of_declare (opening_not_mem language (by decide)) hweights weightsRead
      ?_ fun isC => absurd isC notC⟩,
    ⟨bias, rfl, declares_of_declare (opening_not_mem language (by decide)) hbias biasRead
      ?_ fun isC => absurd isC notC⟩⟩
  · simp [Shape.sizes, Nested.HasRank, word]
  · simp [Shape.sizes, Nested.HasRank, word]

end

/-! ## Skeletons -/

theorem infix_lines {texts : List String} {line : String} (member : line ∈ texts) :
    line.toList <:+: (lines texts).toList := by
  fun_induction lines texts with
  | case1 => cases member
  | case2 last =>
    obtain rfl := List.mem_singleton.mp member
    exact List.infix_rfl
  | case3 first rest more ih =>
    rw [String.toList_append, String.toList_append]
    rcases List.mem_cons.mp member with rfl | inside
    · exact ⟨[], "\n".toList ++ (lines rest).toList, by simp⟩
    · exact (ih inside).trans (List.suffix_append _ _).isInfix

theorem toList_lines (texts : List String) :
    (lines texts).toList = Text.joinWith "\n".toList (texts.map String.toList) := by
  fun_induction lines texts with
  | case1 => rfl
  | case2 last => rfl
  | case3 first rest more ih =>
    cases rest with
    | nil => exact absurd rfl more
    | cons second rest =>
      rw [String.toList_append, String.toList_append, ih]
      rfl

def slotLine (indent name : String) : String := indent ++ "\x7b\x7b" ++ name ++ "\x7d\x7d"

def slotIndent : Language → String
  | .c | .go | .php => ""
  | .java => "        "
  | .javaScript | .ruby => "    "

theorem slot_mem_lines {texts : List String} {indent name : String}
    (member : slotLine indent name ∈ texts) (named : Template.isName name.toList = true)
    (trimmed : Text.trim name.toList = name.toList) (free : '}' ∉ name.toList) :
    .slot name ∈ Template.pieces (lines texts).toList := by
  obtain ⟨before, after, same⟩ := infix_lines member
  have slot := Template.slot_mem_pieces named trimmed free (before ++ indent.toList) after
  rw [String.ofList_toList] at slot
  rw [← same, slotLine]
  simpa using slot

theorem tree_skeleton (language : Language) {packaging : Packaging}
    (inlined : packaging ≠ .exported) :
    ∃ texts, language.dialect.text (treeSkeleton packaging) = .ok (lines texts) ∧
      ∀ name ∈ treeNames, slotLine (slotIndent language) name ∈ texts := by
  cases packaging with
  | attached => cases language <;> exact ⟨_, rfl, by decide +kernel⟩
  | combined => cases language <;> exact ⟨_, rfl, by decide +kernel⟩
  | exported => exact absurd rfl inlined

theorem network_skeleton {language : Language} {text : String}
    (found : language.dialect.text (networkSkeleton .attached) = .ok text) :
    ∃ texts, text = lines texts ∧
      ∀ name ∈ networkNames, slotLine (slotIndent language) name ∈ texts := by
  cases language with
  | java | javaScript =>
    cases found
    exact ⟨_, rfl, by decide +kernel⟩
  | c | go | php | ruby => cases found

theorem names_are_slots : ∀ name ∈ treeNames ++ networkNames,
    Template.isName name.toList = true ∧ Text.trim name.toList = name.toList ∧
      '}' ∉ name.toList := by
  decide

theorem render_eq_ok {dialect : Dialect} {template : String} {bindings : Template.Bindings}
    {filled : String} (rendered : dialect.render template bindings = .ok filled) :
    ∃ text, dialect.text template = .ok text ∧ Template.fill text bindings = .ok filled := by
  obtain ⟨text, found, filling⟩ := bind_eq_ok.mp rendered
  refine ⟨text, found, ?_⟩
  cases result : Template.fill text bindings with
  | error missing => simp [result, throw, throwThe, MonadExceptOf.throw] at filling
  | ok other => simpa [result, pure, Except.pure] using filling

theorem infix_of_render {dialect : Dialect} {template : String} {bindings : Template.Bindings}
    {filled : String} (rendered : dialect.render template bindings = .ok filled)
    {texts : List String} (found : dialect.text template = .ok (lines texts))
    {indent name value : String} (listed : slotLine indent name ∈ texts)
    (known : name ∈ treeNames ++ networkNames) (bound : bindings.lookup name = some value) :
    value.toList <:+: filled.toList := by
  obtain ⟨named, trimmed, free⟩ := names_are_slots name known
  have slot := slot_mem_lines listed named trimmed free
  obtain ⟨text, again, filling⟩ := render_eq_ok rendered
  cases found.symm.trans again
  obtain ⟨chars, expanded, rfl⟩ := map_eq_ok.mp filling
  rw [String.toList_ofList]
  exact Template.infix_of_expand slot bound expanded

theorem render_succeeds {dialect : Dialect} {template : String} (bindings : Template.Bindings)
    {texts : List String} (found : dialect.text template = .ok (lines texts)) {names : List String}
    (slots : Template.slots (Template.pieces
      (Text.joinWith "\n".toList (texts.map String.toList))) = names)
    (bound : ∀ name ∈ names, (bindings.lookup name).isSome) :
    ∃ filled, dialect.render template bindings = .ok filled := by
  rw [← slots, ← toList_lines] at bound
  obtain ⟨filled, expanded⟩ := Template.expand_succeeds bound
  exact ⟨String.ofList filled, by rw [Dialect.render, found, ok_bind, Template.fill, expanded]; rfl⟩

theorem ofTree_eq_ok {dialect : Dialect} {target : Target} {tree : Tree} {source : String}
    (inlined : target.packaging ≠ .exported) (written : ofTree dialect target tree = .ok source) :
    ∃ others declarations, treeDeclarations dialect target.converter tree = .ok declarations ∧
      dialect.render (treeSkeleton target.packaging) (others ++ declarations) = .ok source ∧
      ∀ name ∈ treeNames, others.lookup name = none := by
  simp only [ofTree, bind_eq_ok, if_neg inlined] at written
  obtain ⟨methods, -, output, -, declarations, declared, written⟩ := written
  have others : ∀ branches, ∀ name ∈ treeNames,
      [("class_name", target.className), ("n_features", intText tree.featureCount),
        ("n_classes", intText tree.classCount), ("methods", methods), ("output", output),
        ("tree", branches)].lookup name = none := by
    simp [treeNames, List.lookup_eq_none_iff]
  split at written
  · obtain ⟨branches, -, rendered⟩ := bind_eq_ok.mp written
    exact ⟨_, declarations, declared, rendered, others branches⟩
  · exact ⟨_, declarations, declared, written, others ""⟩

theorem ofNetwork_eq_ok {dialect : Dialect} {target : Target} {network : Network} {source : String}
    (attached : target.packaging = .attached)
    (written : ofNetwork dialect target network = .ok source) :
    ∃ others declarations, networkDeclarations dialect target.converter network = .ok declarations ∧
      dialect.render (networkSkeleton .attached) (others ++ declarations) = .ok source ∧
      ∀ name ∈ networkNames, others.lookup name = none := by
  simp only [ofNetwork, bind_eq_ok, attached, if_true] at written
  obtain ⟨hidden, -, output, -, methods, -, body, -, printed, -, declarations, declared,
    rendered⟩ := written
  exact ⟨_, declarations, declared, rendered, by simp [networkNames, List.lookup_eq_none_iff]⟩

theorem ofNetwork_combined {target : Target} {network : Network} {source : String}
    (combined : target.packaging = .combined) :
    ofNetwork target.language.dialect target network ≠ .ok source := by
  intro written
  have absent : ∀ (language : Language) text,
      language.dialect.text (networkSkeleton .combined) ≠ .ok text := by
    intro language text
    cases language <;> rintro ⟨⟩
  simp only [ofNetwork, bind_eq_ok, combined, reduceCtorEq, if_false] at written
  obtain ⟨_, -, _, -, _, -, _, -, _, -, _, -, rendered⟩ := written
  obtain ⟨text, found, -⟩ := bind_eq_ok.mp rendered
  exact absent _ _ found

section
variable {converter : Converter} {write : Double → String}
  (total : ∀ value, converter value = .ok (write value))
  (plain : ∀ value, IsPlain (write value).toList)
include total plain

theorem ofTree_declares {target : Target} (converts : target.converter = converter) {tree : Tree}
    {source : String} (valid : tree.validate = .ok ()) (inlined : target.packaging ≠ .exported)
    (written : ofTree target.language.dialect target tree = .ok source) :
    ∀ array ∈ treeArrays write tree, ∃ declaration : String,
      declaration.toList <:+: source.toList ∧
        Declares target.language array.scalar array.name array.value declaration := by
  subst converts
  intro array member
  obtain ⟨lengths, ⟨-, rows⟩, -⟩ := Tree.validate_eq_ok.mp valid
  obtain ⟨others, declarations, declared, rendered, absent⟩ := ofTree_eq_ok inlined written
  obtain ⟨bindings, same, -, each⟩ :=
    treeDeclarations_declare total plain target.language lengths rows
  cases declared.symm.trans same
  obtain ⟨declaration, bound, declares⟩ := each array member
  obtain ⟨texts, found, listed⟩ := tree_skeleton target.language inlined
  have known : array.name ∈ treeNames := List.mem_map_of_mem (f := NamedArray.name) member
  refine ⟨declaration, infix_of_render rendered found (listed _ known) (by simp [known]) ?_, declares⟩
  rw [List.lookup_append, absent _ known, bound]
  rfl

theorem ofNetwork_declares {target : Target} (converts : target.converter = converter)
    {network : Network} {source : String} (attached : target.packaging = .attached)
    (written : ofNetwork target.language.dialect target network = .ok source) :
    ∀ array ∈ networkArrays write network, ∃ declaration : String,
      declaration.toList <:+: source.toList ∧
        Declares target.language array.scalar array.name array.value declaration := by
  subst converts
  intro array member
  obtain ⟨others, declarations, declared, rendered, absent⟩ := ofNetwork_eq_ok attached written
  obtain ⟨declaration, bound, declares⟩ :=
    networkDeclarations_declare total plain declared array member
  obtain ⟨text, found, -⟩ := bind_eq_ok.mp rendered
  obtain ⟨texts, rfl, listed⟩ := network_skeleton found
  have known : array.name ∈ networkNames := List.mem_map_of_mem (f := NamedArray.name) member
  refine ⟨declaration, infix_of_render rendered found (listed _ known) (by simp [known]) ?_, declares⟩
  rw [List.lookup_append, absent _ known, bound]
  rfl

end

theorem generate_parts {model : Model} {target : Target} {program : Program}
    (generated : generate model target = .ok program) :
    model.validate = .ok () ∧ target.check model.kind = .ok () ∧ ∃ source data,
      ofModel target model = .ok source ∧ (data.isSome ↔ target.packaging = .exported) ∧
      program = ⟨target.className, target.language, target.packaging, target.method,
        target.extension, source, data⟩ := by
  simp only [generate, bind_eq_ok] at generated
  obtain ⟨_, checked, _, allowed, rest⟩ := generated
  refine ⟨?_, allowed, ?_⟩
  · unfold Model.check at checked
    split at checked
    · assumption
    · cases checked
  · cases written : ofModel target model with
    | error fault => simp [written, bind_eq_ok, throw, throwThe, MonadExceptOf.throw] at rest
    | ok source =>
      simp only [written, bind_eq_ok, pure, Except.pure, Except.ok.injEq, exists_eq_left'] at rest
      split at rest
      next exported =>
        obtain ⟨data, document, made⟩ := bind_eq_ok.mp rest
        obtain ⟨_, -, rfl⟩ := map_eq_ok.mp document
        cases made
        exact ⟨source, _, rfl, by simp [exported], rfl⟩
      next inlined =>
        cases rest
        exact ⟨source, none, rfl, by simp [inlined], rfl⟩

theorem generate_eq_ok {model : Model} {target : Target} {program : Program}
    (generated : generate model target = .ok program) :
    model.validate = .ok () ∧ target.check model.kind = .ok () ∧
      ofModel target model = .ok program.source := by
  obtain ⟨valid, checked, _, _, written, -, rfl⟩ := generate_parts generated
  exact ⟨valid, checked, written⟩

theorem generate_of_parts {model : Model} {target : Target} {source : String}
    (valid : model.validate = .ok ()) (checked : target.check model.kind = .ok ())
    (written : ofModel target model = .ok source) (inlined : target.packaging ≠ .exported) :
    generate model target = .ok ⟨target.className, target.language, target.packaging, target.method,
      target.extension, source, none⟩ := by
  simp only [generate, Model.check, valid, checked, written, if_neg inlined, ok_bind]
  rfl

/-- Every array of a model stands in the source of its program, in a declaration whose literal reads
as the array. -/
theorem source_declares_arrays {model : Model} {target : Target} {program : Program}
    (generated : generate model target = .ok program) (inlined : target.packaging ≠ .exported)
    {write : Double → String} (total : ∀ value, target.converter value = .ok (write value))
    (plain : ∀ value, IsPlain (write value).toList) :
    ∀ array ∈ arrays write model, ∃ declaration : String,
      declaration.toList <:+: program.source.toList ∧
        Declares target.language array.scalar array.name array.value declaration := by
  obtain ⟨valid, -, written⟩ := generate_eq_ok generated
  cases model with
  | ofTree tree => exact ofTree_declares total plain rfl valid inlined written
  | ofNetwork network =>
    cases packaging : target.packaging with
    | attached => exact ofNetwork_declares total plain rfl packaging written
    | combined => exact absurd written (ofNetwork_combined packaging)
    | exported => exact absurd packaging inlined

def shortestText (value : Double) : String := String.ofList (Double.Layout.exact.render value)

theorem shortestText_plain (value : Double) : IsPlain (shortestText value).toList := by
  rw [shortestText, String.toList_ofList, Double.Layout.render]
  split
  · decide
  · split
    · cases value.negative <;> decide
    · rename_i finite
      exact isPlain_text (Double.Layout.numeral_wellFormed _ (by simpa using finite))

/-- A root with two leaves. -/
def stump : Tree where
  lefts := [1, -1, -1]
  rights := [2, -1, -1]
  thresholds := [Double.ofDecimal false 5 (-1), Tree.leafMark, Tree.leafMark]
  indices := [0, 0, 0]
  classes := [[1, 1], [1, 0], [0, 1]]
  width := none

def stumpTarget : Target := ⟨.c, .combined, .predict, "Stump", "c", .shortest⟩

theorem methods_slots : ∃ texts, Dialect.c.text "tree.methods" = .ok (lines texts) ∧
    Template.slots (Template.pieces (Text.joinWith "\n".toList (texts.map String.toList))) = [] :=
  ⟨_, rfl, by decide +kernel⟩

theorem combined_slots : ∃ texts, Dialect.c.text "tree.combined" = .ok (lines texts) ∧
    Template.slots (Template.pieces (Text.joinWith "\n".toList (texts.map String.toList))) =
      ["n_features", "n_classes"] ++ treeNames ++ ["tree", "methods", "output"] :=
  ⟨_, rfl, by decide +kernel⟩

theorem lookup_isSome {bindings : Template.Bindings} {name : String}
    (member : name ∈ bindings.map Prod.fst) : (bindings.lookup name).isSome := by
  obtain ⟨⟨_, value⟩, listed, rfl⟩ := List.mem_map.mp member
  rw [Option.isSome_iff_ne_none, ne_eq, List.lookup_eq_none_iff]
  intro absent
  simpa using absent _ listed

theorem ofTree_of_parts {dialect : Dialect} {target : Target} {tree : Tree}
    {methods output branches source : String} {declarations : Template.Bindings}
    (combined : target.packaging = .combined)
    (rendered : dialect.render "tree.methods" [("class_name", target.className)] = .ok methods)
    (printed : dialect.text target.method.outputTemplate = .ok output)
    (declared : treeDeclarations dialect target.converter tree = .ok declarations)
    (branched : Branches.text dialect target.converter tree = .ok branches)
    (filled : dialect.render "tree.combined" ([("class_name", target.className),
      ("n_features", intText tree.featureCount), ("n_classes", intText tree.classCount),
      ("methods", methods), ("output", output), ("tree", branches)] ++ declarations) = .ok source) :
    ofTree dialect target tree = .ok source := by
  simp only [ofTree, rendered, printed, combined, reduceCtorEq, if_false, if_true, declared,
    branched, ok_bind]
  exact filled

theorem stump_valid : stump.validate = .ok () := eq_ok_of_toOption (by decide +kernel)

theorem stump_source : ∃ source, ofTree Dialect.c stumpTarget stump = .ok source := by
  obtain ⟨lengths, ⟨-, rows⟩, -⟩ := Tree.validate_eq_ok.mp stump_valid
  obtain ⟨declarations, declared, names, -⟩ :=
    treeDeclarations_declare (fun _ => rfl) shortestText_plain .c lengths rows
  obtain ⟨branches, branched, -⟩ := Branches.text_reads Converter.shortest_reads .c
    (show ∀ threshold ∈ stump.thresholds, threshold.isFinite = true by decide +kernel)
  obtain ⟨texts, found, slots⟩ := methods_slots
  obtain ⟨methods, rendered⟩ := render_succeeds [("class_name", "Stump")] found slots (by simp)
  obtain ⟨output, printed⟩ : ∃ output, Dialect.c.text "output.predict" = .ok output := ⟨_, rfl⟩
  obtain ⟨texts, found, slots⟩ := combined_slots
  have bound : ∀ name ∈ ["n_features", "n_classes"] ++ treeNames ++ ["tree", "methods", "output"],
      (([("class_name", "Stump"), ("n_features", intText stump.featureCount),
        ("n_classes", intText stump.classCount), ("methods", methods), ("output", output),
        ("tree", branches)] ++ declarations).lookup name).isSome := by
    have listed : ∀ name ∈ ["n_features", "n_classes"] ++ treeNames ++ ["tree", "methods", "output"],
        name ∈ ["class_name", "n_features", "n_classes", "methods", "output", "tree"] ++ treeNames := by
      decide +kernel
    intro name member
    apply lookup_isSome
    rw [List.map_append, names]
    exact listed name member
  obtain ⟨source, filled⟩ := render_succeeds _ found slots bound
  exact ⟨source, ofTree_of_parts rfl rendered printed declared branched filled⟩

theorem stump_generated : ∃ program, generate (.ofTree stump) stumpTarget = .ok program := by
  obtain ⟨source, written⟩ := stump_source
  exact ⟨_, generate_of_parts stump_valid rfl written (by decide)⟩

/-- In C the counts of three nodes with two classes are declared by these two numbers. -/
theorem source_declares_arrays_stump :
    ∃ program declaration, generate (.ofTree stump) stumpTarget = .ok program ∧
      declaration.toList <:+: program.source.toList ∧
      Declares .c .int "classes" (.list [.list [.word ['1'], .word ['1']],
        .list [.word ['1'], .word ['0']], .list [.word ['0'], .word ['1']]]) declaration := by
  obtain ⟨program, generated⟩ := stump_generated
  obtain ⟨declaration, inside, declares⟩ := source_declares_arrays generated (by decide)
    (fun _ => rfl) shortestText_plain
    ⟨"classes", .int, .list (stump.classes.map fun counts =>
      .list (counts.map fun count => .ofInt (Int.ofNat count)))⟩ (by simp [arrays, treeArrays])
  exact ⟨program, declaration, generated, inside, declares⟩

end Modelsmith.Source
