import Modelsmith.Proofs.Program.Exported
import Modelsmith.Proofs.Program.Generation
import Modelsmith.Proofs.Program.Lines
import Modelsmith.Proofs.Template.Openings

/-! No slot is left in a source.

Every text of every table is scanned once, with its slots. Besides braces that templates bring
along, literals bring their own, one inside the other; but a number, a bracket or a comma stands
behind them, and no name. What is rendered from the table can therefore be put into other templates.
-/

set_option autoImplicit false

namespace Modelsmith

open Literal
open Template (level levelOf level_zero level_mono)

/-! ## Tables -/

namespace Dialect

def fragments : List String := ["int", "double", "else", "endif", "join", "output.predict",
  "output.predict_proba", "mlp.classifier", "mlp.regressor",
  "activation.hidden.identity", "activation.hidden.logistic", "activation.hidden.tanh",
  "activation.hidden.relu", "activation.hidden.softmax",
  "activation.output.identity", "activation.output.logistic", "activation.output.tanh",
  "activation.output.relu", "activation.output.softmax"]

/-- The level that a text leaves, by the name of its template or of the slot it is put in. The tests
of branches end with an opening brace, and so could branches. -/
def leaves (name : String) : Nat := if name ∈ ["if", "else", "tree"] then 1 else 0

/-- A template that leaves what it may when its values do. -/
def isSealed (name : String) (text : List Char) : Bool :=
  name = "in_brackets" ||
    (levelOf leaves 0 (Template.pieces text) ≤ leaves name &&
      (!fragments.contains name || levelOf leaves 0 (text.map .char) ≤ leaves name))

inductive Written : List (String × String) → List (String × List Char) → Prop where
  | nil : Written [] []
  | line {name text : String} {chars : List Char} {entries : List (String × String)}
      {rest : List (String × List Char)} : text = String.ofList chars → Written entries rest →
      Written ((name, text) :: entries) ((name, chars) :: rest)
  | lines {name : String} {texts : List String} {chars : List (List Char)}
      {entries : List (String × String)} {rest : List (String × List Char)} :
      Spells texts chars → Written entries rest →
      Written ((name, lines texts) :: entries) ((name, Text.joinWith "\n".toList chars) :: rest)

theorem Written.toList {entries : List (String × String)} {spelled : List (String × List Char)}
    (written : Written entries spelled) :
    entries.map (fun entry => (entry.1, entry.2.toList)) = spelled := by
  induction written with
  | nil => rfl
  | line same _ ih => rw [List.map_cons, ih, same, String.toList_ofList]
  | lines spells _ ih => rw [List.map_cons, ih, Source.toList_lines, spells.map_toList]

inductive Sealed (dialect : Dialect) : Prop where
  | intro {spelled : List (String × List Char)} : Written dialect.entries spelled →
      spelled.all (fun entry => isSealed entry.1 entry.2) = true → Sealed dialect

theorem sealed (language : Language) : language.dialect.Sealed := by
  cases language
  all_goals
    apply Sealed.intro
    -- Unification reads off the characters, so that only they are scanned and no string is.
    · dsimp only [Language.dialect, c, go, java, javaScript, php, ruby]
      repeat
        first
        | apply Written.line rfl
        | apply Written.lines
          · repeat apply Spells.cons rfl
            exact .nil
      exact .nil
    · decide +kernel

/-- Values that can be put into the slots of their names. -/
def Fit (bindings : Template.Bindings) : Prop :=
  ∀ binding ∈ bindings, level 0 binding.2.toList ≤ leaves binding.1

theorem Fit.nil : Fit [] := fun _ member => absurd member List.not_mem_nil

theorem Fit.cons {name value : String} {bindings : Template.Bindings}
    (closed : level 0 value.toList = 0) (fit : Fit bindings) : Fit ((name, value) :: bindings) :=
  List.forall_mem_cons.mpr ⟨Nat.le_trans (Nat.le_of_eq closed) (Nat.zero_le _), fit⟩

section
variable {language : Language} {template text : String}

theorem isSealed_of_text (found : language.dialect.text template = .ok text) :
    isSealed template text.toList = true := by
  obtain ⟨written, all⟩ := sealed language
  unfold Dialect.text at found
  cases entry : language.dialect.entries.lookup template with
  | none => simp [entry] at found
  | some value =>
    obtain ⟨before, after, same, -⟩ := List.lookup_eq_some_iff.mp entry
    simp only [entry, Except.ok.injEq] at found
    rw [← written.toList, List.all_map, List.all_eq_true] at all
    exact found ▸ all (template, value) (by simp [same])

theorem level_text (fragment : fragments.contains template = true)
    (found : language.dialect.text template = .ok text) :
    level 0 text.toList ≤ leaves template := by
  have named : template ≠ "in_brackets" := by
    rintro rfl
    exact absurd fragment (by decide)
  have scanned := isSealed_of_text found
  simp only [isSealed, named, decide_false, Bool.false_or, fragment, Bool.not_true,
    Bool.and_eq_true, decide_eq_true_eq, Template.levelOf_chars] at scanned
  exact scanned.2

theorem level_render {bindings : Template.Bindings} (fit : Fit bindings)
    (named : template ≠ "in_brackets")
    (rendered : language.dialect.render template bindings = .ok text) :
    level 0 text.toList ≤ leaves template := by
  obtain ⟨raw, found, filling⟩ := Source.render_eq_ok rendered
  have scanned := isSealed_of_text found
  simp only [isSealed, named, decide_false, Bool.false_or, Bool.and_eq_true,
    decide_eq_true_eq] at scanned
  have low : leaves template ≤ 2 := by
    unfold leaves
    split <;> decide
  exact Nat.le_trans (Template.level_fill fit filling (Nat.le_trans scanned.1 low)) scanned.1

end

end Dialect

open Dialect (leaves Fit level_text level_render)

/-! ## Literals -/

namespace Literal

/-- A text in which no slot begins, wherever it stands. -/
def Closed (text : List Char) : Prop := level 2 text = 0

theorem Closed.level_eq {text : List Char} (closed : Closed text) {start : Nat} (low : start ≤ 2) :
    level start text = 0 :=
  Nat.le_zero.mp (closed ▸ level_mono low text)

theorem level_plain {text : List Char} (plain : IsPlain text) : level 0 text = 0 :=
  level_zero fun brace => absurd (plain.2 _ brace).1 (by decide)

theorem closed_numeral {numeral : Numeral} (wellFormed : numeral.WellFormed) :
    Closed numeral.text := by
  have free : '{' ∉ numeral.text := fun brace =>
    absurd (wellFormed.isPart_of_mem brace) (by decide)
  have solid := (isPlain_text wellFormed).2
  obtain ⟨c, rest, same, first⟩ : ∃ c rest, numeral.text = c :: rest ∧
      (c = '-' ∨ c.isDigit = true) := by
    rw [Numeral.text_eq]
    obtain ⟨⟨filled, digits⟩, -⟩ := wellFormed.whole
    obtain ⟨digit, more, same⟩ := List.exists_cons_of_ne_nil filled
    rw [same] at digits ⊢
    cases numeral.negative with
    | true => exact ⟨'-', _, rfl, .inl rfl⟩
    | false => exact ⟨digit, _, rfl, .inr (digits digit (by simp))⟩
  rw [same] at free solid ⊢
  refine Template.level_two free (solid c (by simp)).2 ?_
  rcases first with rfl | digit
  · rfl
  · exact Template.isNameStart_of_isDigit digit

theorem closed_intText (value : Int) : Closed (intText value).toList := by
  rw [intText, String.toList_ofList]
  exact closed_numeral (Numeral.ofInt_wellFormed value)

theorem level_intText (value : Int) : level 0 (intText value).toList = 0 :=
  (closed_intText value).level_eq (Nat.zero_le 2)

theorem level_commaSeparated {items : List String} (each : ∀ item ∈ items, Closed item.toList) :
    level 2 (commaSeparated items).toList ≤ 2 := by
  fun_induction commaSeparated items with
  | case1 => exact Nat.le_refl 2
  | case2 last => exact (each last (by simp)).symm ▸ Nat.zero_le 2
  | case3 first rest _ ih =>
    have comma : level 0 ", ".toList = 0 := by decide
    rw [String.toList_append, String.toList_append, Template.level_append, Template.level_append,
      each first (by simp), comma]
    exact Nat.le_trans (level_mono (Nat.zero_le 2) _)
      (ih fun item member => each item (by simp [member]))

theorem closed_list {language : Language} {items : List String} {text : String}
    (each : ∀ item ∈ items, Closed item.toList)
    (written : list language.dialect items = .ok text) : Closed text.toList := by
  have separated := level_commaSeparated each
  rw [list, render_brackets] at written
  cases written
  -- The opening bracket may be a brace behind others, but what comes next is no name.
  have opened : Template.advance 2 (brackets language).opening ≤ 2 := by
    cases language <;> decide
  have closed : ∀ start ≤ 2, Template.advance start (brackets language).closing = 0 := by
    cases language <;> decide
  rw [String.toList_ofList, Closed, Template.level_cons, Template.level_append]
  exact closed _ (Nat.le_trans (level_mono opened _) separated)

theorem closed_nested {language : Language} {α : Type} {item : α → Except RenderFault String}
    {values : List α} {text : String}
    (each : ∀ value ∈ values, ∀ text, item value = .ok text → Closed text.toList)
    (written : nested language.dialect item values = .ok text) : Closed text.toList := by
  obtain ⟨items, results, written⟩ := bind_eq_ok.mp written
  refine closed_list (fun result member => ?_) written
  obtain ⟨value, inside, same⟩ := exists_of_mem_mapM results result member
  exact each value inside result same

theorem closed_ints {language : Language} {values : List Int} {text : String}
    (written : ints language.dialect values = .ok text) : Closed text.toList := by
  refine closed_list (fun item member => ?_) written
  obtain ⟨value, -, rfl⟩ := List.mem_map.mp member
  exact closed_intText value

theorem closed_nats {language : Language} {values : List Nat} {text : String}
    (written : nats language.dialect values = .ok text) : Closed text.toList :=
  closed_ints (nats_eq_ints language.dialect values ▸ written)

theorem level_sigil (language : Language) (name : String) (free : '{' ∉ name.toList) :
    level 0 (language.dialect.sigil ++ name).toList = 0 := by
  have sigil : '{' ∉ language.dialect.sigil.toList := by cases language <;> decide
  refine level_zero ?_
  simp [sigil, free]

theorem level_declare {language : Language} {scalar : Scalar} {name values declaration : String}
    {shape : Shape} (free : '{' ∉ name.toList) (closed : Closed values.toList)
    (declared : declare language.dialect scalar name values shape = .ok declaration) :
    level 0 declaration.toList = 0 := by
  obtain ⟨type, typed, rendered⟩ := bind_eq_ok.mp declared
  have typeLevel : level 0 type.toList = 0 := Nat.le_zero.mp <| by
    cases scalar <;> exact level_text rfl typed
  have nameLevel := level_sigil language name free
  have sizes : Fit shape.bindings := by
    cases shape with
    | vector size => exact .cons (level_intText _) (.cons rfl .nil)
    | matrix rows columns => exact .cons (level_intText _) (.cons (level_intText _) .nil)
    | cube => exact .cons (by decide) (.cons (by decide) .nil)
  have fit : Fit ([("type", type), ("name", language.dialect.sigil ++ name), ("values", values)] ++
      shape.bindings) :=
    .cons typeLevel (.cons nameLevel (.cons (closed.level_eq (Nat.zero_le 2)) sizes))
  exact Nat.le_zero.mp <| by
    cases shape <;> exact level_render fit (by simp [Shape.template]) rendered

end Literal

/-! ## Converters -/

theorem Converter.Standard.level_eq {converter : Converter} (standard : converter.Standard)
    {value : Double} {text : String} (written : converter value = .ok text) :
    level 0 text.toList = 0 := by
  rcases standard.writes with each | ⟨-, refuses⟩
  · obtain ⟨spelled, plain⟩ := each value
    cases spelled.symm.trans written
    rw [String.toList_ofList]
    exact level_plain plain
  · cases (refuses value).symm.trans written

theorem Converter.Standard.closed {converter : Converter} (standard : converter.Standard)
    {value : Double} (finite : value.isFinite = true) {text : String}
    (written : converter value = .ok text) : Closed text.toList := by
  have numeral : ∀ {reading}, converter.Reads reading → Closed text.toList := by
    intro reading reads
    obtain ⟨numeral, wellFormed, -, spelled⟩ := reads value finite
    cases spelled.symm.trans written
    rw [String.toList_ofList]
    exact closed_numeral wellFormed
  cases standard with
  | shortest => exact numeral shortest_reads
  | fixed places =>
    by_cases few : places ≤ placesLimit
    · exact numeral (fixed_reads few)
    · cases (if_neg few).symm.trans written

theorem Literal.closed_doubles {language : Language} {converter : Converter}
    (standard : converter.Standard) {values : List Double}
    (finite : ∀ value ∈ values, value.isFinite = true) {text : String}
    (written : doubles language.dialect converter values = .ok text) : Closed text.toList :=
  closed_nested (fun value member _ same => standard.closed (finite value member) same) written

/-! ## Branches -/

namespace Branches

open Modelsmith.Tree (Line)

variable {language : Language} {converter : Converter} (standard : converter.Standard)
include standard

theorem level_line {line : Line} {text : String}
    (written : line.text language.dialect converter = .ok text) : level 0 text.toList ≤ 1 := by
  cases line with
  | test feature relation threshold =>
    obtain ⟨spelled, converted, rendered⟩ := bind_eq_ok.mp written
    have operator : level 0 relation.operator.toList = 0 := by cases relation <;> decide
    exact level_render (.cons (level_sigil language "features" (by decide)) (.cons (level_intText _)
      (.cons operator (.cons (standard.level_eq converted) .nil)))) (by decide) rendered
  | otherwise => exact level_text rfl written
  | close => exact Nat.le_trans (level_text rfl written) (Nat.zero_le 1)
  | assign class_ count =>
    obtain ⟨assign, rendered, written⟩ := bind_eq_ok.mp written
    obtain ⟨join, found, same⟩ := bind_eq_ok.mp written
    cases same
    have first : level 0 assign.toList = 0 := Nat.le_zero.mp <|
      level_render (.cons (level_sigil language "classes" (by decide)) (.cons (level_intText _)
        (.cons (level_intText _) .nil))) (by decide) rendered
    rw [String.toList_append, Template.level_append, first]
    exact Nat.le_trans (level_text rfl found) (Nat.zero_le 1)

theorem level_layout {lines : List (Nat × Line)} {text : List Char}
    (laidOut : layout language.dialect converter lines = .ok text) : level 1 text ≤ 1 := by
  induction lines generalizing text with
  | nil =>
    cases laidOut
    exact Nat.le_refl 1
  | cons entry lines ih =>
    simp only [layout, indentation_eq, bind_eq_ok, ok_bind] at laidOut
    obtain ⟨line, written, rest, later, same⟩ := laidOut
    cases same
    have indented : level 0 (indent language entry.1) = 0 :=
      Template.level_blanks (.inl rfl) fun c member =>
        isBlank_of_isIndent (isIndent_of_mem_indent member)
    -- The line before may end with an opening brace.
    have newline : Template.advance 1 '\n' = 0 := rfl
    rw [Template.level_append, List.cons_append, Template.level_cons, newline,
      Template.level_append, indented]
    exact Nat.le_trans (level_mono (level_line standard written) rest) (ih later)

theorem level_branches {tree : Tree} {text : String}
    (written : Branches.text language.dialect converter tree = .ok text) :
    level 0 text.toList ≤ 1 := by
  obtain ⟨-, -, rest⟩ := bind_eq_ok.mp written
  obtain ⟨lines, laidOut, same⟩ := bind_eq_ok.mp rest
  cases same
  have blanks := Template.level_blanks (.inl rfl) (List.all_eq_true.mp
    (List.all_takeWhile (p := Text.isBlank) (l := lines)))
  have whole : level 0 lines = level 0 (Text.trimStart lines) := by
    rw [← List.takeWhile_append_dropWhile (p := Text.isBlank) (l := lines),
      Template.level_append, blanks, List.takeWhile_append_dropWhile]
    rfl
  rw [String.toList_ofList, ← whole]
  exact Nat.le_trans (level_mono (Nat.zero_le 1) lines) (level_layout standard laidOut)

end Branches

/-! ## Sources -/

namespace Source

theorem treeDeclarations_fit {language : Language} {converter : Converter}
    (standard : converter.Standard) {tree : Tree}
    (finite : ∀ threshold ∈ tree.thresholds, threshold.isFinite = true)
    {declarations : Template.Bindings}
    (declared : treeDeclarations language.dialect converter tree = .ok declarations) :
    Fit declarations := by
  simp only [treeDeclarations, bind_eq_ok] at declared
  obtain ⟨lefts, leftsWritten, _, leftsDeclared, rights, rightsWritten, _, rightsDeclared,
    thresholds, thresholdsWritten, _, thresholdsDeclared, indices, indicesWritten, _,
    indicesDeclared, classes, classesWritten, _, classesDeclared, same⟩ := declared
  cases same
  have classesClosed := closed_nested (fun _ _ _ written => closed_nats written) classesWritten
  exact .cons (level_declare (by decide) (closed_ints leftsWritten) leftsDeclared) <|
    .cons (level_declare (by decide) (closed_ints rightsWritten) rightsDeclared) <|
    .cons (level_declare (by decide) (closed_doubles standard finite thresholdsWritten)
      thresholdsDeclared) <|
    .cons (level_declare (by decide) (closed_ints indicesWritten) indicesDeclared) <|
    .cons (level_declare (by decide) classesClosed classesDeclared) .nil

theorem networkDeclarations_fit {language : Language} {converter : Converter}
    (standard : converter.Standard) {network : Network}
    (finite : ∀ value ∈ DataDocument.numbers (.ofNetwork network), value.isFinite = true)
    {declarations : Template.Bindings}
    (declared : networkDeclarations language.dialect converter network = .ok declarations) :
    Fit declarations := by
  simp only [networkDeclarations, bind_eq_ok] at declared
  obtain ⟨layers, layersWritten, _, layersDeclared, weights, weightsWritten, _, weightsDeclared,
    bias, biasWritten, _, biasDeclared, same⟩ := declared
  cases same
  have weightsClosed : Closed weights.toList := by
    refine closed_nested (fun layer inLayers _ layerWritten => ?_) weightsWritten
    refine closed_nested (fun row inLayer _ rowWritten => ?_) layerWritten
    exact closed_doubles standard (fun value inRow => finite value
      (DataDocument.weight_mem inLayers inLayer inRow)) rowWritten
  have biasClosed : Closed bias.toList := by
    refine closed_nested (fun row inRows _ rowWritten => ?_) biasWritten
    exact closed_doubles standard (fun value inRow => finite value
      (DataDocument.bias_mem inRows inRow)) rowWritten
  exact .cons (level_declare (by decide) (closed_nats layersWritten) layersDeclared) <|
    .cons (level_declare (by decide) weightsClosed weightsDeclared) <|
    .cons (level_declare (by decide) biasClosed biasDeclared) .nil

theorem level_className {name : String} (isClassName : IsClassName name) :
    level 0 name.toList = 0 := by
  obtain ⟨first, rest, same, starts, parts⟩ := isClassName
  refine level_zero fun brace => ?_
  rw [same] at brace
  rcases List.mem_cons.mp brace with rfl | inside
  · exact absurd starts (by simp [IsLetter])
  · exact absurd (parts '{' inside) (by simp [IsLetter])

theorem level_output {language : Language} {method : Method} {output : String}
    (written : language.dialect.text method.outputTemplate = .ok output) :
    level 0 output.toList = 0 := Nat.le_zero.mp <| by
  cases method <;> exact level_text rfl written

section
variable {target : Target} (standard : target.converter.Standard)
  (isClassName : IsClassName target.className)
include standard isClassName

theorem level_ofTree {tree : Tree}
    (finite : ∀ threshold ∈ tree.thresholds, threshold.isFinite = true) {source : String}
    (written : ofTree target.language.dialect target tree = .ok source) :
    level 0 source.toList = 0 := by
  simp only [ofTree, bind_eq_ok] at written
  obtain ⟨methods, methodsWritten, output, outputWritten, written⟩ := written
  obtain ⟨declarations, declared, written⟩ := ite_bind_eq_ok.mp written
  obtain ⟨branches, branched, rendered⟩ := ite_bind_eq_ok.mp written
  have named := level_className isClassName
  have methodsLevel : level 0 methods.toList = 0 := Nat.le_zero.mp <|
    level_render (.cons named .nil) (by decide) methodsWritten
  have fit : Fit declarations := by
    split at declared
    · cases declared
      exact .nil
    · exact treeDeclarations_fit standard finite declared
  have branchesLevel : level 0 branches.toList ≤ leaves "tree" := by
    split at branched
    · exact Branches.level_branches standard branched
    · cases branched
      exact Nat.zero_le 1
  have bound : Fit ([("class_name", target.className), ("n_features", intText tree.featureCount),
      ("n_classes", intText tree.classCount), ("methods", methods), ("output", output),
      ("tree", branches)] ++ declarations) := by
    have last : Fit (("tree", branches) :: declarations) :=
      List.forall_mem_cons.mpr ⟨branchesLevel, fit⟩
    exact .cons named (.cons (level_intText _) (.cons (level_intText _) (.cons methodsLevel
      (.cons (level_output outputWritten) last))))
  exact Nat.le_zero.mp <| by
    cases packaging : target.packaging <;> rw [packaging] at rendered <;>
      exact level_render bound (by decide) rendered

theorem level_ofNetwork {network : Network}
    (finite : ∀ value ∈ DataDocument.numbers (.ofNetwork network), value.isFinite = true)
    {source : String} (written : ofNetwork target.language.dialect target network = .ok source) :
    level 0 source.toList = 0 := by
  simp only [ofNetwork, bind_eq_ok] at written
  obtain ⟨hidden, hiddenWritten, output, outputWritten, methods, methodsWritten, body, bodyWritten,
    printed, printedWritten, written⟩ := written
  obtain ⟨declarations, declared, rendered⟩ := ite_bind_eq_ok.mp written
  have named := level_className isClassName
  have hiddenLevel : level 0 hidden.toList = 0 := Nat.le_zero.mp <| by
    cases activation : network.hidden <;> rw [activation] at hiddenWritten <;>
      exact level_text rfl hiddenWritten
  have outputLevel : level 0 output.toList = 0 := Nat.le_zero.mp <| by
    cases activation : network.output.getD .identity <;> rw [activation] at outputWritten <;>
      exact level_text rfl outputWritten
  have methodsLevel : level 0 methods.toList = 0 := Nat.le_zero.mp <| by
    split at methodsWritten <;> exact level_text rfl methodsWritten
  have bodyLevel : level 0 body.toList = 0 := Nat.le_zero.mp <| level_render
    (.cons named (.cons hiddenLevel (.cons outputLevel (.cons methodsLevel .nil)))) (by decide)
    bodyWritten
  have fit : Fit declarations := by
    split at declared
    · exact networkDeclarations_fit standard finite declared
    · cases declared
      exact .nil
  have bound : Fit ([("class_name", target.className), ("class", body),
      ("n_features", intText network.inputCount), ("output", printed)] ++ declarations) :=
    .cons named (.cons bodyLevel (.cons (level_intText _)
      (.cons (level_output printedWritten) fit)))
  exact Nat.le_zero.mp <| by
    cases packaging : target.packaging <;> rw [packaging] at rendered <;>
      exact level_render bound (by decide) rendered

end

/-- No slot is left in the source of a program, and none has come about in it: filling it, with
whatever values, changes nothing. -/
theorem source_is_slotFree {model : Model} {target : Target} {program : Program}
    (finite : ∀ value ∈ DataDocument.numbers model, value.isFinite = true)
    (standard : target.converter.Standard) (generated : generate model target = .ok program) :
    Template.SlotFree program.source.toList ∧
      ∀ bindings, Template.fill program.source bindings = .ok program.source := by
  obtain ⟨-, checked, written⟩ := generate_eq_ok generated
  have isClassName := (Target.check_eq_ok.mp checked).2
  have closed : level 0 program.source.toList = 0 := by
    cases model with
    | ofTree tree => exact level_ofTree standard isClassName finite written
    | ofNetwork network => exact level_ofNetwork standard isClassName finite written
  have free := Template.slotFree_of_level (Nat.le_trans (Nat.le_of_eq closed) (Nat.zero_le 2))
  exact ⟨free, free.fill_eq⟩

/-- In C the counts of the nodes open with two braces. -/
theorem source_is_slotFree_stump :
    (∀ value ∈ DataDocument.numbers (.ofTree stump), value.isFinite = true) ∧
      stumpTarget.converter.Standard ∧
      ∃ program, generate (.ofTree stump) stumpTarget = .ok program ∧
        Template.fill program.source [] = .ok program.source := by
  have finite : ∀ value ∈ DataDocument.numbers (.ofTree stump), value.isFinite = true := by
    decide +kernel
  obtain ⟨program, generated⟩ := stump_generated
  exact ⟨finite, .shortest, program, generated,
    (source_is_slotFree finite .shortest generated).2 []⟩

end Source

end Modelsmith
