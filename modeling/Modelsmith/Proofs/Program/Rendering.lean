import Modelsmith.Proofs.Program.Source

/-! Which sources can be rendered.

The table of a language offers a template for some slots when the template is there and has no other
slots. The source of a valid model is rendered whenever its kind, language, packaging and method go
together: every template that is asked for is there, and every slot in it is bound.
-/

set_option autoImplicit false

namespace Modelsmith

/-! ## Templates and their slots -/

namespace Dialect

/-- Lines by their characters, which are slow to compute from a long line. -/
inductive Spells : List String → List (List Char) → Prop where
  | nil : Spells [] []
  | cons {text : String} {chars : List Char} {texts : List String} {rest : List (List Char)} :
      text = String.ofList chars → Spells texts rest → Spells (text :: texts) (chars :: rest)

theorem Spells.map_toList {texts : List String} {chars : List (List Char)}
    (spells : Spells texts chars) : texts.map String.toList = chars := by
  induction spells with
  | nil => rfl
  | cons same _ ih => rw [List.map_cons, same, String.toList_ofList, ih]

/-- A template that is there, with slots of these names only. -/
inductive Offers (dialect : Dialect) (names : List String) (template : String) : Prop where
  | intro {texts : List String} {chars : List (List Char)} :
      dialect.text template = .ok (lines texts) → Spells texts chars →
      (Template.slots (Template.pieces (Text.joinWith "\n".toList chars))).all
        names.contains = true → Offers dialect names template

theorem Offers.render {dialect : Dialect} {names : List String} {template : String}
    (offers : dialect.Offers names template) {bindings : Template.Bindings}
    (bound : names ⊆ bindings.map Prod.fst) : Succeeds (dialect.render template bindings) := by
  obtain ⟨found, spells, listed⟩ := offers
  rw [← spells.map_toList] at listed
  refine Source.render_succeeds bindings found rfl fun name member => ?_
  have known := List.all_eq_true.mp listed name member
  exact Source.lookup_isSome (bound (List.contains_iff_mem.mp known))

theorem Offers.has {dialect : Dialect} {names : List String} {template : String}
    (offers : dialect.Offers names template) : dialect.has template = true := by
  obtain ⟨found, -, -⟩ := offers
  unfold Dialect.text at found
  cases entry : dialect.entries.lookup template with
  | none => simp [entry] at found
  | some text =>
    obtain ⟨before, after, same, -⟩ := List.lookup_eq_some_iff.mp entry
    rw [Dialect.has, List.any_eq_true]
    exact ⟨(template, text), by simp [same], by simp⟩

end Dialect

namespace Source

open Literal

def treeKeys : List String := ["class_name", "n_features", "n_classes", "methods", "output", "tree"]

def networkKeys : List String := ["class_name", "class", "n_features", "output"]

def classKeys : List String := ["class_name", "hidden_activation", "output_activation", "methods"]

theorem offers_treeMethods (language : Language) :
    language.dialect.Offers ["class_name"] "tree.methods" := by
  cases language
  all_goals
    apply Dialect.Offers.intro rfl
    -- A long list of lines is kept in parts.
    · try dsimp only
      repeat apply Dialect.Spells.cons rfl
      exact .nil
    · decide +kernel

theorem offers_treeSkeleton {language : Language} {packaging : Packaging}
    (known : ¬ (language = .c ∧ packaging = .exported)) :
    language.dialect.Offers (treeKeys ++ if packaging = .exported then [] else treeNames)
      (treeSkeleton packaging) := by
  cases language <;> cases packaging
  case c.exported => exact absurd ⟨rfl, rfl⟩ known
  all_goals
    apply Dialect.Offers.intro rfl
    · try dsimp only
      repeat apply Dialect.Spells.cons rfl
      exact .nil
    · decide +kernel

theorem offers_network {language : Language} (known : language = .java ∨ language = .javaScript) :
    language.dialect.Offers classKeys "mlp.class" ∧
      language.dialect.Offers (networkKeys ++ networkNames) (networkSkeleton .attached) ∧
      language.dialect.Offers networkKeys (networkSkeleton .exported) := by
  rcases known with rfl | rfl
  all_goals
    refine ⟨?_, ?_, ?_⟩
    all_goals
      apply Dialect.Offers.intro rfl
      · try dsimp only
        repeat apply Dialect.Spells.cons rfl
        exact .nil
      · decide +kernel

theorem text_output (language : Language) (method : Method) :
    Succeeds (language.dialect.text method.outputTemplate) := by
  cases language <;> cases method <;> exact ⟨_, rfl⟩

theorem text_activations {language : Language} (known : language = .java ∨ language = .javaScript)
    {hidden output : Activation} (allowedHidden : hidden.allowedHidden = true)
    (allowedOutput : output.allowedOutput = true) :
    Succeeds (language.dialect.text ("activation.hidden." ++ hidden.key)) ∧
      Succeeds (language.dialect.text ("activation.output." ++ output.key)) := by
  constructor
  · cases hidden with
    | softmax => exact absurd allowedHidden (by decide)
    | identity | logistic | tanh | relu => rcases known with rfl | rfl <;> exact ⟨_, rfl⟩
  · cases output with
    | tanh | relu => exact absurd allowedOutput (by decide)
    | identity | logistic | softmax => rcases known with rfl | rfl <;> exact ⟨_, rfl⟩

theorem text_networkMethods {language : Language}
    (known : language = .java ∨ language = .javaScript) :
    Succeeds (language.dialect.text "mlp.classifier") ∧
      (language = .javaScript → Succeeds (language.dialect.text "mlp.regressor")) := by
  rcases known with rfl | rfl
  · exact ⟨⟨_, rfl⟩, fun other => by cases other⟩
  · exact ⟨⟨_, rfl⟩, fun _ => ⟨_, rfl⟩⟩

/-! ## Literals and declarations -/

theorem list_succeeds (language : Language) (items : List String) :
    Succeeds (list language.dialect items) := ⟨_, render_brackets language _⟩

theorem nested_succeeds (language : Language) {α : Type} {item : α → Except RenderFault String}
    {values : List α} (each : ∀ value ∈ values, Succeeds (item value)) :
    Succeeds (nested language.dialect item values) :=
  (Succeeds.mapM each).bind fun items _ => list_succeeds language items

theorem declare_cube {language : Language} (known : language = .java ∨ language = .javaScript)
    (scalar : Scalar) (name values : String) :
    Succeeds (declare language.dialect scalar name values .cube) := by
  rw [declare, text_scalar, ok_bind]
  rcases known with rfl | rfl <;> exact ⟨_, rfl⟩

section
variable {converter : Converter} {write : Double → String}
  (total : ∀ value, converter value = .ok (write value))
include total

theorem doubles_succeeds (language : Language) (values : List Double) :
    Succeeds (doubles language.dialect converter values) :=
  nested_succeeds language fun value _ => ⟨_, total value⟩

theorem treeDeclarations_succeeds (language : Language) (tree : Tree) :
    ∃ bindings, treeDeclarations language.dialect converter tree = .ok bindings ∧
      bindings.map Prod.fst = treeNames := by
  have vector : ∀ scalar name values size,
      Succeeds (declare language.dialect scalar name values (.vector size)) :=
    declare_vector language
  have matrix : ∀ values, Succeeds (declare language.dialect .int "classes" values
      (.matrix tree.size tree.classCount)) := fun values => declare_matrix language ..
  have succeeds : Succeeds (treeDeclarations language.dialect converter tree) :=
    (list_succeeds language _).bind fun _ _ => (vector ..).bind fun _ _ =>
    (list_succeeds language _).bind fun _ _ => (vector ..).bind fun _ _ =>
    (doubles_succeeds total language _).bind fun _ _ => (vector ..).bind fun _ _ =>
    (list_succeeds language _).bind fun _ _ => (vector ..).bind fun _ _ =>
    (nested_succeeds language fun _ _ => list_succeeds language _).bind fun _ _ =>
    (matrix _).bind fun _ _ => ⟨_, rfl⟩
  obtain ⟨bindings, written⟩ := succeeds
  refine ⟨bindings, written, ?_⟩
  simp only [treeDeclarations, bind_eq_ok, pure, Except.pure, Except.ok.injEq] at written
  obtain ⟨_, -, _, -, _, -, _, -, _, -, _, -, _, -, _, -, _, -, _, -, rfl⟩ := written
  rfl

theorem networkDeclarations_succeeds {language : Language}
    (known : language = .java ∨ language = .javaScript) (network : Network) :
    ∃ bindings, networkDeclarations language.dialect converter network = .ok bindings ∧
      bindings.map Prod.fst = networkNames := by
  have rows : ∀ rows : List (List Double),
      Succeeds (nested language.dialect (doubles language.dialect converter) rows) :=
    fun rows => nested_succeeds language fun row _ => doubles_succeeds total language row
  have vector : ∀ values, Succeeds (declare language.dialect .int "layers" values
      (.vector network.layers.length)) := fun values => declare_vector language ..
  have matrix : ∀ values, Succeeds (declare language.dialect .double "bias" values
      (.matrix network.layers.length 0)) := fun values => declare_matrix language ..
  have succeeds : Succeeds (networkDeclarations language.dialect converter network) :=
    (list_succeeds language _).bind fun _ _ => (vector _).bind fun _ _ =>
    (nested_succeeds language fun layer _ => rows layer).bind fun _ _ =>
    (declare_cube known ..).bind fun _ _ =>
    (rows network.biases).bind fun _ _ => (matrix _).bind fun _ _ => ⟨_, rfl⟩
  obtain ⟨bindings, written⟩ := succeeds
  refine ⟨bindings, written, ?_⟩
  simp only [networkDeclarations, bind_eq_ok, pure, Except.pure, Except.ok.injEq] at written
  obtain ⟨_, -, _, -, _, -, _, -, _, -, _, -, rfl⟩ := written
  rfl

theorem branches_succeeds (language : Language) (tree : Tree) :
    Succeeds (Branches.text language.dialect converter tree) := by
  refine (Succeeds.mapM fun threshold _ => ⟨_, total threshold⟩).bind fun _ _ => ?_
  refine Succeeds.bind ⟨_, Branches.layout_eq language converter
    (fun value => (write value).toList) ?_⟩ fun _ _ => ⟨_, rfl⟩
  intro _ _ _ threshold _
  rw [total, String.ofList_toList]

/-! ## Sources -/

theorem ofTree_succeeds {target : Target} (converts : target.converter = converter)
    (known : ¬ (target.language = .c ∧ target.packaging = .exported)) (tree : Tree) :
    Succeeds (ofTree target.language.dialect target tree) := by
  subst converts
  refine ((offers_treeMethods target.language).render (by simp)).bind fun methods _ => ?_
  refine (text_output target.language target.method).bind fun output _ => ?_
  have offers := offers_treeSkeleton known
  obtain ⟨declarations, written, names⟩ := treeDeclarations_succeeds total target.language tree
  obtain ⟨branches, branched⟩ := branches_succeeds total target.language tree
  cases packaging : target.packaging with
  | attached =>
    simp only [packaging, reduceCtorEq, if_false, written, ok_bind] at offers ⊢
    exact offers.render (by simp [treeKeys, names])
  | combined =>
    simp only [packaging, reduceCtorEq, if_false, if_true, written, branched, ok_bind] at offers ⊢
    exact offers.render (by simp [treeKeys, names])
  | exported =>
    simp only [packaging, reduceCtorEq, if_false, if_true] at offers ⊢
    exact offers.render (by simp [treeKeys])

theorem ofNetwork_succeeds {target : Target} (converts : target.converter = converter)
    (known : target.language = .java ∨ target.language = .javaScript) {network : Network}
    (regresses : network.isClassifier = false → target.language = .javaScript)
    (laidOut : target.packaging ≠ .combined) (hidden : network.hidden.allowedHidden = true)
    (output : (network.output.getD .identity).allowedOutput = true) :
    Succeeds (ofNetwork target.language.dialect target network) := by
  subst converts
  obtain ⟨hiddenText, outputText⟩ := text_activations known hidden output
  obtain ⟨classifier, regressor⟩ := text_networkMethods known
  have methods : Succeeds (target.language.dialect.text
      (if network.isClassifier then "mlp.classifier" else "mlp.regressor")) := by
    cases kind : network.isClassifier with
    | true => exact classifier
    | false => exact regressor (regresses kind)
  obtain ⟨body, attached, exported⟩ := offers_network known
  obtain ⟨declarations, written, names⟩ := networkDeclarations_succeeds total known network
  refine hiddenText.bind fun _ _ => outputText.bind fun _ _ => methods.bind fun _ _ => ?_
  refine (body.render (by simp [classKeys])).bind fun _ _ => ?_
  refine (text_output target.language target.method).bind fun _ _ => ?_
  cases packaging : target.packaging with
  | attached =>
    simp only [if_true, written, ok_bind]
    exact attached.render (by simp [networkKeys, names])
  | combined => exact absurd packaging laidOut
  | exported =>
    simp only [reduceCtorEq, if_false]
    exact exported.render (by simp [networkKeys])

end

end Source

end Modelsmith
