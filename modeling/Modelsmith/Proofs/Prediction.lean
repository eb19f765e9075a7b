import Modelsmith.CommandLine.Task
import Modelsmith.Proofs.Model.RoundTrip
import Modelsmith.Proofs.Numeral.Leading
import Modelsmith.Proofs.Program.Branches
import Modelsmith.Proofs.Run.Scoring

/-! Predictions read back from their own texts.

What a program printed is read as finite numbers, so every prediction that a run gives is printed as a
line that says all of it. The lines of a run, read again, are its results in their order, gaps
included.
-/

set_option autoImplicit false

namespace Modelsmith

namespace Text

theorem trim_blank {before text after : List Char} (blankBefore : ∀ c ∈ before, isBlank c = true)
    (blankAfter : ∀ c ∈ after, isBlank c = true) (first : ∀ c ∈ text.head?, isBlank c = false)
    (last : ∀ c ∈ text.getLast?, isBlank c = false) (filled : text ≠ []) :
    trim (before ++ text ++ after) = text := by
  have started : trimStart (before ++ text ++ after) = text ++ after := by
    rw [trimStart, List.append_assoc, dropWhile_append blankBefore]
    rwa [List.head?_append_of_ne_nil _ filled]
  rw [trim, started, trimEnd, List.reverse_append,
    dropWhile_append (by simpa using blankAfter) (by rwa [List.head?_reverse]), List.reverse_reverse]

end Text

namespace Prediction

def numbers (prediction : Prediction) : List Double :=
  prediction.value :: prediction.probabilities.getD []

variable {reading : Numeral.Reading} {prediction : Prediction}

/-! ## One prediction -/

theorem ofJson?_toJson (identified : ∀ value ∈ prediction.numbers, value.isFinite = true ∧
      reading (Double.Layout.document.numeral value) = some value) :
    prediction.toJson.WellFormed ∧ ofJson? reading prediction.toJson = some prediction := by
  have ofValue := @Model.carries_double reading 0 _ (identified prediction.value (by simp [numbers]))
  obtain ⟨value, probabilities⟩ := prediction
  cases probabilities with
  | none =>
    refine ⟨⟨ofValue.stands.1, trivial⟩, ?_⟩
    simp [ofJson?, toJson, ofMembers?, ofValue.decoded]
  | some shares =>
    have ofShares : Model.Carries reading 1 (Json.list? (Json.double? reading))
        (.ofList .ofDouble shares) shares :=
      Model.carries_ofList fun share member =>
        Model.carries_double (identified share (by simp [numbers, member]))
    refine ⟨⟨ofValue.stands.1, ofShares.stands.1, trivial⟩, ?_⟩
    have optional : probabilities? reading (Json.ofList .ofDouble shares) = some (some shares) := by
      rw [probabilities?, Json.ofList, Json.optional?, ← Json.ofList, ofShares.decoded]
      · rfl
      · simp
    simp [ofJson?, toJson, ofMembers?, ofValue.decoded, optional]

theorem identified_nearest (finite : ∀ value ∈ prediction.numbers, value.isFinite = true) :
    ∀ value ∈ prediction.numbers, value.isFinite = true ∧
      Numeral.Reading.nearest (Double.Layout.document.numeral value) = some value := by
  intro value member
  have isFinite := finite value member
  refine ⟨isFinite, ?_⟩
  rw [Numeral.Reading.nearest, Double.Layout.document.value_numeral isFinite, if_pos isFinite]

theorem parseBy_text (identified : ∀ value ∈ prediction.numbers, value.isFinite = true ∧
      reading (Double.Layout.document.numeral value) = some value)
    {before after : List Char} (blank : ∀ c ∈ before ++ after, Text.isBlank c = true)
    (command : String) (strict : Bool) :
    parseBy reading command (String.ofList (before ++ prediction.text ++ after)) strict =
      .ok (some prediction) := by
  obtain ⟨wellFormed, back⟩ := ofJson?_toJson identified
  have trimmed : Text.trim (before ++ prediction.text ++ after) = prediction.text := by
    obtain ⟨inner, isObject⟩ : ∃ inner, prediction.text = ('{' :: inner) ++ ['}'] := ⟨_, rfl⟩
    rw [isObject]
    refine Text.trim_blank (fun c member => blank c (by simp [member]))
      (fun c member => blank c (by simp [member])) ?_ ?_ (by simp)
    · rintro c ⟨⟩
      rfl
    · rw [List.getLast?_concat]
      rintro c ⟨⟩
      rfl
  have isRead : read? reading (before ++ prediction.text ++ after) = some prediction := by
    rw [read?, trimmed, text, Json.read?_text wellFormed]
    exact back
  rw [parseBy, String.toList_ofList, isRead]

/-! ## What is read is finite -/

theorem isFinite_of_probabilities? {json : Json} {found : Option (List Double)}
    (read : probabilities? .leading json = some found) :
    ∀ value ∈ found.getD [], value.isFinite = true := by
  unfold probabilities? Json.optional? at read
  split at read
  · cases read
    simp
  · obtain ⟨shares, ofShares, rfl⟩ := Option.map_eq_some_iff.mp read
    exact Json.forall_of_list? Json.isFinite_of_double? ofShares

theorem isFinite_of_read? {text : List Char} (read : read? .leading text = some prediction) :
    ∀ value ∈ prediction.numbers, value.isFinite = true := by
  obtain ⟨json, -, ofJson⟩ := Option.bind_eq_some_iff.mp read
  have both {value shares : Json} {first : Double} {others : Option (List Double)}
      (ofValue : value.double? .leading = some first)
      (ofShares : probabilities? .leading shares = some others) :
      ∀ value ∈ numbers ⟨first, others⟩, value.isFinite = true :=
    List.forall_mem_cons.mpr ⟨Json.isFinite_of_double? ofValue, isFinite_of_probabilities? ofShares⟩
  have absent : probabilities? .leading .null = some none := rfl
  unfold ofJson? at ofJson
  split at ofJson
  · simp only [ofMembers?] at ofJson
    split at ofJson
    · obtain ⟨first, ofValue, rest⟩ := Option.bind_eq_some_iff.mp ofJson
      split at rest
      · cases rest
        exact both ofValue absent
      · obtain ⟨others, ofShares, equal⟩ := Option.bind_eq_some_iff.mp rest
        cases equal
        exact both ofValue ofShares
      · cases rest
    · cases ofJson
  · obtain ⟨first, ofValue, equal⟩ := Option.bind_eq_some_iff.mp ofJson
    cases equal
    exact both ofValue absent
  · obtain ⟨first, ofValue, rest⟩ := Option.bind_eq_some_iff.mp ofJson
    obtain ⟨others, ofShares, equal⟩ := Option.bind_eq_some_iff.mp rest
    cases equal
    exact both ofValue ofShares
  · cases ofJson

end Prediction

theorem Deployment.isFinite_of_predict {State : Type} {deployment : Deployment} {shell : Shell State}
    {host : Host} {options : Options} {rows : List (List Double)} {world : World State}
    {values : List (Option Prediction)}
    (succeeds : (deployment.predict shell host options rows world).1 = .ok values)
    {prediction : Prediction} (member : some prediction ∈ values) :
    ∀ value ∈ prediction.numbers, value.isFinite = true := by
  obtain ⟨command, trials, -, all, -⟩ := predict_makesTrials succeeds
  have concluded : Except.ok (some prediction) ∈ trials.map (Run.Trial.outcome options command) :=
    all ▸ List.mem_map_of_mem member
  obtain ⟨trial, -, outcome⟩ := List.mem_map.mp concluded
  rw [Run.Trial.outcome, Run.conclude, bind_eq_ok] at outcome
  obtain ⟨output, -, parsed⟩ := outcome
  unfold Prediction.parse Prediction.parseBy at parsed
  split at parsed
  next found read =>
    cases parsed
    exact Prediction.isFinite_of_read? read
  next =>
    split at parsed <;> cases parsed

/-! ## The lines of a run -/

namespace Json

theorem newline_notMem_ofDouble (value : Double) : '\n' ∉ (ofDouble value).text := by
  rw [ofDouble]
  split
  next finite =>
    intro member
    have part := (Double.Layout.document.numeral_wellFormed finite).isPart_of_mem member
    exact absurd part (by decide)
  next => decide

theorem newline_notMem_itemsText {items : List Json} (each : ∀ item ∈ items, '\n' ∉ item.text) :
    '\n' ∉ itemsText items := by
  induction items with
  | nil => simp [itemsText]
  | cons item items ih =>
    obtain ⟨first, others⟩ := List.forall_mem_cons.mp each
    cases items with
    | nil => rwa [itemsText]
    | cons next items =>
      rw [itemsText]
      simpa [first] using ih others

end Json

namespace CommandLine

theorem newline_notMem_predictionLine (result : Option Prediction) :
    '\n' ∉ (predictionLine result).toList := by
  cases result with
  | none => decide
  | some prediction =>
    obtain ⟨value, probabilities⟩ := prediction
    have ofValue := Json.newline_notMem_ofDouble value
    rw [predictionLine, String.toList_ofList, Prediction.text, Prediction.toJson, Json.text]
    cases probabilities with
    | none => simp [Json.membersText, Json.quoted, Json.escape, ofValue]
    | some shares =>
      have ofShares : '\n' ∉ (Json.ofList .ofDouble shares).text := by
        rw [Json.ofList, Json.text]
        have items : '\n' ∉ Json.itemsText (shares.map .ofDouble) :=
          Json.newline_notMem_itemsText (by simp [Json.newline_notMem_ofDouble])
        simp [items]
      simp [Json.membersText, Json.quoted, Json.escape, ofValue, ofShares]

theorem splitLines_lines {texts : List String} (oneLine : ∀ text ∈ texts, '\n' ∉ text.toList) :
    Branches.splitLines (lines texts).toList = texts.map String.toList := by
  induction texts with
  | nil => rfl
  | cons text texts ih =>
    obtain ⟨first, others⟩ := List.forall_mem_cons.mp oneLine
    have joined : (lines (text :: texts)).toList = text.toList ++ '\n' :: (lines texts).toList := by
      simp [lines, String.join_cons]
    rw [joined, Branches.splitLines_append first, ih others, List.map_cons]

/-- What is made of a line, whichever command is said to have printed it. -/
def ReadsBack (line : List Char) (result : Option Prediction) : Prop :=
  ∀ command strict, Prediction.parseBy .nearest command (String.ofList line) strict =
    if result = none ∧ strict = true then .error (.malformedOutput command (String.ofList line))
    else .ok result

theorem readsBack_predictionLine {result : Option Prediction}
    (finite : ∀ prediction, result = some prediction →
      ∀ value ∈ prediction.numbers, value.isFinite = true) :
    ReadsBack (predictionLine result).toList result := by
  intro command strict
  cases result with
  | none => cases strict <;> rfl
  | some prediction =>
    have bare : ∀ c ∈ ([] ++ [] : List Char), Text.isBlank c = true := by simp
    have back := Prediction.parseBy_text (Prediction.identified_nearest (finite prediction rfl))
      bare command strict
    simpa [predictionLine] using back

theorem predictTask_eq_ok {State : Type} {shells : String → Shell State} {host : Host}
    {world : World State} {config : Option String} {model rows : String} {choices : Choices}
    {workers : Option Nat} {keepFiles : Bool}
    (succeeds : (predictTask shells host world config model rows choices workers keepFiles).result =
      .ok ()) :
    ∃ deployment batch results,
      loadBatch world.files config model rows choices workers keepFiles = .ok (deployment, batch) ∧
      (deployment.predict (shells deployment.config.options.shell) host deployment.config.options
        batch world).1 = .ok results ∧
      (predictTask shells host world config model rows choices workers keepFiles).stdout =
        lines (results.map predictionLine) := by
  unfold predictTask at succeeds ⊢
  split at succeeds
  · cases succeeds
  next deployment batch loaded =>
    simp only at succeeds ⊢
    split at succeeds
    next results later predicted =>
      exact ⟨deployment, batch, results, loaded, congrArg Prod.fst predicted, rfl⟩
    next => cases succeeds

theorem predictTask_result {State : Type} {shells : String → Shell State} {host : Host}
    {world : World State} {config : Option String} {model rows : String} {choices : Choices}
    {workers : Option Nat} {keepFiles : Bool} {deployment : Deployment} {batch : List (List Double)}
    {results : List (Option Prediction)}
    (loaded : loadBatch world.files config model rows choices workers keepFiles =
      .ok (deployment, batch))
    (predicted : (deployment.predict (shells deployment.config.options.shell) host
      deployment.config.options batch world).1 = .ok results) :
    (predictTask shells host world config model rows choices workers keepFiles).result = .ok () := by
  rw [predictTask, loaded]
  simp only
  generalize deployment.predict (shells deployment.config.options.shell) host
    deployment.config.options batch world = ran at predicted
  obtain ⟨result, later⟩ := ran
  cases predicted
  rfl

/-- A finite prediction is read back from its own text, whatever white space is around it. So are all
lines that are printed for a batch, in their order and with any shell. Where leading digits tell its
numbers, the reader of programs gives it back as well. -/
theorem prediction_read_back :
    (∀ {prediction : Prediction}, (∀ value ∈ prediction.numbers, value.isFinite = true) →
      ∀ {before after : List Char}, (∀ c ∈ before ++ after, Text.isBlank c = true) →
        ∀ command strict,
          Prediction.parseBy .nearest command
            (String.ofList (before ++ prediction.text ++ after)) strict = .ok (some prediction) ∧
          ((∀ value ∈ prediction.numbers,
              Numeral.Reading.leading (Double.Layout.document.numeral value) = some value) →
            Prediction.parse command (String.ofList (before ++ prediction.text ++ after)) strict =
              .ok (some prediction))) ∧
      ∀ {State : Type} {shells : String → Shell State} {host : Host} {world : World State}
          {config model rows choices workers keepFiles},
        (predictTask shells host world config model rows choices workers keepFiles).result = .ok () →
        ∃ deployment batch results,
          loadBatch world.files config model rows choices workers keepFiles =
            .ok (deployment, batch) ∧
          (deployment.predict (shells deployment.config.options.shell) host deployment.config.options
            batch world).1 = .ok results ∧
          List.Forall₂ ReadsBack (Branches.splitLines (predictTask shells host world config model rows
            choices workers keepFiles).stdout.toList) results := by
  constructor
  · intro prediction finite before after blank command strict
    have nearest := Prediction.identified_nearest finite
    refine ⟨Prediction.parseBy_text nearest blank command strict, fun leading => ?_⟩
    exact Prediction.parseBy_text (fun value member => ⟨finite value member, leading value member⟩)
      blank command strict
  intro State shells host world config model rows choices workers keepFiles succeeds
  obtain ⟨deployment, batch, results, loaded, predicted, printed⟩ := predictTask_eq_ok succeeds
  refine ⟨deployment, batch, results, loaded, predicted, ?_⟩
  have oneLine : ∀ text ∈ results.map predictionLine, '\n' ∉ text.toList := by
    simpa using fun result _ => newline_notMem_predictionLine result
  rw [printed, splitLines_lines oneLine, List.map_map, List.forall₂_map_left_iff, List.forall₂_same]
  intro result member
  refine readsBack_predictionLine fun prediction isResult => ?_
  exact Deployment.isFinite_of_predict predicted (isResult ▸ member)

/-- A directory with a configuration, a model and two rows. -/
def desk : Files :=
  [("porter.toml", "[harness]\ncheck_dependencies=false\ndirectory=\"/w\""),
    ("model.json", "[\"tree\",[1,-1,-1],[2,-1,-1],[0.5,-2,-2],[0,0,0],[[1,1],[1,0],[0,1]]]"),
    ("rows.json", "[[1],[0]]")].foldl
    (fun files entry =>
      files.put ["w", entry.1] { kind := .file (Text.octets entry.2), mode := 0o644 }) Run.workshop

def deskWorld : World Unit := ⟨desk, ()⟩

def deskShells (_ : String) : Shell Unit := Deployment.sure

def deskOptions : Options where
  checkDependencies := false
  directory := some "/w"

def deskChoices : Choices := ⟨some .javaScript, some .combined, none, some "Stump", none⟩

def deskDeployment : Deployment :=
  { Deployment.stumpDeployment with config := { options := deskOptions } }

theorem loadBatch_desk :
    loadBatch deskWorld.files (some "/w/porter.toml") "/w/model.json" "/w/rows.json" deskChoices none false =
      .ok (deskDeployment, Deployment.stumpRows) := by
  have config : loadConfig deskWorld.files (some "/w/porter.toml") = .ok { options := deskOptions } :=
    eq_ok_of_toOption (by decide +kernel)
  have model : Model.load deskWorld.files "/w/model.json" = .ok (.ofTree Source.stump) :=
    eq_ok_of_toOption (by decide +kernel)
  have rows : loadRows deskWorld.files "/w/rows.json" = .ok Deployment.stumpRows :=
    eq_ok_of_toOption (by decide +kernel)
  have created : Deployment.create (.ofTree Source.stump) = .ok (.ofModel (.ofTree Source.stump)) := by
    rw [Deployment.create, Model.check, show Model.validate (.ofTree Source.stump) = .ok () from
      Source.stump_valid]
    rfl
  rw [loadBatch, config, ok_bind, adjust, if_neg (by decide), ok_bind, loadDeployment, model, rows]
  simp only [refuse, ok_bind, created]
  rfl

theorem predict_desk (host : Host) :
    (deskDeployment.predict (deskShells deskDeployment.config.options.shell) host
      deskDeployment.config.options Deployment.stumpRows deskWorld).1 =
      .ok (Deployment.stumpRows.map fun _ => some ⟨Double.one, none⟩) := by
  have toolchain : deskDeployment.toolchain = Deployment.stumpDeployment.toolchain := rfl
  have target : deskDeployment.target = Deployment.stumpDeployment.target := by
    rw [Deployment.target, toolchain]
    rfl
  have existing : desk.exists "/w" = true := rfl
  have opens : ((desk.openToWrite "/w/Stump.js").toOption.map fun opened => opened.2.1.kind) =
      some (.file []) := rfl
  exact @Deployment.predict_sure deskDeployment rfl target toolchain host deskOptions desk rfl rfl
    existing opens

/-- The largest and the smallest double, a negative zero and a share that is spelled with an
exponent, with an ideographic space before and a line feed after; and two rows for which a shell
prints the same. -/
theorem prediction_read_back_extremes :
    (let prediction : Prediction := ⟨.ofRank true (Double.pastFinite - 1),
      some [.ofRank false 1, .ofRank true 0, .ofDecimal false 1 21]⟩
    (∀ value ∈ prediction.numbers, value.isFinite = true) ∧
      Prediction.parseBy .nearest "node" (String.ofList (['\u3000'] ++ prediction.text ++ ['\n'])) true =
        .ok (some prediction)) ∧
    (predictTask deskShells .standard deskWorld (some "/w/porter.toml") "/w/model.json"
      "/w/rows.json" deskChoices none false).result = .ok () ∧
    List.Forall₂ ReadsBack
      (Branches.splitLines (predictTask deskShells .standard deskWorld (some "/w/porter.toml")
        "/w/model.json" "/w/rows.json" deskChoices none false).stdout.toList)
      (Deployment.stumpRows.map fun _ => some ⟨Double.one, none⟩) := by
  have done := predictTask_result loadBatch_desk (predict_desk .standard)
  refine ⟨?_, done, ?_⟩
  · intro prediction
    have finite : ∀ value ∈ prediction.numbers, value.isFinite = true := by decide +kernel
    have blank : (['\u3000'] ++ ['\n']).all Text.isBlank = true := by decide
    exact ⟨finite, (prediction_read_back.1 finite (List.all_eq_true.mp blank) "node" true).1⟩
  · obtain ⟨deployment, batch, results, loaded, predicted, back⟩ := prediction_read_back.2 done
    have same := Except.ok.inj (loadBatch_desk.symm.trans loaded)
    have first : deskDeployment = deployment := congrArg Prod.fst same
    have second : Deployment.stumpRows = batch := congrArg Prod.snd same
    subst first second
    rw [Except.ok.inj ((predict_desk .standard).symm.trans predicted)]
    exact back

end CommandLine

end Modelsmith
