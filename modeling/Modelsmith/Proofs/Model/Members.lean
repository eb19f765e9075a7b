import Modelsmith.Model.Loading
import Modelsmith.Proofs.Model.Parts

/-! What is read from a document hangs on the members that count.

The member `type` counts, and the fields of the form that it names. The order of members, members
with other names, and the second name of the biases make no difference. A field that counts and is
there twice is refused. An array is read as the object with its items under the names of the fields.
-/

set_option autoImplicit false

namespace Modelsmith.Model

/-- The names of one field that counts beside these members. -/
inductive Counted (members : List (String × Json)) : List String → Prop where
  | form : Counted members ["type"]
  | field {form name : String} {names : List String} : (form, names) ∈ forms →
      ("type", .string form) ∈ members → name ∈ names → Counted members (spellings name)

/-- Changes to an object that change nothing in what it describes. -/
inductive Rearranged (reading : Numeral.Reading) :
    List (String × Json) → List (String × Json) → Prop where
  | reordered {members others : List (String × Json)} : members.Perm others →
      Rearranged reading members others
  /-- A member is passed over whose name is that of no field that counts, if it may stand there. -/
  | passedOver {before after : List (String × Json)} {key : String} {value : Json} :
      (∀ names, Counted (before ++ after) names → key ∉ names) →
      value.acceptable reading 126 = true →
      Rearranged reading (before ++ after) (before ++ (key, value) :: after)
  | respelled {before after : List (String × Json)} {value : Json} :
      Rearranged reading (before ++ ("biases", value) :: after) (before ++ ("bias", value) :: after)
  | symm {members others : List (String × Json)} : Rearranged reading members others →
      Rearranged reading others members
  | trans {members others last : List (String × Json)} : Rearranged reading members others →
      Rearranged reading others last → Rearranged reading members last

def described? (reading : Numeral.Reading) (members : List (String × Json)) : Option Model :=
  if members.all fun member => member.2.acceptable reading 126 then ofMembers? reading members
  else none

section
variable {reading : Numeral.Reading} {members others : List (String × Json)}

theorem read?_of_object {text : List Char} (read : Json.read? text = some (.object members)) :
    read? reading text = described? reading members := by
  have limit : (Json.object members).acceptable reading Json.levelLimit =
      members.all fun member => member.2.acceptable reading 126 := Json.acceptable_object reading 126 _
  simp only [Model.read?, Json.document?, read, Option.bind_eq_bind, Option.bind_some, limit,
    described?]
  split
  · rfl
  · rfl

theorem read?_of_array {text : List Char} {items : List Json}
    (read : Json.read? text = some (.array items)) : read? reading text =
      if items.all (Json.acceptable reading 126) then ofItems? reading items else none := by
  have limit : (Json.array items).acceptable reading Json.levelLimit =
      items.all (Json.acceptable reading 126) := Json.acceptable_array reading 126 _
  simp only [Model.read?, Json.document?, read, Option.bind_eq_bind, Option.bind_some, limit]
  split
  · rfl
  · rfl

theorem parseBy_congr {text other : List Char} (same : read? reading text = read? reading other) :
    parseBy reading text = parseBy reading other := by
  rw [parseBy, parseBy, same]

theorem parseBy_of_refused {text : List Char} (refused : read? reading text = none) :
    parseBy reading text = .error .malformedModel := by
  rw [parseBy, refused]
  rfl

/-! ## Members that count -/

theorem valuesOf_of_member? {names : List String} {value : Option Json}
    (found : member? names members = some value) : valuesOf names members = value.toList := by
  rw [member?_eq_sole?] at found
  unfold sole? at found
  split at found
  · rename_i empty
    rw [empty, ← Option.some.inj found]
    rfl
  · rename_i only
    rw [only, ← Option.some.inj found]
    rfl
  · cases found

theorem mem_valuesOf {key : String} {value : Json} :
    value ∈ valuesOf [key] members ↔ (key, value) ∈ members := by
  simp [valuesOf]

theorem mem_of_member? {key : String} {value : Json}
    (found : member? [key] members = some (some value)) : (key, value) ∈ members := by
  rw [← mem_valuesOf, valuesOf_of_member? found]
  exact List.mem_singleton_self value

theorem valuesOf_passedOver {names : List String} {key : String} (other : key ∉ names)
    (before after : List (String × Json)) (value : Json) :
    valuesOf names (before ++ (key, value) :: after) = valuesOf names (before ++ after) := by
  have skipped : names.contains key = false := by simpa using other
  simp only [valuesOf, List.filter_append, List.filter_cons, skipped, Bool.false_eq_true, if_false]

theorem valuesOf_respelled {names : List String} (both : "biases" ∈ names ↔ "bias" ∈ names)
    (before after : List (String × Json)) (value : Json) :
    valuesOf names (before ++ ("biases", value) :: after) =
      valuesOf names (before ++ ("bias", value) :: after) := by
  by_cases stands : "bias" ∈ names
  · have spelled := both.mpr stands
    simp only [valuesOf, List.filter_append, List.filter_cons, List.contains_iff_mem.mpr stands,
      List.contains_iff_mem.mpr spelled, if_true, List.map_append, List.map_cons]
  · rw [valuesOf_passedOver stands, valuesOf_passedOver fun spelled => stands (both.mp spelled)]

theorem biases_respelled : ∀ entry ∈ forms, ∀ name ∈ entry.2,
    ("biases" ∈ spellings name ↔ "bias" ∈ spellings name) := by
  decide

theorem ofMembers?_of_counted
    (same : ∀ names, Counted members names → valuesOf names members = valuesOf names others) :
    ofMembers? reading members = ofMembers? reading others := by
  have looked {names : List String} (counts : Counted members names) :
      member? names members = member? names others := by
    rw [member?_eq_sole?, member?_eq_sole?, same names counts]
  refine ofMembers?_congr (looked .form) fun entry listed form name inside => ?_
  exact looked (.field listed (mem_of_member? form) inside)

theorem Rearranged.described?_eq (rearranged : Rearranged reading members others) :
    described? reading members = described? reading others := by
  induction rearranged with
  | reordered perm => rw [described?, described?, perm.all_eq, ofMembers?_perm perm]
  | @passedOver before after key value unknown acceptable =>
    have read := @ofMembers?_of_counted reading (before ++ after) (before ++ (key, value) :: after)
      fun names counts => (valuesOf_passedOver (unknown names counts) before after value).symm
    rw [described?, described?, read, List.all_append, List.all_append, List.all_cons, acceptable,
      Bool.true_and]
  | @respelled before after value =>
    -- Every field that counts has both names of the biases or neither.
    have read := @ofMembers?_of_counted reading (before ++ ("biases", value) :: after)
      (before ++ ("bias", value) :: after) fun names counts => by
        cases counts with
        | form => exact valuesOf_respelled (by decide) before after value
        | field listed _ inside =>
          exact valuesOf_respelled (biases_respelled _ listed _ inside) before after value
    rw [described?, described?, read, List.all_append, List.all_append, List.all_cons, List.all_cons]
  | symm _ ih => exact ih.symm
  | trans _ _ first second => exact first.trans second

/-! ## What is refused -/

theorem length_of_member? {names : List String} {value : Option Json}
    (found : member? names members = some value) : (valuesOf names members).length ≤ 1 := by
  rw [valuesOf_of_member? found]
  cases value with
  | none => exact Nat.zero_le 1
  | some value => exact Nat.le_refl 1

theorem form_of_ofMembers? {model : Model} (read : ofMembers? reading members = some model) :
    ∃ entry ∈ forms, valuesOf ["type"] members = [.string entry.1] ∧
      ∀ name ∈ entry.2, (valuesOf (spellings name) members).length ≤ 1 := by
  simp only [ofMembers?, Option.bind_eq_bind, Option.bind_eq_some_iff] at read
  obtain ⟨_, found, form, rfl, read⟩ := read
  have type := valuesOf_of_member? found
  -- Every field of the form was looked up, and none is found that is there twice.
  split at read
  · refine ⟨_, List.mem_cons_self, type, ?_⟩
    obtain ⟨_, lefts, _, rights, _, thresholds, _, indices, _, classes, _, width, -⟩ :=
      by simpa only [Option.bind_eq_some_iff] using read
    simp only [List.forall_mem_cons, spellings, String.reduceEq, if_false]
    exact ⟨length_of_member? lefts, length_of_member? rights, length_of_member? thresholds,
      length_of_member? indices, length_of_member? classes, length_of_member? width,
      List.forall_mem_nil _⟩
  · refine ⟨_, List.mem_cons_of_mem _ List.mem_cons_self, type, ?_⟩
    obtain ⟨_, layers, _, weights, _, biases, _, hidden, _, output, -⟩ :=
      by simpa only [Option.bind_eq_some_iff] using read
    simp only [List.forall_mem_cons, spellings, String.reduceEq, if_true, if_false]
    exact ⟨length_of_member? layers, length_of_member? weights, length_of_member? biases,
      length_of_member? hidden, length_of_member? output, List.forall_mem_nil _⟩
  · cases read

theorem forms_names : ∀ entry ∈ forms, ∀ other ∈ forms, entry.1 = other.1 → entry = other := by
  decide

theorem ofMembers?_of_repeated {names : List String} (counts : Counted members names)
    (twice : 2 ≤ (valuesOf names members).length) : ofMembers? reading members = none := by
  rw [Option.eq_none_iff_forall_ne_some]
  intro model read
  obtain ⟨entry, listed, type, once⟩ := form_of_ofMembers? read
  cases counts with
  | form =>
    rw [type] at twice
    exact absurd twice (Nat.not_succ_le_self 1)
  | @field form name names among named inside =>
    -- There is one form only, so the field belongs to the form that was read.
    rw [← mem_valuesOf, type, List.mem_singleton, Json.string.injEq] at named
    obtain rfl := forms_names (form, names) among entry listed named
    exact absurd (once name inside) (Nat.not_le_of_lt twice)

theorem ofMembers?_of_formless (formless : ∀ entry ∈ forms, ("type", .string entry.1) ∉ members) :
    ofMembers? reading members = none := by
  rw [Option.eq_none_iff_forall_ne_some]
  intro model read
  obtain ⟨entry, listed, type, -⟩ := form_of_ofMembers? read
  refine formless entry listed ?_
  rw [← mem_valuesOf, type]
  exact List.mem_singleton_self _

theorem described?_of_refused (refused : ofMembers? reading members = none) :
    described? reading members = none := by
  rw [described?, refused, ite_self]

/-! ## Arrays -/

/-- The object that an array stands for. -/
def named (form : String) (names : List String) (values : List Json) : List (String × Json) :=
  ("type", .string form) :: names.zip values

theorem ofItems?_eq {form : String} {names : List String} (listed : (form, names) ∈ forms)
    {values : List Json} (few : values.length ≤ names.length) :
    ofItems? reading (.string form :: values) = ofMembers? reading (named form names values) := by
  simp only [forms, List.mem_cons, Prod.mk.injEq, List.not_mem_nil, or_false] at listed
  rcases listed with ⟨rfl, rfl⟩ | ⟨rfl, rfl⟩
  · -- One case for each number of items; with more than six the array is too long.
    rcases values with _ | ⟨_, _ | ⟨_, _ | ⟨_, _ | ⟨_, _ | ⟨_, _ | ⟨_, _ | ⟨_, rest⟩⟩⟩⟩⟩⟩⟩
    on_goal 8 => exact absurd few (by simp)
    all_goals
      rw [ofMembers?_tree rfl rfl rfl rfl rfl rfl rfl, Option.map_eq_bind]
      rfl
  · rcases values with _ | ⟨_, _ | ⟨_, _ | ⟨_, _ | ⟨_, _ | ⟨_, _ | ⟨_, rest⟩⟩⟩⟩⟩⟩
    on_goal 7 => exact absurd few (by simp)
    all_goals
      rw [ofMembers?_network rfl rfl rfl rfl rfl rfl, Option.map_eq_bind]
      rfl

theorem read?_named {form : String} {names : List String} (listed : (form, names) ∈ forms)
    {values : List Json} (few : values.length ≤ names.length) {text other : List Char}
    (ofArray : Json.read? text = some (.array (.string form :: values)))
    (ofObject : Json.read? other = some (.object (named form names values))) :
    read? reading text = read? reading other := by
  have parts : (names.zip values).map Prod.snd = values := List.map_snd_zip few
  have acceptable : (named form names values).all (fun member => member.2.acceptable reading 126) =
      (.string form :: values).all (Json.acceptable reading 126) := by
    rw [named, List.all_cons, List.all_cons, ← parts, List.all_map, parts]
    rfl
  rw [read?_of_array ofArray, read?_of_object ofObject, described?, acceptable, ofItems?_eq listed few]

end

/-- Reordered members, members passed over and the second name of the biases leave the outcome as it
is, be it a model or a failure. A repeated field that counts is refused, as is an object of no form.
An array gives what the object gives with its items under the names of the fields, in order. -/
theorem parse_by_counted_members (reading : Numeral.Reading) :
    (∀ (text other : List Char) (members others : List (String × Json)),
      Json.read? text = some (.object members) → Json.read? other = some (.object others) →
        Rearranged reading members others → parseBy reading text = parseBy reading other) ∧
    (∀ (text : List Char) (members : List (String × Json)) (names : List String),
      Json.read? text = some (.object members) → Counted members names →
        2 ≤ (valuesOf names members).length → parseBy reading text = .error .malformedModel) ∧
    (∀ (text : List Char) (members : List (String × Json)),
      Json.read? text = some (.object members) →
        (∀ entry ∈ forms, ("type", .string entry.1) ∉ members) →
          parseBy reading text = .error .malformedModel) ∧
    ∀ (text other : List Char) (form : String) (names : List String) (values : List Json),
      (form, names) ∈ forms → values.length ≤ names.length →
        Json.read? text = some (.array (.string form :: values)) →
          Json.read? other = some (.object (named form names values)) →
            parseBy reading text = parseBy reading other := by
  refine ⟨?_, ?_, ?_, ?_⟩
  · intro text other members others ofText ofOther rearranged
    apply parseBy_congr
    rw [read?_of_object ofText, read?_of_object ofOther, rearranged.described?_eq]
  · intro text members names ofText counts twice
    apply parseBy_of_refused
    rw [read?_of_object ofText, described?_of_refused (ofMembers?_of_repeated counts twice)]
  · intro text members ofText formless
    apply parseBy_of_refused
    rw [read?_of_object ofText, described?_of_refused (ofMembers?_of_formless formless)]
  · intro text other form names values listed few ofArray ofObject
    exact parseBy_congr (read?_named listed few ofArray ofObject)

/-- A network without layers, its form in front. -/
def plainMembers : List (String × Json) := [("type", .string "mlp"), ("biases", .array [])]

/-- The same network, its form last and between members that do not count. -/
def mixedMembers : List (String × Json) :=
  [("note", .null), ("bias", .array []), ("note", .array [.null]), ("type", .string "mlp")]

theorem rearranged_mixed : Rearranged .leading plainMembers mixedMembers := by
  have unknown {members : List (String × Json)} (names : List String)
      (counts : Counted members names) : "note" ∉ names := by
    cases counts with
    | form => decide
    | field listed _ inside =>
      exact (by decide : ∀ entry ∈ forms, ∀ name ∈ entry.2, "note" ∉ spellings name) _ listed _ inside
  have first : Rearranged .leading plainMembers [("type", .string "mlp"), ("bias", .array [])] :=
    @Rearranged.respelled .leading [("type", .string "mlp")] [] (.array [])
  have second : Rearranged .leading [("type", .string "mlp"), ("bias", .array [])]
      [("bias", .array []), ("type", .string "mlp")] := .reordered (.swap ..)
  have third : Rearranged .leading [("bias", .array []), ("type", .string "mlp")]
      [("bias", .array []), ("note", .array [.null]), ("type", .string "mlp")] :=
    @Rearranged.passedOver .leading [("bias", .array [])] [("type", .string "mlp")] "note"
      (.array [.null]) unknown (by decide)
  exact ((first.trans second).trans third).trans
    (@Rearranged.passedOver .leading [] _ "note" .null unknown (by decide))

theorem parse_plain : parseBy .leading (Json.object plainMembers).text =
    .error (.model .networkRegressor (.missing "layers")) := by
  have wellFormed : (Json.object plainMembers).WellFormed :=
    (Json.wellFormed_object _).mpr (by simp [plainMembers, Json.WellFormed, Json.ItemsWellFormed])
  rw [parseBy, read?_of_object (Json.read?_text wellFormed)]
  rfl

/-- The layers are missing there too; with the biases under both names nothing is read. -/
theorem parse_by_counted_members_mixed :
    parseBy .leading (Json.object mixedMembers).text =
        .error (.model .networkRegressor (.missing "layers")) ∧
      parseBy .leading (Json.object (("biases", .null) :: mixedMembers)).text =
        .error .malformedModel := by
  have read {members : List (String × Json)} (each : ∀ member ∈ members, member.2.WellFormed) :
      Json.read? (Json.object members).text = some (.object members) :=
    Json.read?_text ((Json.wellFormed_object members).mpr each)
  obtain ⟨rearranged, repeated, -⟩ := parse_by_counted_members .leading
  constructor
  · rw [← parse_plain]
    exact (rearranged _ _ _ _ (read (by simp [plainMembers, Json.WellFormed, Json.ItemsWellFormed]))
      (read (by simp [mixedMembers, Json.WellFormed, Json.ItemsWellFormed])) rearranged_mixed).symm
  · refine repeated _ _ (spellings "biases")
      (read (by simp [mixedMembers, Json.WellFormed, Json.ItemsWellFormed])) ?_ (by decide)
    exact .field (List.mem_cons_of_mem _ List.mem_cons_self) (by simp [mixedMembers]) (by simp)

end Modelsmith.Model
