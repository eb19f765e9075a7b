import Mathlib.Data.List.Induction
import Mathlib.Data.List.Sort
import Modelsmith.Config.Basic
import Modelsmith.Proofs.Config.Keys
import Modelsmith.Proofs.Failing
import Modelsmith.Proofs.Text.Utf8

/-! Toolchains of a configuration.

Its sections stand in the order of their keys, whatever the order in the document, and each of them is
about one language. A field of a toolchain has the value that the last section about its language
gives to it, and the usual one if none does.
-/

set_option autoImplicit false

namespace Modelsmith

/-! ## Names of languages -/

namespace Language

/-- A text names a language: in lower case it is one of its names. -/
def Named (language : Language) (text : String) : Prop := lowercase text ∈ language.names

instance (language : Language) (text : String) : Decidable (language.Named text) :=
  inferInstanceAs (Decidable (_ ∈ _))

theorem eq_of_mem_names {name : String} {first second : Language} (inFirst : name ∈ first.names)
    (inSecond : name ∈ second.names) : first = second := by
  have apart : ∀ first ∈ all, ∀ second ∈ all, ∀ name ∈ first.names, name ∈ second.names →
      first = second := by decide
  have listed (language : Language) : language ∈ all := by cases language <;> decide
  exact apart first (listed first) second (listed second) name inFirst inSecond

theorem ofText?_eq_some_iff {text : String} {language : Language} :
    ofText? text = some language ↔ language.Named text := by
  have listed : language ∈ all := by cases language <;> decide
  constructor
  · intro found
    have isName := List.find?_some found
    simpa [Named] using isName
  · intro named
    cases found : ofText? text with
    | none =>
      have never := List.find?_eq_none.mp found language listed
      simp [show lowercase text ∈ language.names from named] at never
    | some other =>
      have isName : lowercase text ∈ other.names := by simpa using List.find?_some found
      rw [eq_of_mem_names isName named]

theorem Named.encode {language : Language} {text : String} (named : language.Named text) :
    Text.Utf8.encode text.toList = text.toList := by
  have plain : ∀ language ∈ all, ∀ name ∈ language.names,
      name.toList.all (fun c => decide (c.toNat < 128)) = true := by decide
  have listed : language ∈ all := by cases language <;> decide
  have small : ∀ c ∈ text.toList, c.toNat < 128 := by
    intro c member
    have lower : c.toLower ∈ (lowercase text).toList := by
      simpa [lowercase] using List.mem_map_of_mem member
    have bound := of_decide_eq_true (List.all_eq_true.mp (plain language listed _ named) _ lower)
    unfold Char.toLower at bound
    split at bound
    next upper => exact Nat.lt_of_le_of_lt (Char.le_def.mp upper.2) (by decide)
    next => exact bound
  exact Text.Utf8.encode_of_small small

end Language

/-! ## Sections of a document -/

namespace Toml

/-- The value that a record of a document gives to a field. -/
def field? (names : List String) (name : String) (value : Toml) : Option Toml :=
  ((value.fields? names).getD []).lookup name

end Toml

/-- A run over members with distinct keys, seen through what only one of the keys changes. -/
theorem view_foldlM {State β γ : Type} {step : State → String × β → Option State} {start final : State}
    {members : List (String × β)} (nodup : (members.map Prod.fst).Nodup)
    (ran : members.foldlM step start = some final) {view : State → γ} {key : String} {read : β → γ}
    (sets : ∀ {state later value}, step state (key, value) = some later → view later = read value)
    (keeps : ∀ {state later member}, member.1 ≠ key → step state member = some later →
      view later = view state) :
    view final = (members.lookup key).elim (view start) read := by
  induction members generalizing start with
  | nil =>
    cases ran
    rfl
  | cons member rest ih =>
    rw [List.map_cons, List.nodup_cons] at nodup
    rw [List.foldlM_cons] at ran
    obtain ⟨middle, stepped, onward⟩ := Option.bind_eq_some_iff.mp ran
    obtain ⟨name, value⟩ := member
    rw [ih nodup.2 onward, List.lookup_cons]
    by_cases same : name = key
    · subst same
      have absent : rest.lookup name = none := by
        rw [List.lookup_eq_none_iff]
        intro other member
        have listed := List.mem_map_of_mem (f := Prod.fst) member
        have apart : name ≠ other.1 := fun equal => nodup.1 (equal ▸ listed)
        simpa using apart
      rw [absent, beq_self_eq_true]
      exact sets stepped
    · rw [beq_eq_false_iff_ne.mpr (Ne.symm same), keeps same stepped]

namespace Override

def described (value : Toml) : Override where
  compile := (value.field? names "compile").bind Toml.string?
  execute := (value.field? names "execute").bind Toml.string?
  dependencies := (value.field? names "dependencies").bind Toml.strings?
  extension := (value.field? names "extension").bind Toml.string?

theorem fields_of_ofToml? {value : Toml} (keyed : value.Keyed) {override : Override}
    (read : ofToml? value = some override) :
    ∃ fields, value.fields? names = some fields ∧ (fields.map Prod.fst).Nodup ∧
      fields.foldlM (fun override field => override.set? field.1 field.2) {} = some override := by
  cases value with
  | array items =>
    simp only [ofToml?] at read
    split at read
    · simp at read
    · next enough =>
      have distinct : ((names.zip items).map Prod.fst).Nodup := by
        rw [List.map_fst_zip (Nat.not_lt.mp enough)]
        decide
      exact ⟨_, rfl, distinct, by simpa [Toml.fields?] using read⟩
  | table origin members =>
    exact ⟨members, rfl, (Toml.keyed_table_iff.mp keyed).nodup,
      by simpa [ofToml?, Toml.fields?] using read⟩
  | _ => simp [ofToml?, Toml.fields?] at read

theorem set?_cases {override later : Override} {name : String} {value : Toml}
    (set : override.set? name value = some later) :
    (name = "compile" ∧ ∃ text, value.string? = some text ∧
      later = { override with compile := some text }) ∨
    (name = "execute" ∧ ∃ text, value.string? = some text ∧
      later = { override with execute := some text }) ∨
    (name = "dependencies" ∧ ∃ texts, value.strings? = some texts ∧
      later = { override with dependencies := some texts }) ∨
    (name = "extension" ∧ ∃ text, value.string? = some text ∧
      later = { override with extension := some text }) := by
  unfold set? at set
  split at set
  all_goals first
    | cases set
    | obtain ⟨found, read, equal⟩ := Option.bind_eq_some_iff.mp set
      cases equal
      simp [read]

theorem view_of_ofToml? {α : Type} {view : Override → Option α} {name : String}
    {read : Toml → Option α}
    (sets : ∀ {override later : Override} {value}, override.set? name value = some later →
      view later = read value)
    (keeps : ∀ {override later : Override} {other value}, other ≠ name →
      override.set? other value = some later → view later = view override)
    (unset : view {} = none) {value : Toml} (keyed : value.Keyed) {override : Override}
    (isRead : ofToml? value = some override) :
    view override = (value.field? names name).bind read := by
  obtain ⟨fields, found, nodup, ran⟩ := fields_of_ofToml? keyed isRead
  rw [view_foldlM nodup ran sets keeps, Toml.field?, found, unset, Option.getD_some]
  cases fields.lookup name <;> rfl

theorem ofToml?_eq {value : Toml} (keyed : value.Keyed) {override : Override}
    (read : ofToml? value = some override) : override = described value := by
  have compile : override.compile = (described value).compile :=
    view_of_ofToml? (fun set => by grind [set?_cases set])
      (fun other set => by grind [set?_cases set]) rfl keyed read
  have execute : override.execute = (described value).execute :=
    view_of_ofToml? (fun set => by grind [set?_cases set])
      (fun other set => by grind [set?_cases set]) rfl keyed read
  have dependencies : override.dependencies = (described value).dependencies :=
    view_of_ofToml? (fun set => by grind [set?_cases set])
      (fun other set => by grind [set?_cases set]) rfl keyed read
  have extension : override.extension = (described value).extension :=
    view_of_ofToml? (fun set => by grind [set?_cases set])
      (fun other set => by grind [set?_cases set]) rfl keyed read
  cases override
  simp_all

end Override

namespace Config

def entries (members : Toml.Members) : Toml.Members :=
  match members.lookup "languages" with
  | some (.table _ entries) => entries
  | _ => []

def described (members : Toml.Members) : List (String × Override) :=
  (entries members).map fun entry => (entry.1, Override.described entry.2)

theorem sections_of_ofMembers? {members : Toml.Members} (nodup : (members.map Prod.fst).Nodup)
    {config : Config} (read : ofMembers? members = some config) :
    some config.sections = (members.lookup "languages").elim (some []) sectionsOf? := by
  let view (config : Config) := some config.sections
  have sets {state later : Config} {value : Toml} (set : state.set? ("languages", value) = some later) :
      view later = sectionsOf? value := by
    obtain ⟨sections, read, rfl⟩ := Option.map_eq_some_iff.mp set
    exact read.symm
  have keeps {state later : Config} {member : String × Toml} (other : member.1 ≠ "languages")
      (set : state.set? member = some later) : view later = view state := by
    rw [set?, if_neg other] at set
    split at set
    · obtain ⟨options, -, rfl⟩ := Option.map_eq_some_iff.mp set
      rfl
    · cases set
  exact view_foldlM nodup read sets keeps

theorem mapM_section? {members : Toml.Members} (keyed : Toml.KeyedMembers members)
    {sections : List (String × Override)} (read : members.mapM section? = some sections) :
    sections = members.map fun entry => (entry.1, Override.described entry.2) := by
  have values := keyed.values
  clear keyed
  induction members generalizing sections with
  | nil =>
    cases read
    rfl
  | cons member rest ih =>
    simp only [List.mapM_cons, Option.bind_eq_bind, Option.bind_eq_some_iff] at read
    obtain ⟨first, readFirst, others, readOthers, equal⟩ := read
    obtain ⟨override, readOverride, rfl⟩ := Option.map_eq_some_iff.mp readFirst
    cases equal
    rw [List.map_cons, ← ih readOthers fun other inside => values other (by simp [inside]),
      ← Override.ofToml?_eq (values member (by simp)) readOverride]

theorem sorted_mergeSort (sections : List (String × Override))
    (nodup : (sections.map Prod.fst).Nodup) :
    (sections.mergeSort fun left right => decide (left.1 ≤ right.1)).Pairwise
      fun left right => left.1 < right.1 := by
  let before (left right : String × Override) : Bool := decide (left.1 ≤ right.1)
  have perm : (sections.mergeSort before).Perm sections := List.mergeSort_perm sections before
  have sorted : (sections.mergeSort before).Pairwise fun left right => before left right :=
    List.pairwise_mergeSort
      (fun first second third => by simpa [before] using String.le_trans)
      (fun first second => by simpa [before] using String.le_total first.1 second.1) sections
  have apart := List.pairwise_map.mp ((perm.map Prod.fst).nodup_iff.mpr nodup)
  refine (sorted.and apart).imp fun both => String.not_le.mp fun back => ?_
  exact both.2 (String.le_antisymm (of_decide_eq_true both.1) back)

theorem sections_of_read {members : Toml.Members} (keyed : Toml.KeyedMembers members)
    {config : Config} (read : ofMembers? members = some config) :
    config.sections.Perm (described members) ∧
      config.sections.Pairwise fun left right => left.1 < right.1 := by
  have isRead := sections_of_ofMembers? keyed.nodup read
  cases found : members.lookup "languages" with
  | none =>
    rw [found, Option.elim_none, Option.some.injEq] at isRead
    simp [described, entries, found, isRead]
  | some value =>
    rw [found, Option.elim_some] at isRead
    cases value with
    | table origin entries =>
      have keyedEntries := Toml.keyed_table_iff.mp (keyed.lookup found)
      obtain ⟨sections, readSections, sorted⟩ := Option.map_eq_some_iff.mp isRead.symm
      have equal := mapM_section? keyedEntries readSections
      rw [described, Config.entries, found, ← equal, ← sorted]
      refine ⟨List.mergeSort_perm _ _, sorted_mergeSort sections ?_⟩
      rw [equal, List.map_map]
      exact keyedEntries.nodup
    | _ => cases isRead

theorem parse_eq_ok {text : String} {config : Config} (parsed : parse text = .ok config) :
    ∃ members, Toml.read? text.toList = some members ∧ ofMembers? members = some config ∧
      ∀ entry ∈ config.sections, ∃ language, Language.ofText? entry.1 = some language := by
  rw [parse] at parsed
  cases read : (Toml.read? text.toList).bind ofMembers? with
  | none =>
    rw [read] at parsed
    cases parsed
  | some found =>
    simp only [read, bind_eq_ok] at parsed
    obtain ⟨_, -, _, checked, equal⟩ := parsed
    cases equal
    obtain ⟨members, readMembers, isConfig⟩ := Option.bind_eq_some_iff.mp read
    refine ⟨members, readMembers, isConfig, fun entry member => ?_⟩
    unfold checkSections at checked
    split at checked
    · cases checked
    next none => simpa [Option.eq_none_iff_forall_ne_some] using List.find?_eq_none.mp none entry member

end Config

/-! ## The last section that sets a field -/

/-- What the last section about a language that sets a field sets it to, if there is one. -/
inductive LastSet {α : Type} (language : Language) (field : Override → Option α)
    (sections : List (String × Override)) : Option α → Prop where
  | unset (never : ∀ entry ∈ sections, language.Named entry.1 → field entry.2 = none) :
    LastSet language field sections none
  | set {before after : List (String × Override)} {entry : String × Override} {value : α}
    (split : sections = before ++ entry :: after) (named : language.Named entry.1)
    (sets : field entry.2 = some value)
    (last : ∀ later ∈ after, language.Named later.1 → field later.2 = none) :
    LastSet language field sections (some value)

namespace LastSet

variable {α : Type} {language : Language} {field : Override → Option α}
  {sections : List (String × Override)} {found : Option α} {entry : String × Override}

theorem skip (before : LastSet language field sections found)
    (silent : language.Named entry.1 → field entry.2 = none) :
    LastSet language field (sections ++ [entry]) found := by
  have extend {after : List (String × Override)}
      (quiet : ∀ later ∈ after, language.Named later.1 → field later.2 = none) :
      ∀ later ∈ after ++ [entry], language.Named later.1 → field later.2 = none := by
    intro later member
    rcases List.mem_append.mp member with inside | isEntry
    · exact quiet later inside
    · exact List.mem_singleton.mp isEntry ▸ silent
  cases before with
  | unset never => exact .unset (extend never)
  | @set before after setter value split named isSet last =>
    have splits : sections ++ [entry] = before ++ setter :: (after ++ [entry]) := by simp [split]
    exact .set splits named isSet (extend last)

theorem snoc (before : LastSet language field sections found) (entry : String × Override) :
    LastSet language field (sections ++ [entry])
      (if language.Named entry.1 then (field entry.2).or found else found) := by
  split
  next named =>
    cases isSet : field entry.2 with
    | none => exact before.skip fun _ => isSet
    | some value =>
      have splits : sections ++ [entry] = sections ++ entry :: [] := rfl
      exact .set splits named isSet (by simp)
  next other => exact before.skip fun named => absurd named other

end LastSet

namespace Toolchain

theorem view_foldl {α β : Type} (view : Toolchain → β) (field : Override → Option α) (use : α → β)
    (applied : ∀ toolchain override,
      view (apply toolchain override) = (field override).elim (view toolchain) use)
    (language : Language) (sections : List (String × Override)) (start : Toolchain) :
    ∃ found, LastSet language field sections found ∧
      view (sections.foldl (fun toolchain entry =>
        if Language.ofText? entry.1 = some language then toolchain.apply entry.2 else toolchain)
        start) = found.elim (view start) use := by
  -- The last section comes first in what it sets, so the induction is from that end.
  induction sections using List.reverseRecOn with
  | nil => exact ⟨none, .unset (by simp), rfl⟩
  | append_singleton sections entry ih =>
    obtain ⟨found, before, seen⟩ := ih
    refine ⟨_, before.snoc entry, ?_⟩
    rw [List.foldl_concat]
    simp only [Language.ofText?_eq_some_iff] at seen ⊢
    by_cases named : language.Named entry.1
    · rw [if_pos named, if_pos named, applied, seen]
      cases field entry.2 <;> rfl
    · rw [if_neg named, if_neg named, seen]

structure Bare (text bare : String) : Prop where
  dots : ∃ count, text.toList = List.replicate count '.' ++ bare.toList
  start : bare.toList.head? ≠ some '.'

theorem bare_of_bareExtension (text : String) : Bare text (bareExtension text) := by
  constructor
  · refine ⟨(text.toList.takeWhile (· = '.')).length, ?_⟩
    have dots : text.toList.takeWhile (· = '.') =
        List.replicate (text.toList.takeWhile (· = '.')).length '.' :=
      List.eq_replicate_of_mem fun c member => by
        simpa using List.all_eq_true.mp List.all_takeWhile c member
    rw [bareExtension, String.toList_ofList, ← dots, List.takeWhile_append_dropWhile]
  · rw [bareExtension, String.toList_ofList]
    intro first
    have kept := List.head?_dropWhile_not (· = '.') text.toList
    simp [first] at kept

/-- The toolchain of a language under some sections, with the last of them first in what it sets. -/
structure Overridden (language : Language) (sections : List (String × Override))
    (toolchain : Toolchain) : Prop where
  kept : toolchain.language = language ∧ toolchain.library = (builtin language).library
  compile : ∃ found, LastSet language Override.compile sections found ∧
    found.elim (toolchain.compile = (builtin language).compile) fun command =>
      toolchain.compile = none ∧ (∀ c ∈ command.toList, Text.isBlank c = true) ∨
        toolchain.compile = some command ∧ ∃ c ∈ command.toList, Text.isBlank c = false
  execute : ∃ found, LastSet language Override.execute sections found ∧
    toolchain.execute = found.getD (builtin language).execute
  dependencies : ∃ found, LastSet language Override.dependencies sections found ∧
    toolchain.dependencies = found.getD (builtin language).dependencies
  extension : ∃ found, LastSet language Override.extension sections found ∧
    found.elim (toolchain.extension = (builtin language).extension)
      fun text => Bare text toolchain.extension

end Toolchain

namespace Config

variable (config : Config) (language : Language)

theorem view_toolchain {β : Type} (view : Toolchain → β)
    (kept : ∀ toolchain override, view (Toolchain.apply toolchain override) = view toolchain) :
    view (config.toolchain language) = view (.builtin language) := by
  obtain ⟨found, -, seen⟩ := Toolchain.view_foldl view (fun _ => (none : Option Empty)) Empty.elim
    kept language config.sections (.builtin language)
  cases found with
  | none => exact seen
  | some value => exact value.elim

theorem toolchain_overridden :
    Toolchain.Overridden language config.sections (config.toolchain language) where
  kept := by
    have sameLanguage := view_toolchain config language Toolchain.language fun _ _ => rfl
    have sameLibrary := view_toolchain config language Toolchain.library fun _ _ => rfl
    exact ⟨sameLanguage.trans (by cases language <;> rfl), sameLibrary⟩
  compile := by
    have apply (toolchain : Toolchain) (override : Override) : (toolchain.apply override).compile =
        override.compile.elim toolchain.compile Toolchain.compileCommand := by
      cases set : override.compile <;> simp [Toolchain.apply, set]
    obtain ⟨found, last, seen⟩ := Toolchain.view_foldl Toolchain.compile Override.compile
      Toolchain.compileCommand apply language config.sections (.builtin language)
    refine ⟨found, last, ?_⟩
    cases found with
    | none => exact seen
    | some command =>
      rw [Option.elim_some, Toolchain.compileCommand] at seen
      split at seen
      next blank => exact .inl ⟨seen, List.all_eq_true.mp blank⟩
      next told => exact .inr ⟨seen, by simpa using told⟩
  execute := by
    obtain ⟨found, last, seen⟩ := Toolchain.view_foldl Toolchain.execute Override.execute id
      (fun _ override => by cases set : override.execute <;> simp [Toolchain.apply, set])
      language config.sections (.builtin language)
    exact ⟨found, last, seen.trans (by cases found <;> rfl)⟩
  dependencies := by
    obtain ⟨found, last, seen⟩ := Toolchain.view_foldl Toolchain.dependencies Override.dependencies id
      (fun _ override => by cases set : override.dependencies <;> simp [Toolchain.apply, set])
      language config.sections (.builtin language)
    exact ⟨found, last, seen.trans (by cases found <;> rfl)⟩
  extension := by
    obtain ⟨found, last, seen⟩ := Toolchain.view_foldl Toolchain.extension Override.extension
      Toolchain.bareExtension
      (fun _ override => by cases set : override.extension <;> simp [Toolchain.apply, set])
      language config.sections (.builtin language)
    refine ⟨found, last, ?_⟩
    cases found with
    | none => exact seen
    | some text => exact seen ▸ Toolchain.bare_of_bareExtension text

theorem toolchain_eq_filter :
    config.toolchain language =
      (config.sections.filter fun entry => decide (language.Named entry.1)).foldl
        (fun toolchain entry => toolchain.apply entry.2) (.builtin language) := by
  rw [toolchain, List.foldl_filter]
  simp only [Language.ofText?_eq_some_iff, decide_eq_true_eq]

variable {config language}

theorem toolchain_congr {other : Config}
    (sorted : config.sections.Pairwise fun left right => left.1 < right.1)
    (sortedOther : other.sections.Pairwise fun left right => left.1 < right.1)
    (agree : ∀ entry, language.Named entry.1 → (entry ∈ config.sections ↔ entry ∈ other.sections)) :
    config.toolchain language = other.toolchain language := by
  let about (entry : String × Override) : Bool := decide (language.Named entry.1)
  have nodup {sections : List (String × Override)}
      (sorted : sections.Pairwise fun left right => left.1 < right.1) :
      (sections.filter about).Nodup := by
    refine List.Pairwise.filter about (sorted.imp ?_)
    intro left right less equal
    exact String.lt_irrefl _ (equal ▸ less)
  have perm : (config.sections.filter about).Perm (other.sections.filter about) := by
    rw [List.perm_ext_iff_of_nodup (nodup sorted) (nodup sortedOther)]
    intro entry
    by_cases named : language.Named entry.1
    · simp [about, named, agree entry named]
    · simp [about, named]
  have same : config.sections.filter about = other.sections.filter about :=
    perm.eq_of_pairwise
      (fun _ _ _ _ less back => absurd (String.lt_trans less back) (String.lt_irrefl _))
      (sorted.filter about) (sortedOther.filter about)
  rw [toolchain_eq_filter, toolchain_eq_filter, same]

/-- What the sections of a configuration are: those of its document, one for each key, in the order of
their octets, each about one language. -/
structure Sectioned (config : Config) (members : Toml.Members) : Prop where
  perm : config.sections.Perm (described members)
  sorted : config.sections.Pairwise fun left right =>
    Text.Utf8.encode left.1.toList < Text.Utf8.encode right.1.toList
  one : ∀ entry ∈ config.sections, ∃! language : Language, language.Named entry.1

theorem sectioned_of_parse {text : String} (parsed : parse text = .ok config) :
    ∃ members, Toml.read? text.toList = some members ∧ config.Sectioned members ∧
      config.sections.Pairwise fun left right => left.1 < right.1 := by
  obtain ⟨members, read, isConfig, named⟩ := parse_eq_ok parsed
  obtain ⟨perm, sorted⟩ := sections_of_read (Toml.read?_keyed read) isConfig
  have one : ∀ entry ∈ config.sections, ∃! language : Language, language.Named entry.1 := by
    intro entry member
    obtain ⟨language, found⟩ := named entry member
    have isNamed := Language.ofText?_eq_some_iff.mp found
    exact ⟨language, isNamed, fun other isOther => Language.eq_of_mem_names isOther isNamed⟩
  have octets : ∀ entry ∈ config.sections, Text.Utf8.encode entry.1.toList = entry.1.toList := by
    intro entry member
    obtain ⟨language, isNamed, -⟩ := one entry member
    exact isNamed.encode
  refine ⟨members, read, ⟨perm, ?_, one⟩, sorted⟩
  refine sorted.imp_of_mem fun inLeft inRight less => ?_
  rw [octets _ inLeft, octets _ inRight]
  exact less

/-- A field has what the last section about its language sets it to, in the order of the keys, and
what other sections there are and how the document orders them is without effect. -/
theorem toolchain_last_set {text : String} (parsed : parse text = .ok config) :
    ∃ members, Toml.read? text.toList = some members ∧ config.Sectioned members ∧
      ∀ language, Toolchain.Overridden language config.sections (config.toolchain language) ∧
        ∀ {otherText : String} {other : Config} {otherMembers : Toml.Members},
          parse otherText = .ok other → Toml.read? otherText.toList = some otherMembers →
          (∀ entry, language.Named entry.1 →
            (entry ∈ entries members ↔ entry ∈ entries otherMembers)) →
          other.toolchain language = config.toolchain language := by
  obtain ⟨members, read, sectioned, sorted⟩ := sectioned_of_parse parsed
  refine ⟨members, read, sectioned, fun language => ⟨toolchain_overridden config language, ?_⟩⟩
  intro otherText other otherMembers parsedOther readOther agree
  obtain ⟨_, readAgain, sectionedOther, sortedOther⟩ := sectioned_of_parse parsedOther
  cases readOther.symm.trans readAgain
  refine toolchain_congr sortedOther sorted fun found named => ?_
  rw [sectioned.perm.mem_iff, sectionedOther.perm.mem_iff, described, described, List.mem_map,
    List.mem_map]
  constructor
  · rintro ⟨entry, member, rfl⟩
    exact ⟨entry, (agree entry named).mpr member, rfl⟩
  · rintro ⟨entry, member, rfl⟩
    exact ⟨entry, (agree entry named).mp member, rfl⟩

/-- Three spellings of a language, with a command that is switched off and on again. -/
def spellings : String :=
  "[languages]\njs.compile='tsc'\njavascript=\x7bcompile=' ',extension='..mjs'\x7d\n" ++
    "JS.extension='jsx'\ngo.execute='go'"

theorem parse_spellings :
    parse spellings = .ok
      { sections := [
        ("JS", { extension := some "jsx" }),
        ("go", { execute := some "go" }),
        ("javascript", { compile := some " ", extension := some "..mjs" }),
        ("js", { compile := some "tsc" })] } := by
  have found : (Toml.read? spellings.toList).map (fun members =>
      (members.map Prod.fst, (entries members).mapM section?)) =
      some (["languages"], some [
        ("js", { compile := some "tsc" }),
        ("javascript", { compile := some " ", extension := some "..mjs" }),
        ("JS", { extension := some "jsx" }),
        ("go", { execute := some "go" })]) := by
    decide +kernel
  obtain ⟨members, read, found⟩ := Option.map_eq_some_iff.mp found
  obtain ⟨alone, found⟩ := Prod.ext_iff.mp found
  obtain ⟨⟨key, value⟩, rfl, rfl⟩ := List.map_eq_singleton_iff.mp alone
  cases value with
  | table origin members =>
    have isRead : sectionsOf? (.table origin members) = _ := congrArg (Option.map _) found
    simp [List.mergeSort] at isRead
    simp only [parse, read, ofMembers?, Option.bind_some, List.foldlM_cons, set?, String.reduceEq,
      ↓reduceIte, isRead, Option.map_some, List.foldlM_nil, Option.pure_def, Option.bind_eq_bind]
    rfl
  | _ => cases found

theorem toolchain_last_set_spellings :
    ∃ config, parse spellings = .ok config ∧
      config.sections.map Prod.fst = ["JS", "go", "javascript", "js"] ∧
      (config.toolchain .javaScript).compile = some "tsc" ∧
      (config.toolchain .javaScript).extension = "mjs" ∧
      Toolchain.Overridden .javaScript config.sections (config.toolchain .javaScript) := by
  obtain ⟨members, -, -, overridden⟩ := toolchain_last_set parse_spellings
  exact ⟨_, parse_spellings, by decide, by decide +kernel, by decide +kernel,
    (overridden .javaScript).1⟩

end Config

end Modelsmith
