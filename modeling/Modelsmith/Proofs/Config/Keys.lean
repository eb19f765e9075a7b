import Mathlib.Data.List.Nodup
import Modelsmith.Config.Toml

/-! No table of a document has a key twice, however deep it lies and in whatever way it came about. -/

set_option autoImplicit false

namespace Modelsmith.Toml

/-- Every table in a value has each key once. -/
inductive Keyed : Toml → Prop where
  | string (text : String) : Keyed (.string text)
  | integer (value : Int) : Keyed (.integer value)
  | boolean (value : Bool) : Keyed (.boolean value)
  | other : Keyed .other
  | array {items : List Toml} : (∀ item ∈ items, Keyed item) → Keyed (.array items)
  | table {origin : Origin} {members : Members} : (members.map Prod.fst).Nodup →
      (∀ member ∈ members, Keyed member.2) → Keyed (.table origin members)
  | tables {rows : List Members} : (∀ row ∈ rows, (row.map Prod.fst).Nodup) →
      (∀ row ∈ rows, ∀ member ∈ row, Keyed member.2) → Keyed (.tables rows)

structure KeyedMembers (members : Members) : Prop where
  nodup : (members.map Prod.fst).Nodup
  values : ∀ member ∈ members, Keyed member.2

def KeyedRows (rows : List Members) : Prop := ∀ row ∈ rows, KeyedMembers row

theorem keyed_table_iff {origin : Origin} {members : Members} :
    Keyed (.table origin members) ↔ KeyedMembers members := by
  constructor
  · rintro (_ | _ | _ | _ | _ | ⟨nodup, values⟩ | _)
    exact ⟨nodup, values⟩
  · exact fun keyed => .table keyed.nodup keyed.values

theorem keyed_tables_iff {rows : List Members} : Keyed (.tables rows) ↔ KeyedRows rows := by
  constructor
  · rintro (_ | _ | _ | _ | _ | _ | ⟨nodup, values⟩) row member
    exact ⟨nodup row member, values row member⟩
  · exact fun keyed => .tables (fun row member => (keyed row member).nodup)
      fun row member => (keyed row member).values

/-! ## Members -/

namespace KeyedMembers

variable {members : Members} {key : String} {value : Toml}

theorem nil : KeyedMembers [] := ⟨List.nodup_nil, by simp⟩

theorem lookup (keyed : KeyedMembers members) (found : members.lookup key = some value) :
    Keyed value := by
  obtain ⟨before, after, rfl, -⟩ := List.lookup_eq_some_iff.mp found
  exact keyed.values (key, value) (by simp)

theorem append (keyed : KeyedMembers members) (absent : members.lookup key = none)
    (isKeyed : Keyed value) : KeyedMembers (members ++ [(key, value)]) where
  nodup := by
    rw [List.map_append, List.map_singleton]
    refine keyed.nodup.append (List.nodup_singleton key) fun other inside isKey => ?_
    rw [List.mem_singleton.mp isKey] at inside
    obtain ⟨member, among, same⟩ := List.mem_map.mp inside
    have differs := List.lookup_eq_none_iff.mp absent member among
    simp [same] at differs
  values member inside := by
    rcases List.mem_append.mp inside with old | new
    · exact keyed.values member old
    · rw [List.mem_singleton.mp new]
      exact isKeyed

theorem replace (keyed : KeyedMembers members) (isKeyed : Keyed value) :
    KeyedMembers (replace members key value) where
  nodup := by
    have same : (Toml.replace members key value).map Prod.fst = members.map Prod.fst := by
      rw [Toml.replace, List.map_map]
      refine List.map_congr_left fun member _ => ?_
      by_cases isKey : member.1 = key <;> simp [isKey]
    rw [same]
    exact keyed.nodup
  values member inside := by
    obtain ⟨before, among, rfl⟩ := List.mem_map.mp inside
    split
    · exact isKeyed
    · exact keyed.values before among

theorem filter (keyed : KeyedMembers members) (keep : String × Toml → Bool) :
    KeyedMembers (members.filter keep) where
  nodup := keyed.nodup.sublist (List.filter_sublist.map _)
  values member inside := keyed.values member (List.mem_filter.mp inside).1

end KeyedMembers

/-! ## Changes -/

/-- A change of members that keeps the keys apart. -/
def KeepsKeys (update : Members → Option Members) : Prop :=
  ∀ {members changed}, KeyedMembers members → update members = some changed → KeyedMembers changed

theorem modifyAt_keepsKeys {dotted : Bool} {update : Origin → Members → Option Members}
    (keeps : ∀ origin, KeepsKeys (update origin)) (path : List String) (origin : Origin) :
    KeepsKeys (modifyAt dotted update path origin) := by
  induction path generalizing origin with
  | nil => exact keeps origin
  | cons key path ih =>
    intro members changed keyed modified
    rw [modifyAt] at modified
    split at modified
    · rename_i absent
      simp only [Option.bind_eq_bind, Option.bind_eq_some_iff] at modified
      obtain ⟨inner, below, same⟩ := modified
      cases same
      exact keyed.append absent (keyed_table_iff.mpr (ih _ .nil below))
    · rename_i own inner found
      split at modified
      · cases modified
      simp only [Option.bind_eq_bind, Option.bind_eq_some_iff] at modified
      obtain ⟨later, below, same⟩ := modified
      cases same
      have isKeyed := keyed_table_iff.mp (keyed.lookup found)
      exact keyed.replace (keyed_table_iff.mpr (ih _ isKeyed below))
    · rename_i rows found
      simp only [Option.bind_eq_bind, Option.bind_eq_some_iff] at modified
      obtain ⟨last, isLast, later, below, same⟩ := modified
      cases same
      have isKeyed := keyed_tables_iff.mp (keyed.lookup found)
      refine keyed.replace (keyed_tables_iff.mpr fun row member => ?_)
      rcases List.mem_append.mp member with old | new
      · exact isKeyed row ((List.dropLast_sublist rows).subset old)
      · rw [List.mem_singleton.mp new]
        exact ih _ (isKeyed last (List.mem_of_getLast? isLast)) below
    · cases modified

theorem addMember_keepsKeys {key : String} {value : Toml} (isKeyed : Keyed value) :
    KeepsKeys (addMember key value) := by
  intro members changed keyed added
  rw [addMember] at added
  split at added
  · cases added
  · rename_i absent
    cases added
    exact keyed.append (Option.not_isSome_iff_eq_none.mp absent) isKeyed

theorem addDotted_keepsKeys {path : List String} {key : String} {value : Toml}
    (isKeyed : Keyed value) : KeepsKeys (addDotted path key value) := by
  refine modifyAt_keepsKeys (fun origin members changed keyed added => ?_) path .header
  split at added
  · cases added
  · exact addMember_keepsKeys isKeyed keyed added

/-! ## Documents while they are read -/

structure KeyedDraft (draft : Draft) : Prop where
  root : KeyedMembers draft.root
  opened : KeyedMembers draft.opened

namespace KeyedDraft

variable {draft : Draft}

theorem finish (keyed : KeyedDraft draft) {members : Members}
    (finished : draft.finish = some members) : KeyedMembers members := by
  rw [Draft.finish] at finished
  split at finished
  · cases finished
    exact keyed.opened
  · rename_i key _
    refine modifyAt_keepsKeys (fun origin inner changed isKeyed put => ?_) _ _ keyed.root finished
    split at put
    · rename_i rows found
      split at put
      · cases put
        refine isKeyed.replace (keyed_tables_iff.mpr fun row member => ?_)
        rcases List.mem_append.mp member with old | new
        · exact keyed_tables_iff.mp (isKeyed.lookup found) row old
        · rw [List.mem_singleton.mp new]
          exact keyed.opened
      · cases put
    · cases put
    · rename_i absent
      cases put
      refine isKeyed.append absent ?_
      split
      · refine keyed_tables_iff.mpr fun row member => ?_
        rw [List.mem_singleton.mp member]
        exact keyed.opened
      · exact keyed_table_iff.mpr keyed.opened

end KeyedDraft

theorem KeyedMembers.lookupAt {path : List String} {members : Members} {value : Toml}
    (keyed : KeyedMembers members) (found : Draft.openTable.lookupAt path members = some value) :
    Keyed value := by
  induction path generalizing members with
  | nil => cases found
  | cons key path ih =>
    cases path with
    | nil => exact keyed.lookup found
    | cons next path =>
      rw [Draft.openTable.lookupAt] at found
      split at found
      · rename_i inner isInner
        exact ih (keyed_table_iff.mp (keyed.lookup isInner)) found
      · rename_i rows isRows
        obtain ⟨last, isLast, below⟩ := Option.bind_eq_some_iff.mp found
        have isKeyed := keyed_tables_iff.mp (keyed.lookup isRows)
        exact ih (isKeyed last (List.mem_of_getLast? isLast)) below
      · cases found
      · simp

namespace KeyedDraft

variable {draft later : Draft} {path : List String}

theorem parents (keyed : KeyedDraft draft) {root parent : Members}
    (finished : draft.finish = some root)
    (made : modifyAt false (fun _ inner => some inner) path .header root = some parent) :
    KeyedMembers parent :=
  modifyAt_keepsKeys (fun _ _ _ isKeyed same => by cases same; exact isKeyed) path .header
    (keyed.finish finished) made

theorem openTable (keyed : KeyedDraft draft) (opened : draft.openTable path = some later) :
    KeyedDraft later := by
  simp only [Draft.openTable, Option.bind_eq_bind, Option.bind_eq_some_iff] at opened
  obtain ⟨root, finished, key, -, parent, made, found⟩ := opened
  have isKeyed := keyed.parents finished made
  split at found
  · cases found
    exact ⟨isKeyed, .nil⟩
  · rename_i inner isInner
    obtain ⟨rest, dropped, same⟩ := Option.bind_eq_some_iff.mp found
    cases same
    refine ⟨modifyAt_keepsKeys (fun _ outer changed isOuter filtered => ?_) _ _ isKeyed dropped,
      keyed_table_iff.mp (isKeyed.lookupAt isInner)⟩
    cases filtered
    exact isOuter.filter _
  · cases found

theorem openRow (keyed : KeyedDraft draft) (opened : draft.openRow path = some later) :
    KeyedDraft later := by
  simp only [Draft.openRow, Option.bind_eq_bind, Option.bind_eq_some_iff] at opened
  obtain ⟨root, finished, parent, made, found⟩ := opened
  have isKeyed := keyed.parents finished made
  split at found
  · cases found
    exact ⟨isKeyed, .nil⟩
  · cases found
    exact ⟨isKeyed, .nil⟩
  · cases found

end KeyedDraft

/-! ## Reading -/

theorem readWord?_keyed {input rest : List Char} {value : Toml}
    (found : readWord? input = some (value, rest)) : Keyed value := by
  rw [readWord?] at found
  split at found
  · cases found
    exact .boolean true
  split at found
  · cases found
    exact .boolean false
  split at found
  · split at found
    · cases found
      exact .integer _
    · cases found
  split at found
  · cases found
    exact .other
  split at found
  · obtain ⟨_, -, same⟩ := Option.map_eq_some_iff.mp found
    cases same
    exact .other
  · cases found

/-- What a reader of values with so much fuel gives. -/
structure ReadsKeyed (fuel : Nat) : Prop where
  value : ∀ {levels input value rest}, readValue? levels fuel input = some (value, rest) → Keyed value
  items : ∀ {levels input items rest}, readItems? levels fuel input = some (items, rest) →
    ∀ item ∈ items, Keyed item
  pairs : ∀ {levels members input later rest}, KeyedMembers members →
    readPairs? levels fuel members input = some (later, rest) → KeyedMembers later

theorem readsKeyed (fuel : Nat) : ReadsKeyed fuel := by
  -- The three readers call one another with less fuel, so one induction serves all of them.
  induction fuel with
  | zero =>
    refine ⟨fun found => ?_, fun found => ?_, fun _ found => ?_⟩
    · rw [readValue?] at found
      cases found
    · rw [readItems?] at found
      cases found
    · rw [readPairs?] at found
      cases found
  | succ fuel ih =>
    refine ⟨fun {levels input value rest} found => ?_, fun {levels input items rest} found => ?_,
      fun {levels members input later rest} keyed found => ?_⟩
    · unfold readValue? at found
      split at found
      · split at found
        · cases found
        obtain ⟨read, inside, same⟩ := Option.map_eq_some_iff.mp found
        cases same
        exact .array (ih.items inside)
      · split at found
        · cases found
        split at found
        · cases found
          exact keyed_table_iff.mpr .nil
        · obtain ⟨read, inside, same⟩ := Option.map_eq_some_iff.mp found
          cases same
          exact keyed_table_iff.mpr (ih.pairs .nil inside)
      · split at found
        · obtain ⟨read, -, same⟩ := Option.map_eq_some_iff.mp found
          cases same
          exact .string _
        · exact readWord?_keyed found
      · cases found
    · rw [readItems?] at found
      split at found
      · cases found
        simp
      split at found
      · cases found
      rename_i first behind isFirst
      have isKeyed := ih.value isFirst
      split at found
      · cases found
        simpa using isKeyed
      · obtain ⟨read, others, same⟩ := Option.map_eq_some_iff.mp found
        cases same
        exact List.forall_mem_cons.mpr ⟨isKeyed, ih.items others⟩
      · cases found
    · rw [readPairs?] at found
      split at found
      · split at found
        · cases found
        rename_i value behind isValue
        split at found
        · cases found
        rename_i more added
        have isKeyed := addDotted_keepsKeys (ih.value isValue) keyed added
        split at found
        · cases found
          exact isKeyed
        · exact ih.pairs isKeyed found
        · cases found
      · cases found

theorem KeyedDraft.readLine? {draft later : Draft} {input rest : List Char}
    (keyed : KeyedDraft draft) (found : Toml.readLine? draft input = some (later, rest)) :
    KeyedDraft later := by
  rw [Toml.readLine?] at found
  split at found
  · obtain ⟨⟨path, behind⟩, -, header⟩ := Option.bind_eq_some_iff.mp found
    simp only at header
    split at header
    · obtain ⟨row, opened, ended⟩ := Option.bind_eq_some_iff.mp header
      obtain ⟨_, -, same⟩ := Option.bind_eq_some_iff.mp ended
      cases same
      exact keyed.openRow opened
    · cases header
  · obtain ⟨⟨path, behind⟩, -, header⟩ := Option.bind_eq_some_iff.mp found
    simp only at header
    split at header
    · obtain ⟨table, opened, ended⟩ := Option.bind_eq_some_iff.mp header
      obtain ⟨_, -, same⟩ := Option.bind_eq_some_iff.mp ended
      cases same
      exact keyed.openTable opened
    · cases header
  · split at found
    · cases found
      exact keyed
    · obtain ⟨⟨parts, behind⟩, -, pair⟩ := Option.bind_eq_some_iff.mp found
      simp only at pair
      split at pair
      · obtain ⟨⟨value, after⟩, isValue, added⟩ := Option.bind_eq_some_iff.mp pair
        obtain ⟨opened, changed, ended⟩ := Option.bind_eq_some_iff.mp added
        obtain ⟨_, -, same⟩ := Option.bind_eq_some_iff.mp ended
        cases same
        have isKeyed := (readsKeyed _).value isValue
        exact ⟨keyed.root, addDotted_keepsKeys isKeyed keyed.opened changed⟩
      · cases pair

theorem KeyedDraft.readLines? {fuel : Nat} {draft later : Draft} {input : List Char}
    (keyed : KeyedDraft draft) (found : Toml.readLines? fuel draft input = some later) :
    KeyedDraft later := by
  induction fuel generalizing draft input with
  | zero =>
    cases input with
    | nil =>
      cases found
      exact keyed
    | cons c input => cases found
  | succ fuel ih =>
    cases input with
    | nil =>
      cases found
      exact keyed
    | cons c input =>
      obtain ⟨line, read, others⟩ := Option.bind_eq_some_iff.mp found
      exact ih (keyed.readLine? read) others

theorem read?_keyed {input : List Char} {members : Members} (found : read? input = some members) :
    KeyedMembers members := by
  obtain ⟨draft, lines, finished⟩ := Option.bind_eq_some_iff.mp found
  exact (KeyedDraft.readLines? ⟨.nil, .nil⟩ lines).finish finished

end Modelsmith.Toml
