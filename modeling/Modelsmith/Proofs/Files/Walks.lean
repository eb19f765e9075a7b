import Modelsmith.Files.System
import Modelsmith.Proofs.Files.Paths

/-! Walks along a path, step by step. `Walk` says which steps lead to a spot, and `follow` finds it
exactly when there is such a walk. -/

set_option autoImplicit false

namespace Modelsmith.Files

/-- A name that can stand for an entry of a directory. -/
def IsEntryName (name : String) : Prop :=
  name ≠ "." ∧ name ≠ ".." ∧ name.utf8ByteSize ≤ nameLimit

def kindAt (files : Files) (location : Location) (name : String) : Option Kind :=
  (files.get? (location ++ [name])).map Node.kind

/-- The steps of a path from a location to a spot, through at most so many links. -/
inductive Walk (files : Files) (last : Bool) :
    (links : Nat) → (slash : Bool) → Location → List String → Spot → Prop where
  | stay {links : Nat} {slash : Bool} {location : Location} :
      Walk files last links slash location [] ⟨location, .root, slash⟩
  | here {links : Nat} {slash : Bool} {location : Location} :
      files.canSearch location = true →
      Walk files last links slash location ["."] ⟨location, .here, slash⟩
  | above {links : Nat} {slash : Bool} {location : Location} :
      files.canSearch location = true →
      Walk files last links slash location [".."] ⟨location, .above, slash⟩
  | entry {links : Nat} {slash : Bool} {location : Location} {name : String} :
      files.canSearch location = true → IsEntryName name →
      (last = true → ∀ target, files.kindAt location name ≠ some (.link target)) →
      Walk files last links slash location [name] ⟨location, .named name, slash⟩
  | lastLink {links : Nat} {slash : Bool} {location : Location} {name target : String}
      {spot : Spot} :
      files.canSearch location = true → IsEntryName name → last = true →
      files.kindAt location name = some (.link target) →
      Walk files last links (slash || Path.endsInSlash target) (linkStart location target)
        (Path.names target) spot →
      Walk files last (links + 1) slash location [name] spot
  | skip {links : Nat} {slash : Bool} {location : Location} {next : String} {rest : List String}
      {spot : Spot} :
      files.canSearch location = true →
      Walk files last links slash location (next :: rest) spot →
      Walk files last links slash location ("." :: next :: rest) spot
  | up {links : Nat} {slash : Bool} {location : Location} {next : String} {rest : List String}
      {spot : Spot} :
      files.canSearch location = true →
      Walk files last links slash location.dropLast (next :: rest) spot →
      Walk files last links slash location (".." :: next :: rest) spot
  | down {links : Nat} {slash : Bool} {location : Location} {name next : String}
      {rest : List String} {spot : Spot} :
      files.canSearch location = true → IsEntryName name →
      files.kindAt location name = some .directory →
      Walk files last links slash (location ++ [name]) (next :: rest) spot →
      Walk files last links slash location (name :: next :: rest) spot
  | link {links : Nat} {slash : Bool} {location : Location} {name next target : String}
      {rest : List String} {spot : Spot} :
      files.canSearch location = true → IsEntryName name →
      files.kindAt location name = some (.link target) →
      Walk files last links slash (linkStart location target) (Path.names target ++ next :: rest)
        spot →
      Walk files last (links + 1) slash location (name :: next :: rest) spot

def jump (files : Files) (last : Bool) : Nat → Bool → Location → List String →
    Except FileFault Spot
  | 0, _, _, _ => .error .linkLoop
  | links + 1, slash, location, names => files.follow last links slash location names

theorem follow_eq (files : Files) (last : Bool) (links : Nat) (slash : Bool) (location : Location)
    (names : List String) :
    files.follow last links slash location names =
      files.followWith (files.jump last links) last slash location names := by
  cases links <;> rfl

theorem isEntryName_of_not {name : String} (noDot : ¬ name = ".") (noDots : ¬ name = "..")
    (short : ¬ nameLimit < name.utf8ByteSize) : IsEntryName name :=
  ⟨noDot, noDots, Nat.le_of_not_lt short⟩

theorem walk_of_followWith {files : Files} {last : Bool} {links : Nat} {slash : Bool}
    {location : Location} {names : List String} {spot : Spot}
    (jumps : ∀ {before slash location names}, links = before + 1 →
      files.follow last before slash location names = .ok spot →
      Walk files last before slash location names spot)
    (found : files.followWith (files.jump last links) last slash location names = .ok spot) :
    Walk files last links slash location names spot := by
  induction names generalizing location with
  | nil =>
    cases found
    exact .stay
  | cons name rest ih =>
    -- Only a link at the last name may stay unfollowed.
    cases rest with
    | nil =>
      rw [followWith] at found
      split at found
      · cases found
      rename_i searched
      rw [Bool.not_eq_true', Bool.not_eq_false] at searched
      split at found
      · cases found
        subst name
        exact .here searched
      split at found
      · cases found
        subst name
        exact .above searched
      split at found
      · cases found
      have named : IsEntryName name := isEntryName_of_not ‹_› ‹_› ‹_›
      rw [← kindAt] at found
      split at found
      · rename_i target isLink
        split at found
        · cases links with
          | zero => cases found
          | succ links => exact .lastLink searched named ‹_› isLink (jumps rfl found)
        · cases found
          exact .entry searched named fun follows => absurd follows ‹_›
      · rename_i noLink
        cases found
        exact .entry searched named fun _ => noLink
    | cons next rest =>
      rw [followWith] at found
      split at found
      · cases found
      rename_i searched
      rw [Bool.not_eq_true', Bool.not_eq_false] at searched
      split at found
      · subst name
        exact .skip searched (ih found)
      split at found
      · subst name
        exact .up searched (ih found)
      split at found
      · cases found
      have named : IsEntryName name := isEntryName_of_not ‹_› ‹_› ‹_›
      rw [← kindAt] at found
      split at found
      · exact .down searched named ‹_› (ih found)
      · rename_i target isLink
        cases links with
        | zero => cases found
        | succ links => exact .link searched named isLink (jumps rfl found)
      · cases found
      · cases found

section

variable {files : Files} {last slash : Bool} {location : Location} {name : String}
  (jump : Bool → Location → List String → Except FileFault Spot)
  (searched : files.canSearch location = true) (named : IsEntryName name)
include searched named

theorem followWith_last :
    files.followWith jump last slash location [name] =
      match files.kindAt location name with
      | some (.link target) =>
        if last then
          jump (slash || Path.endsInSlash target) (linkStart location target) (Path.names target)
        else .ok ⟨location, .named name, slash⟩
      | _ => .ok ⟨location, .named name, slash⟩ := by
  obtain ⟨noDot, noDots, short⟩ := named
  simp only [followWith, searched, noDot, noDots, Nat.not_lt.mpr short, if_false, Bool.not_true,
    Bool.false_eq_true]
  rfl

theorem followWith_next (next : String) (rest : List String) :
    files.followWith jump last slash location (name :: next :: rest) =
      match files.kindAt location name with
      | some .directory => files.followWith jump last slash (location ++ [name]) (next :: rest)
      | some (.link target) =>
        jump slash (linkStart location target) (Path.names target ++ next :: rest)
      | some _ => .error .notDirectory
      | none => .error .notFound := by
  obtain ⟨noDot, noDots, short⟩ := named
  simp only [followWith, searched, noDot, noDots, Nat.not_lt.mpr short, if_false, Bool.not_true,
    Bool.false_eq_true]
  rfl

end

theorem follow_eq_ok_iff {files : Files} {last : Bool} {links : Nat} {slash : Bool}
    {location : Location} {names : List String} {spot : Spot} :
    files.follow last links slash location names = .ok spot ↔
      Walk files last links slash location names spot := by
  constructor
  · intro found
    induction links generalizing slash location names with
    | zero => exact walk_of_followWith (fun same _ => absurd same (by omega)) found
    | succ links ih =>
      refine walk_of_followWith (fun same found => ?_) found
      cases same
      exact ih found
  · intro walk
    rw [follow_eq]
    induction walk with
    | stay => rfl
    | here searched => simp [followWith, searched]
    | above searched => simp [followWith, searched]
    | entry searched named noLink =>
      rw [followWith_last _ searched named]
      split
      · rw [if_neg fun follows => noLink follows _ ‹_›]
      · rfl
    | lastLink searched named follows isLink _ ih =>
      rw [followWith_last _ searched named, isLink]
      simpa only [if_pos follows, jump, follow_eq] using ih
    | skip searched _ ih => simpa [followWith, searched] using ih
    | up searched _ ih => simpa [followWith, searched] using ih
    | down searched named isDirectory _ ih =>
      rw [followWith_next _ searched named, isDirectory]
      exact ih
    | link searched named isLink _ ih =>
      rw [followWith_next _ searched named, isLink]
      simpa only [jump, follow_eq] using ih

def IsPathText (path : String) : Prop :=
  '\x00' ∉ path.toList ∧ path ≠ "" ∧ path.utf8ByteSize < pathLimit

theorem spot_eq_ok_iff {files : Files} {last : Bool} {path : String} {spot : Spot} :
    files.spot last path = .ok spot ↔
      IsPathText path ∧ Walk files last linkLimit (Path.endsInSlash path) (files.start path)
        (Path.names path) spot := by
  rw [← follow_eq_ok_iff, Files.spot, IsPathText]
  by_cases nul : '\x00' ∈ path.toList
  · simp [nul, Bind.bind, Except.bind, throw, throwThe, MonadExceptOf.throw]
  by_cases empty : path = ""
  · simp [empty, Bind.bind, Except.bind, throw, throwThe, MonadExceptOf.throw]
  by_cases long : pathLimit ≤ path.utf8ByteSize
  · simp [nul, empty, Nat.not_lt.mpr long, long, Bind.bind, Except.bind, throw, throwThe,
      MonadExceptOf.throw]
  · simp [nul, empty, Nat.lt_of_not_le long, long]

section
variable {files : Files} {last : Bool} {links : Nat} {slash : Bool} {location : Location}
  {names : List String} {spot : Spot}

theorem Walk.follow_last
    (noLink : ∀ node, files.get? spot.location = some node → node.isLink = false)
    (walk : Walk files false links slash location names spot) :
    Walk files true links slash location names spot := by
  induction walk with
  | stay => exact .stay
  | here searched => exact .here searched
  | above searched => exact .above searched
  | entry searched named _ =>
    refine .entry searched named fun _ target isLink => ?_
    rw [kindAt, Option.map_eq_some_iff] at isLink
    obtain ⟨node, found, isKind⟩ := isLink
    have neither := noLink node found
    rw [Node.isLink, isKind] at neither
    cases neither
  | lastLink _ _ follows => cases follows
  | skip searched _ ih => exact .skip searched (ih noLink)
  | up searched _ ih => exact .up searched (ih noLink)
  | down searched named isDirectory _ ih => exact .down searched named isDirectory (ih noLink)
  | link searched named isLink _ ih => exact .link searched named isLink (ih noLink)

theorem Node.isLink_of_isDirectory {node : Node} (isDirectory : node.isDirectory = true) :
    node.isLink = false := by
  cases kind : node.kind <;> simp [Node.isDirectory, Node.isLink, kind] at isDirectory ⊢

theorem spot_of_isDirectory {path : String} {node : Node}
    (leads : files.spot false path = .ok spot) (found : files.get? spot.location = some node)
    (isDirectory : node.isDirectory = true) (last : Bool) : files.spot last path = .ok spot := by
  cases last with
  | false => exact leads
  | true =>
    have walk := spot_eq_ok_iff.mp leads
    refine spot_eq_ok_iff.mpr ⟨walk.1, walk.2.follow_last fun other there => ?_⟩
    cases found.symm.trans there
    exact Node.isLink_of_isDirectory isDirectory

theorem Walk.noLink (walk : Walk files true links slash location names spot)
    {name : String} (named : spot.last = .named name) {node : Node}
    (found : files.get? spot.location = some node) : node.isLink = false := by
  induction walk with
  | stay => cases named
  | here _ => cases named
  | above _ => cases named
  | @entry links slash location name searched isName noLink =>
    simp only [Spot.location] at found
    cases kind : node.kind with
    | link target =>
      refine absurd ?_ (noLink rfl target)
      rw [kindAt, found, ← kind]
      rfl
    | _ => rw [Node.isLink, kind]
  | lastLink _ _ _ _ _ ih => exact ih named found
  | skip _ _ ih => exact ih named found
  | up _ _ ih => exact ih named found
  | down _ _ _ _ ih => exact ih named found
  | link _ _ _ _ ih => exact ih named found

theorem Walk.single {name : String} (noDot : name ≠ ".") (noDots : name ≠ "..")
    (walk : Walk files false links slash location [name] spot) :
    spot = ⟨location, .named name, slash⟩ := by
  cases walk with
  | here _ => exact absurd rfl noDot
  | above _ => exact absurd rfl noDots
  | entry _ _ _ => rfl
  | lastLink _ _ follows => cases follows

theorem isAbsolute_of_names_eq_nil {path : String} (nonempty : path ≠ "")
    (nameless : Path.names path = []) : Path.isAbsolute path = true := by
  rw [Path.names, List.map_eq_nil_iff, List.filter_eq_nil_iff] at nameless
  rw [Path.isAbsolute]
  cases chars : path.toList with
  | nil => exact absurd (String.toList_eq_nil_iff.mp chars) nonempty
  | cons c rest =>
    by_cases slash : c = '/'
    · simp [slash]
    · rw [chars, Path.splitSlashes, if_neg slash] at nameless
      cases split : Path.splitSlashes rest <;> simp [split] at nameless

theorem append_cons_eq_cons_cons {names rest more : List String} {name first next : String}
    (listed : names ++ name :: more = first :: next :: rest) (nonempty : names ≠ []) :
    (names = [first] ∧ next = name ∧ rest = more) ∨
      ∃ later, names = first :: next :: later ∧ rest = later ++ name :: more := by
  match names with
  | [] => exact absurd rfl nonempty
  | [_] =>
    cases listed
    exact .inl ⟨rfl, rfl, rfl⟩
  | _ :: _ :: later =>
    cases listed
    exact .inr ⟨later, rfl, rfl⟩

theorem append_cons_ne_singleton {names more : List String} {name single : String}
    (nonempty : names ≠ []) : names ++ name :: more ≠ [single] := by
  cases names with
  | nil => exact absurd rfl nonempty
  | cons first rest => simp

theorem Walk.split {more : List String} {name : String}
    (targets : ∀ {location node}, files.get? location = some node → node.kind ≠ .link "")
    (nameless : names = [] → location = [])
    (walk : Walk files last links slash location (names ++ name :: more) spot) (other : Bool) :
    ∃ directory fewer, Walk files true links other location names directory ∧
      Walk files last fewer slash directory.location (name :: more) spot := by
  -- By induction on the walk: a link puts the names of its target before those to come.
  generalize listed : names ++ name :: more = all at walk
  by_cases empty : names = []
  · subst empty
    cases nameless rfl
    subst listed
    exact ⟨⟨[], .root, other⟩, links, .stay, walk⟩
  induction walk generalizing names other with
  | stay => simp at listed
  | here _ => exact absurd listed (append_cons_ne_singleton empty)
  | above _ => exact absurd listed (append_cons_ne_singleton empty)
  | entry _ _ _ => exact absurd listed (append_cons_ne_singleton empty)
  | lastLink _ _ _ _ _ => exact absurd listed (append_cons_ne_singleton empty)
  | @skip links _ _ _ _ _ searched walk ih =>
    rcases append_cons_eq_cons_cons listed empty with ⟨rfl, rfl, rfl⟩ | ⟨later, rfl, rfl⟩
    · exact ⟨_, links, .here searched, walk⟩
    · obtain ⟨directory, fewer, through, rest⟩ := @ih (_ :: later) (by simp) other rfl (by simp)
      exact ⟨directory, fewer, .skip searched through, rest⟩
  | @up links _ _ _ _ _ searched walk ih =>
    rcases append_cons_eq_cons_cons listed empty with ⟨rfl, rfl, rfl⟩ | ⟨later, rfl, rfl⟩
    · exact ⟨_, links, .above searched, walk⟩
    · obtain ⟨directory, fewer, through, rest⟩ := @ih (_ :: later) (by simp) other rfl (by simp)
      exact ⟨directory, fewer, .up searched through, rest⟩
  | @down links _ _ _ _ _ _ searched isName isDirectory walk ih =>
    rcases append_cons_eq_cons_cons listed empty with ⟨rfl, rfl, rfl⟩ | ⟨later, rfl, rfl⟩
    · refine ⟨_, links, .entry searched isName fun _ target isLink => ?_, walk⟩
      cases isDirectory.symm.trans isLink
    · obtain ⟨directory, fewer, through, rest⟩ := @ih (_ :: later) (by simp) other rfl (by simp)
      exact ⟨directory, fewer, .down searched isName isDirectory through, rest⟩
  | @link links slash location found next target rest spot searched isName isLink walk ih =>
    rcases append_cons_eq_cons_cons listed empty with ⟨rfl, rfl, rfl⟩ | ⟨later, rfl, rfl⟩
    · -- The link is the directory itself, and is followed to its end.
      by_cases nameless : Path.names target = []
      · have fromRoot : linkStart location target = [] := by
          rw [kindAt, Option.map_eq_some_iff] at isLink
          obtain ⟨node, there, isKind⟩ := isLink
          rw [linkStart, if_pos (isAbsolute_of_names_eq_nil _ nameless)]
          rintro rfl
          exact targets there isKind
        refine ⟨⟨[], .root, other || Path.endsInSlash target⟩, links, ?_, ?_⟩
        · refine .lastLink searched isName rfl isLink ?_
          rw [nameless, fromRoot]
          exact .stay
        · rwa [nameless, fromRoot] at walk
      · obtain ⟨directory, fewer, through, rest⟩ :=
          ih (fun empty => absurd empty nameless) (other || Path.endsInSlash target) rfl nameless
        exact ⟨directory, fewer, .lastLink searched isName rfl isLink through, rest⟩
    · obtain ⟨directory, fewer, through, rest⟩ :=
        @ih (Path.names target ++ next :: later) (by simp) other (by simp) (by simp)
      exact ⟨directory, fewer, .link searched isName isLink through, rest⟩

theorem Walk.unique {first second : Spot} (one : Walk files last links slash location names first)
    (two : Walk files last links slash location names second) : first = second :=
  Except.ok.inj ((follow_eq_ok_iff.mpr one).symm.trans (follow_eq_ok_iff.mpr two))

theorem Walk.canSearch (nonempty : names ≠ [])
    (walk : Walk files last links slash location names spot) :
    files.canSearch location = true := by
  cases walk with
  | stay => exact absurd rfl nonempty
  | _ => assumption

theorem Walk.flat (walk : Walk files last links slash location names spot)
    (flat : ∀ name ∈ names, '/' ∉ name.toList) {name : String} (named : spot.last = .named name) :
    '/' ∉ name.toList := by
  induction walk with
  | stay => cases named
  | here _ => cases named
  | above _ => cases named
  | entry _ _ _ =>
    cases named
    exact flat name List.mem_cons_self
  | lastLink _ _ _ _ _ ih => exact ih (fun _ => Path.flat_of_mem_names) named
  | skip _ _ ih => exact ih (fun name member => flat name (List.mem_cons_of_mem _ member)) named
  | up _ _ ih => exact ih (fun name member => flat name (List.mem_cons_of_mem _ member)) named
  | down _ _ _ _ ih =>
    exact ih (fun name member => flat name (List.mem_cons_of_mem _ member)) named
  | link _ _ _ _ ih =>
    refine ih (fun name member => ?_) named
    rcases List.mem_append.mp member with inTarget | after
    · exact Path.flat_of_mem_names inTarget
    · exact flat name (List.mem_cons_of_mem _ after)

theorem Walk.goes_down (walk : Walk files last links slash location names spot) (nonempty : names ≠ [])
    (noUp : ".." ∉ names)
    (directories : ∀ name rest node, files.get? (location ++ name :: rest) = some node →
      node.isDirectory = true) :
    location <+: spot.location ∧ ((∃ name ∈ names, name ≠ ".") → location ≠ spot.location) := by
  have noLink {location : Location} {name target : String}
      (directories : ∀ name rest node, files.get? (location ++ name :: rest) = some node →
        node.isDirectory = true) (isLink : files.kindAt location name = some (.link target)) :
      False := by
    rw [kindAt, Option.map_eq_some_iff] at isLink
    obtain ⟨node, found, isKind⟩ := isLink
    have isDirectory := directories name [] node found
    rw [Node.isDirectory, isKind] at isDirectory
    cases isDirectory
  have longer {location : Location} {name : String} : location ≠ location ++ [name] := by
    intro same
    have length := congrArg List.length same
    simp at length
  induction walk with
  | stay => exact absurd rfl nonempty
  | here _ => exact ⟨List.prefix_refl _, by simp⟩
  | above _ => simp at noUp
  | entry _ _ _ => exact ⟨List.prefix_append .., fun _ => longer⟩
  | lastLink _ _ _ isLink _ _ => exact (noLink directories isLink).elim
  | skip _ _ ih =>
    obtain ⟨below, beyond⟩ :=
      ih (by simp) (fun member => noUp (List.mem_cons_of_mem _ member)) directories
    refine ⟨below, fun ⟨name, member, noDot⟩ => beyond ⟨name, ?_, noDot⟩⟩
    exact (List.mem_cons.mp member).resolve_left noDot
  | up _ _ _ => simp at noUp
  | @down _ _ location name _ _ spot _ _ _ _ ih =>
    obtain ⟨below, -⟩ := ih (by simp) (fun member => noUp (List.mem_cons_of_mem _ member))
      (fun first rest node found => directories name (first :: rest) node (by simpa using found))
    refine ⟨(List.prefix_append ..).trans below, fun _ same => ?_⟩
    have length := below.length_le
    rw [← same, List.length_append, List.length_singleton] at length
    omega
  | link _ _ isLink _ _ => exact (noLink directories isLink).elim

end

/-! ## Fewer names -/

/-- Nothing else than in the other file system, and from the same place. -/
structure Sub (fewer files : Files) : Prop where
  current : fewer.current = files.current
  get? : ∀ {location node}, fewer.get? location = some node → files.get? location = some node

namespace Sub

variable {fewer files other : Files}

theorem refl (files : Files) : Sub files files := ⟨rfl, id⟩

theorem trans (first : Sub fewer files) (second : Sub files other) : Sub fewer other :=
  ⟨first.current.trans second.current, fun found => second.get? (first.get? found)⟩

theorem canSearch (sub : Sub fewer files) {location : Location}
    (searched : fewer.canSearch location = true) : files.canSearch location = true := by
  rw [Files.canSearch, Option.any_eq_true] at searched ⊢
  obtain ⟨node, found, allowed⟩ := searched
  exact ⟨node, sub.get? found, allowed⟩

theorem kindAt (sub : Sub fewer files) {location : Location} {name : String} {kind : Kind}
    (found : fewer.kindAt location name = some kind) : files.kindAt location name = some kind := by
  rw [Files.kindAt, Option.map_eq_some_iff] at found ⊢
  obtain ⟨node, isNode, isKind⟩ := found
  exact ⟨node, sub.get? isNode, isKind⟩

/-- A path that leads somewhere without some names leads there with them, unless the last of them
was a link to follow. -/
theorem walk (sub : Sub fewer files) {last : Bool} {links : Nat} {slash : Bool}
    {location : Location} {names : List String} {spot : Spot}
    (there : last = true → ∃ node, fewer.get? spot.location = some node)
    (walk : Walk fewer last links slash location names spot) :
    Walk files last links slash location names spot := by
  induction walk with
  | stay => exact .stay
  | here searched => exact .here (sub.canSearch searched)
  | above searched => exact .above (sub.canSearch searched)
  | entry searched named noLink =>
    refine .entry (sub.canSearch searched) named fun follows target isLink => ?_
    obtain ⟨node, found⟩ := there follows
    simp only [Spot.location] at found
    rw [Files.kindAt, sub.get? found] at isLink
    refine noLink follows target ?_
    rw [Files.kindAt, found]
    exact isLink
  | lastLink searched named follows isLink _ ih =>
    exact .lastLink (sub.canSearch searched) named follows (sub.kindAt isLink) (ih there)
  | skip searched _ ih => exact .skip (sub.canSearch searched) (ih there)
  | up searched _ ih => exact .up (sub.canSearch searched) (ih there)
  | down searched named isDirectory _ ih =>
    exact .down (sub.canSearch searched) named (sub.kindAt isDirectory) (ih there)
  | link searched named isLink _ ih =>
    exact .link (sub.canSearch searched) named (sub.kindAt isLink) (ih there)

theorem spot_of_found (sub : Sub fewer files) {last : Bool} {path : String} {spot : Spot}
    (there : last = true → ∃ node, fewer.get? spot.location = some node)
    (leads : fewer.spot last path = .ok spot) : files.spot last path = .ok spot := by
  rw [spot_eq_ok_iff] at leads ⊢
  refine ⟨leads.1, ?_⟩
  rw [start, ← sub.current]
  exact sub.walk there leads.2

theorem spot (sub : Sub fewer files) {path : String} {spot : Spot}
    (leads : fewer.spot false path = .ok spot) : files.spot false path = .ok spot :=
  sub.spot_of_found nofun leads

end Sub

/-! ## Trees -/

/-- Every entry lies in a directory, every link has a target, and the current place is a
directory. -/
structure Proper (files : Files) : Prop where
  parent : ∀ {location : Location} {name : String} {node : Node},
    files.get? (location ++ [name]) = some node →
    ∃ above, files.get? location = some above ∧ above.isDirectory = true
  target : ∀ {location : Location} {node : Node},
    files.get? location = some node → node.kind ≠ .link ""
  current : ∃ node, files.get? files.current = some node ∧ node.isDirectory = true

/-- No walk stands there unless it is a directory. -/
def Standing (files : Files) (location : Location) : Prop :=
  ∀ {node : Node}, files.get? location = some node → node.isDirectory = true

theorem standing_root (files : Files) : files.Standing [] := by
  intro node found
  cases found
  rfl

theorem standing_linkStart {files : Files} {location : Location} (standing : files.Standing location)
    (target : String) : files.Standing (linkStart location target) := by
  rw [linkStart]
  split
  · exact standing_root files
  · exact standing

theorem standing_of_kindAt {files : Files} {location : Location} {name : String}
    (isDirectory : files.kindAt location name = some .directory) :
    files.Standing (location ++ [name]) := by
  intro node found
  rw [kindAt, found] at isDirectory
  simp only [Option.map_some, Option.some.injEq] at isDirectory
  rw [Node.isDirectory, isDirectory]

theorem exists_of_canSearch {files : Files} {location : Location}
    (searched : files.canSearch location = true) :
    ∃ node, files.get? location = some node ∧ node.allows .search = true := by
  rwa [canSearch, Option.any_eq_true] at searched

namespace Proper

variable {files : Files}

theorem above (proper : files.Proper) {location : Location} {name : String} {rest : List String}
    {node : Node} (found : files.get? (location ++ name :: rest) = some node) :
    ∃ directory, files.get? location = some directory ∧ directory.isDirectory = true := by
  induction rest generalizing location name with
  | nil => exact proper.parent found
  | cons next rest ih =>
    rw [List.append_cons] at found
    obtain ⟨directory, there, -⟩ := ih found
    exact proper.parent there

theorem get?_below (proper : files.Proper) {location below : Location}
    (absent : files.get? location = none) (inside : location <+: below) :
    files.get? below = none := by
  obtain ⟨rest, rfl⟩ := inside
  cases found : files.get? (location ++ rest) with
  | none => rfl
  | some node =>
    cases rest with
    | nil =>
      rw [List.append_nil] at found
      exact found.symm.trans absent
    | cons name rest =>
      obtain ⟨directory, there, -⟩ := proper.above found
      cases absent.symm.trans there

theorem standing_start (proper : files.Proper) (path : String) :
    files.Standing (files.start path) := by
  rw [start]
  split
  · exact standing_root files
  · obtain ⟨directory, there, isDirectory⟩ := proper.current
    intro node found
    cases there.symm.trans found
    exact isDirectory

theorem standing_above (proper : files.Proper) {location : Location}
    (searched : files.canSearch location = true) : files.Standing location.dropLast := by
  obtain ⟨node, found, -⟩ := exists_of_canSearch searched
  rcases List.eq_nil_or_concat location with rfl | ⟨above, name, rfl⟩
  · exact standing_root files
  · rw [List.concat_eq_append] at found ⊢
    rw [List.dropLast_concat]
    obtain ⟨directory, there, isDirectory⟩ := proper.parent found
    intro other same
    cases there.symm.trans same
    exact isDirectory

theorem spot_join (proper : files.Proper) {directory name : String} (nonempty : directory ≠ "")
    (flat : '/' ∉ name.toList) (filled : name ≠ "") (noDot : name ≠ ".") (noDots : name ≠ "..")
    {spot : Spot} (leads : files.spot false (Path.join directory name) = .ok spot) :
    ∃ place, Walk files true linkLimit (Path.endsInSlash directory) (files.start directory)
        (Path.names directory) place ∧ spot = ⟨place.location, .named name, false⟩ := by
  obtain ⟨names, absolute, slash⟩ := Path.join_of_flat nonempty flat filled
  have walk := (spot_eq_ok_iff.mp leads).2
  rw [start, names, absolute, slash, ← start] at walk
  obtain ⟨place, fewer, through, last⟩ := walk.split proper.target (fun nameless => by
    rw [start, if_pos (isAbsolute_of_names_eq_nil nonempty nameless)])
    (Path.endsInSlash directory)
  exact ⟨place, through, last.single noDot noDots⟩

end Proper

/-! ## Same ways -/

/-- Nothing is there that a walk goes through. -/
def Blocked (files : Files) (location : Location) : Prop :=
  ∀ {node : Node}, files.get? location = some node →
    node.isDirectory = false ∧ node.isLink = false

/-- The same directories and links. -/
structure SameWays (files other : Files) : Prop where
  current : files.current = other.current
  get? : ∀ location, files.get? location = other.get? location ∨
    (files.Blocked location ∧ other.Blocked location)

namespace SameWays

variable {files other third : Files}

theorem refl (files : Files) : SameWays files files := ⟨rfl, fun _ => .inl rfl⟩

theorem symm (same : SameWays files other) : SameWays other files where
  current := same.current.symm
  get? location := (same.get? location).imp Eq.symm And.symm

theorem trans (first : SameWays files other) (second : SameWays other third) :
    SameWays files third where
  current := first.current.trans second.current
  get? location := by
    rcases first.get? location with same | ⟨blocked, there⟩
    · rcases second.get? location with equal | ⟨here, blocked⟩
      · exact .inl (same.trans equal)
      · exact .inr ⟨fun found => here (same ▸ found), blocked⟩
    · rcases second.get? location with equal | ⟨_, blockedThird⟩
      · exact .inr ⟨blocked, fun found => there (equal.symm ▸ found)⟩
      · exact .inr ⟨blocked, blockedThird⟩

theorem get?_of_isDirectory (same : SameWays files other) {location : Location} {node : Node}
    (found : files.get? location = some node) (isDirectory : node.isDirectory = true) :
    other.get? location = some node := by
  rcases same.get? location with equal | ⟨blocked, -⟩
  · rw [← equal, found]
  · rw [(blocked found).1] at isDirectory
    cases isDirectory

theorem canSearch (same : SameWays files other) {location : Location}
    (standing : files.Standing location) (searched : files.canSearch location = true) :
    other.canSearch location = true := by
  obtain ⟨node, found, allowed⟩ := exists_of_canSearch searched
  rw [Files.canSearch, same.get?_of_isDirectory found (standing found)]
  exact allowed

theorem kindAt (same : SameWays files other) {location : Location} {name : String} {kind : Kind}
    (found : files.kindAt location name = some kind)
    (way : kind = .directory ∨ ∃ target, kind = .link target) :
    other.kindAt location name = some kind := by
  rw [Files.kindAt, Option.map_eq_some_iff] at found
  obtain ⟨node, isNode, isKind⟩ := found
  rcases same.get? (location ++ [name]) with equal | ⟨blocked, -⟩
  · rw [Files.kindAt, ← equal, isNode, ← isKind]
    rfl
  · have neither := blocked isNode
    rw [Node.isDirectory, Node.isLink, isKind] at neither
    rcases way with rfl | ⟨target, rfl⟩
    · cases neither.1
    · cases neither.2

theorem walk (same : SameWays files other) (proper : files.Proper) {last : Bool} {links : Nat}
    {slash : Bool} {location : Location} {names : List String} {spot : Spot}
    (standing : files.Standing location)
    (walk : Walk files last links slash location names spot) :
    Walk other last links slash location names spot := by
  induction walk with
  | stay => exact .stay
  | here searched => exact .here (same.canSearch standing searched)
  | above searched => exact .above (same.canSearch standing searched)
  | entry searched named noLink =>
    refine .entry (same.canSearch standing searched) named fun follows target isLink => ?_
    exact noLink follows target (same.symm.kindAt isLink (.inr ⟨target, rfl⟩))
  | lastLink searched named follows isLink _ ih =>
    exact .lastLink (same.canSearch standing searched) named follows
      (same.kindAt isLink (.inr ⟨_, rfl⟩)) (ih (standing_linkStart standing _))
  | skip searched _ ih => exact .skip (same.canSearch standing searched) (ih standing)
  | up searched _ ih =>
    exact .up (same.canSearch standing searched) (ih (proper.standing_above searched))
  | down searched named isDirectory _ ih =>
    exact .down (same.canSearch standing searched) named (same.kindAt isDirectory (.inl rfl))
      (ih (standing_of_kindAt isDirectory))
  | link searched named isLink _ ih =>
    exact .link (same.canSearch standing searched) named (same.kindAt isLink (.inr ⟨_, rfl⟩))
      (ih (standing_linkStart standing _))

theorem spot (same : SameWays files other) (proper : files.Proper) {last : Bool} {path : String}
    {spot : Spot} (leads : files.spot last path = .ok spot) : other.spot last path = .ok spot := by
  rw [spot_eq_ok_iff] at leads ⊢
  have from_start : files.start path = other.start path := by rw [start, start, same.current]
  refine ⟨leads.1, ?_⟩
  rw [← from_start]
  exact same.walk proper (proper.standing_start path) leads.2

end SameWays

end Modelsmith.Files
