import Modelsmith.Proofs.Files.Making

/-! Directories made up to a path.

They are made where there was nothing, in directories that can be written, and all on the way of the
path. A path may go up again, but only from directories that were there; then what is made last is the
directory itself, and there is nothing in it.
-/

set_option autoImplicit false

namespace Modelsmith.Files

variable {files later : Files}

def newDirectory (files : Files) : Node where
  kind := .directory
  mode := 0o777 &&& (0o7777 - files.mask % 0o1000)
  time := files.now

/-- Directories were made where there was nothing, in directories that can be written. -/
structure Grows (files later : Files) : Prop where
  current : later.current = files.current
  mask : later.mask = files.mask
  now : later.now = files.now
  get? : ∀ location, later.get? location = files.get? location ∨
    (files.get? location = none ∧ later.get? location = some files.newDirectory ∧
      later.requireWritable location.dropLast = .ok ())
  proper : files.Proper → later.Proper
  numbered : later.Numbered
  flat : files.Flat → later.Flat

namespace Grows

theorem refl (numbered : files.Numbered) : Grows files files where
  current := rfl
  mask := rfl
  now := rfl
  get? _ := .inl rfl
  proper := id
  numbered := numbered
  flat := id

theorem sub (grows : Grows files later) : Sub files later where
  current := grows.current.symm
  get? {location node} found := by
    rcases grows.get? location with same | ⟨absent, -⟩
    · rw [same, found]
    · cases absent.symm.trans found

theorem trans {last : Files} (first : Grows files later) (second : Grows later last) :
    Grows files last where
  current := second.current.trans first.current
  mask := second.mask.trans first.mask
  now := second.now.trans first.now
  get? location := by
    rcases first.get? location with same | ⟨absent, made, writable⟩
    · rcases second.get? location with again | ⟨absent, made, writable⟩
      · exact .inl (again.trans same)
      · refine .inr ⟨same ▸ absent, ?_, writable⟩
        rw [made, newDirectory, newDirectory, first.mask, first.now]
    · exact .inr ⟨absent, second.sub.get? made, second.sub.requireWritable writable⟩
  proper proper := second.proper (first.proper proper)
  numbered := second.numbered
  flat flat := second.flat (first.flat flat)

end Grows

theorem create_grows (numbered : files.Numbered) {base : Location} {name : String}
    (plain : '/' ∉ name.toList) (absent : files.get? (base ++ [name]) = none) (writable : files.requireWritable base = .ok ()) :
    Grows files (files.create (base ++ [name]) .directory 0o777) := by
  have found : ∀ other, (files.create (base ++ [name]) .directory 0o777).get? other =
      if other = base ++ [name] then some files.newDirectory else files.get? other :=
    fun other => get?_put numbered _ (by simp)
  have sub : Sub files (files.create (base ++ [name]) .directory 0o777) := by
    refine ⟨rfl, fun {location node} there => ?_⟩
    rw [found, if_neg, there]
    rintro rfl
    cases absent.symm.trans there
  refine ⟨rfl, rfl, rfl, fun location => ?_, fun proper => ?_, numbered.put _ _,
    fun flat => flat.put _ _ plain⟩
  · rw [found]
    split
    · subst location
      refine .inr ⟨absent, rfl, ?_⟩
      rw [List.dropLast_concat]
      exact sub.requireWritable writable
    · exact .inl rfl
  · refine ⟨fun {location other node} there => ?_, fun {location node} there => ?_, ?_⟩
    · rw [found] at there
      split at there
      · rename_i same
        obtain ⟨rfl, -⟩ := List.append_inj' same rfl
        obtain ⟨above, isAbove, isDirectory⟩ := isDirectory_of_requireWritable writable
        exact ⟨above, sub.get? isAbove, isDirectory⟩
      · obtain ⟨above, isAbove, isDirectory⟩ := proper.parent there
        exact ⟨above, sub.get? isAbove, isDirectory⟩
    · rw [found] at there
      split at there
      · cases there
        simp [newDirectory]
      · exact proper.target there
    · obtain ⟨node, there, isDirectory⟩ := proper.current
      exact ⟨node, sub.get? there, isDirectory⟩

theorem newSpot_eq_ok {path : String} {location : Location}
    (placed : files.newSpot path = .ok location) :
    ∃ base name slash, files.spot false path = .ok ⟨base, .named name, slash⟩ ∧
      location = base ++ [name] ∧ files.get? (base ++ [name]) = none ∧
      files.requireWritable base = .ok () := by
  obtain ⟨⟨base, last, slash⟩, leads, fresh⟩ := bind_eq_ok.mp placed
  split at fresh
  · rename_i name isName absent
    simp only at isName
    subst isName
    obtain ⟨_, writable, same⟩ := bind_eq_ok.mp fresh
    cases same
    exact ⟨base, name, slash, leads, rfl, absent, writable⟩
  · cases fresh

theorem createDirectory_eq_ok (numbered : files.Numbered) {path : String}
    (created : files.createDirectory path = .ok later) :
    ∃ base name slash, files.spot false path = .ok ⟨base, .named name, slash⟩ ∧
      files.get? (base ++ [name]) = none ∧ Grows files later ∧
      later.get? (base ++ [name]) = some files.newDirectory ∧
      ∀ other, ¬ other = base ++ [name] → later.get? other = files.get? other := by
  obtain ⟨location, placed, made⟩ := bind_eq_ok.mp created
  obtain ⟨base, name, slash, leads, rfl, absent, writable⟩ := newSpot_eq_ok placed
  cases made
  refine ⟨base, name, slash, leads, absent,
    create_grows numbered (flat_of_spot leads) absent writable, ?_, fun other differs => ?_⟩
  · exact (get?_put numbered _ (by simp)).trans (if_pos rfl)
  · exact (get?_put numbered _ (by simp)).trans (if_neg differs)

theorem isDirectory_eq_true_iff {path : String} :
    files.isDirectory path = true ↔
      ∃ spot node, files.spot true path = .ok spot ∧ files.get? spot.location = some node ∧
        node.isDirectory = true := by
  rw [Files.isDirectory, lookup, find]
  cases leads : files.spot true path with
  | error fault => simp [Bind.bind, Except.bind, Except.map, Except.toOption]
  | ok spot =>
    rw [ok_bind, atSpot]
    cases found : files.get? spot.location with
    | none => simp [Except.map, Except.toOption, found]
    | some node =>
      cases isDirectory : node.isDirectory <;> cases slash : spot.slash <;>
        simp [Except.map, Except.toOption, found, isDirectory]

/-- Everything new lies where a leading part of the path leads. -/
def MadeFor (files later : Files) (path : String) : Prop :=
  ∀ location, files.get? location = none → later.get? location ≠ none →
    ∃ part base name slash, Path.Leading part path ∧
      later.spot false part = .ok ⟨base, .named name, slash⟩ ∧ location = base ++ [name]

theorem MadeFor.refl (files : Files) (path : String) : MadeFor files files path :=
  fun _ absent there => absurd absent there

theorem MadeFor.above {path parent : String} (made : MadeFor files later parent)
    (up : Path.parent? path = some parent) (location : Location)
    (absent : files.get? location = none) (there : later.get? location ≠ none) :
    ∃ part base name slash, Path.Above part path ∧
      later.spot false part = .ok ⟨base, .named name, slash⟩ ∧ location = base ++ [name] := by
  obtain ⟨part, base, name, slash, leading, leads, same⟩ := made location absent there
  refine ⟨part, base, name, slash, ?_, leads, same⟩
  -- A path without names does not end in one.
  have nameless : Path.names parent ≠ [] := by
    intro none
    obtain ⟨-, rest, names⟩ := leading
    rw [none] at names
    have walk := (spot_eq_ok_iff.mp leads).2
    rw [(List.append_eq_nil_iff.mp names.symm).1] at walk
    cases walk
  rcases Path.above_of_parent? up with rfl | rfl | above
  · exact absurd rfl nameless
  · exact absurd rfl nameless
  · exact leading.above above

theorem MadeFor.trans {last : Files} {path parent : String} (grows : Grows later last)
    (first : MadeFor files later parent) (up : Path.parent? path = some parent)
    (second : MadeFor later last path) : MadeFor files last path := by
  intro location absent there
  by_cases new : later.get? location = none
  · exact second location new there
  · obtain ⟨part, base, name, slash, above, leads, same⟩ := first.above up location absent new
    exact ⟨part, base, name, slash, above.leading, grows.sub.spot leads, same⟩

/-! ## Ways up -/

/-- A path goes up only from directories that are there. -/
def Ascends (files : Files) (path : String) : Prop :=
  ∀ front rest, Path.names path = front ++ ".." :: rest →
    ∃ spot, files.follow true linkLimit false (files.start path) (front ++ [".."]) = .ok spot

theorem Grows.goes_down (proper : files.Proper) (grows : Grows files later) {part path : String}
    (ascends : files.Ascends path) (above : Path.Above part path) {base : Location} {name : String}
    {slash : Bool} (leads : later.spot false part = .ok ⟨base, .named name, slash⟩)
    (absent : files.get? (base ++ [name]) = none) (there : later.get? (base ++ [name]) ≠ none)
    {last : Bool} {spot : Spot} (ends : later.spot last path = .ok spot) :
    base ++ [name] <+: spot.location ∧ base ++ [name] ≠ spot.location := by
  obtain ⟨sameStart, rest, names, filled⟩ := above
  obtain ⟨next, more, rfl⟩ : ∃ next more, rest = next :: more := by
    obtain ⟨other, member, -⟩ := filled
    exact List.exists_cons_of_ne_nil (List.ne_nil_of_mem member)
  have made : later.get? (base ++ [name]) = some files.newDirectory :=
    ((grows.get? _).resolve_left fun same => there (same.trans absent)).2.1
  have start (files : Files) : files.start part = files.start path := by
    rw [Files.start, Files.start, sameStart]
  have through : Walk later true linkLimit (Path.endsInSlash part) (later.start path)
      (Path.names part) ⟨base, .named name, slash⟩ := by
    rw [← start]
    refine (spot_eq_ok_iff.mp leads).2.follow_last fun node found => ?_
    cases made.symm.trans found
    rfl
  have nonempty : Path.names part ≠ [] := by
    intro none
    rw [none] at through
    cases through
  have noUp : ".." ∉ next :: more := by
    intro member
    obtain ⟨before, after, split⟩ := List.append_of_mem member
    obtain ⟨up, follows⟩ := ascends (Path.names part ++ before) after (by
      rw [names, split, List.append_assoc])
    rw [follow_eq_ok_iff, List.append_assoc] at follows
    obtain ⟨first, others, listed⟩ := List.exists_cons_of_ne_nil (l := before ++ [".."]) (by simp)
    rw [listed] at follows
    -- The way up would lead through the directory before it was made.
    obtain ⟨directory, fewer, way, onward⟩ :=
      follows.split proper.target (absurd · nonempty) (Path.endsInSlash part)
    obtain ⟨node, found, -⟩ := exists_of_canSearch (onward.canSearch (by simp))
    have same := (grows.sub.walk (fun _ => ⟨node, found⟩) way).unique
      (by rw [Files.start, ← grows.current]; exact through)
    rw [same] at found
    cases absent.symm.trans found
  have walk := (spot_eq_ok_iff.mp ends).2
  rw [names] at walk
  obtain ⟨directory, fewer, way, onward⟩ :=
    walk.split (grows.proper proper).target (absurd · nonempty) (Path.endsInSlash part)
  rw [way.unique through] at onward
  obtain ⟨below, beyond⟩ := onward.goes_down (by simp) noUp fun other rest node found => by
    rcases grows.get? (base ++ [name] ++ other :: rest) with same | ⟨-, new, -⟩
    · rw [proper.get?_below absent (List.prefix_append ..)] at same
      cases same.symm.trans found
    · cases new.symm.trans found
      rfl
  exact ⟨below, beyond filled⟩

theorem Grows.not_isDirectory (proper : files.Proper) (grows : Grows files later)
    {path parent : String} (ascends : files.Ascends path) (up : Path.parent? path = some parent)
    (made : MadeFor files later parent) (missing : files.isDirectory path = false) :
    later.isDirectory path = false := by
  rw [Bool.eq_false_iff]
  intro isDirectory
  obtain ⟨spot, node, leads, found, isNode⟩ := isDirectory_eq_true_iff.mp isDirectory
  have below : ∀ location, files.get? location = none → later.get? location ≠ none →
      location <+: spot.location ∧ location ≠ spot.location := by
    intro location absent there
    obtain ⟨part, base, name, slash, above, partLeads, rfl⟩ := made.above up location absent there
    exact grows.goes_down proper ascends above partLeads absent there leads
  cases old : files.get? spot.location with
  | none =>
    -- The directory itself would be new, and so lie below itself.
    exact (below spot.location old (by rw [found]; exact nofun)).2 rfl
  | some before =>
    -- Nothing new is on the way, for it would lie above what was there.
    have same : ∀ location, later.get? location = files.get? location := by
      intro location
      rcases grows.get? location with same | ⟨absent, new, -⟩
      · exact same
      · have inside := (below location absent (by rw [new]; exact nofun)).1
        cases (proper.get?_below absent inside).symm.trans old
    have sub : Sub later files := ⟨grows.current, fun found => same _ ▸ found⟩
    have again := isDirectory_eq_true_iff.mpr
      ⟨spot, node, sub.spot_of_found (fun _ => ⟨node, found⟩) leads, sub.get? found, isNode⟩
    rw [again] at missing
    cases missing

/-! ## Making -/

theorem ensureDirectory_grows (numbered : files.Numbered) {path : String}
    (ensured : files.ensureDirectory path = .ok later) :
    Grows files later ∧ MadeFor files later path ∧
      (files.createDirectory path = .ok later ∨ files.isDirectory path = true) := by
  rw [ensureDirectory] at ensured
  split at ensured
  · cases ensured
    rename_i created
    obtain ⟨base, name, slash, leads, -, grows, -, only⟩ := createDirectory_eq_ok numbered created
    refine ⟨grows, fun location absent there => ?_, .inl created⟩
    refine ⟨path, base, name, slash, .refl path, grows.sub.spot leads, ?_⟩
    exact Classical.byContradiction fun differs => there (by rw [only location differs, absent])
  · split at ensured
    · cases ensured
      exact ⟨.refl numbered, .refl _ _, .inr ‹_›⟩
    · cases ensured

/-- Directories are made up to a path, and those that were made stay when one cannot be. The last of
them is the one at the path. -/
theorem createUpTo_grows (numbered : files.Numbered) (fuel : Nat) (path : String) :
    Grows files (files.createUpTo fuel path).2 ∧
      MadeFor files (files.createUpTo fuel path).2 path ∧
      ((files.createUpTo fuel path).1 = .ok () → files.Proper → files.Ascends path →
        path = "" ∨ files.isDirectory path = true ∨ ∃ before, Grows files before ∧
          before.createDirectory path = .ok (files.createUpTo fuel path).2) := by
  have unchanged (path : String) : Grows files files ∧ MadeFor files files path :=
    ⟨.refl numbered, .refl _ _⟩
  induction fuel generalizing path with
  | zero => exact ⟨(unchanged path).1, (unchanged path).2, nofun⟩
  | succ fuel ih =>
    rw [createUpTo]
    split
    · exact ⟨(unchanged path).1, (unchanged path).2, fun _ _ _ => .inl ‹_›⟩
    split
    · rename_i later ensured
      obtain ⟨grows, made, how⟩ := ensureDirectory_grows numbered ensured
      refine ⟨grows, made, fun _ _ _ => .inr ?_⟩
      rcases how with created | isDirectory
      · exact .inr ⟨files, .refl numbered, created⟩
      · exact .inl isDirectory
    · split
      · exact ⟨(unchanged path).1, (unchanged path).2, nofun⟩
      · rename_i parent up
        -- The directory above comes first, and stays if this one cannot be made.
        obtain ⟨above, made, -⟩ := ih parent
        split
        · rename_i fault later failed
          rw [failed] at above made
          exact ⟨above, made.trans (.refl above.numbered) up (.refl _ _), nofun⟩
        · rename_i later finished
          rw [finished] at above made
          split
          · rename_i last ensured
            obtain ⟨grows, more, how⟩ := ensureDirectory_grows above.numbered ensured
            refine ⟨above.trans grows, made.trans grows up more, fun _ proper ascends => .inr ?_⟩
            rcases how with created | isDirectory
            · exact .inr ⟨later, above, created⟩
            · refine .inl (Bool.not_eq_false _ |>.mp fun missing => ?_)
              rw [above.not_isDirectory proper ascends up made missing] at isDirectory
              cases isDirectory
          · exact ⟨above, made.trans (.refl above.numbered) up (.refl _ _), nofun⟩
    · exact ⟨(unchanged path).1, (unchanged path).2, nofun⟩

end Modelsmith.Files
