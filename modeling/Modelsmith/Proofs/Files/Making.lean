import Modelsmith.Proofs.Failing
import Modelsmith.Proofs.Files.Walks

/-! What is there after a file was written: it changes under all its names, and nothing else does. No
way changes, for what is written is neither a directory nor a link. -/

set_option autoImplicit false

namespace Modelsmith.Files

variable {files later : Files}

/-! ## Names -/

/-- Every name has the number of a node. -/
def Numbered (files : Files) : Prop :=
  ∀ {location : Location} {number : Nat}, files.number? location = some number →
    number < files.nodes.size

/-- No entry has a slash in its name. -/
def Flat (files : Files) : Prop :=
  ∀ location name number, (location ++ [name], number) ∈ files.names → '/' ∉ name.toList

theorem lookup_filter {α β : Type} [BEq α] [LawfulBEq α] (keep : α → Bool) (entries : List (α × β))
    (key : α) :
    (entries.filter fun entry => keep entry.1).lookup key =
      if keep key then entries.lookup key else none := by
  induction entries with
  | nil => simp
  | cons entry rest ih =>
    obtain ⟨other, value⟩ := entry
    by_cases same : key = other
    · subst same
      cases kept : keep key <;> simp [kept, ih]
    · have differs : (key == other) = false := beq_false_of_ne same
      cases kept : keep other <;> simp [kept, List.lookup_cons, differs, ih]

theorem number?_put (files : Files) (location other : Location) (node : Node) :
    (files.put location node).number? other =
      if other = location then some files.nodes.size else files.number? other := by
  rw [number?, put, attach, List.lookup_cons]
  by_cases same : other = location
  · simp [same]
  · rw [if_neg same, beq_false_of_ne same]
    exact (lookup_filter (fun key => key ≠ location) files.names other).trans (by simp [same, number?])

theorem get?_put (numbered : files.Numbered) {location other : Location} (node : Node)
    (inner : location ≠ []) :
    (files.put location node).get? other =
      if other = location then some node else files.get? other := by
  by_cases outer : other = []
  · subst outer
    rw [if_neg (Ne.symm inner)]
    rfl
  rw [get?, if_neg outer, number?_put]
  by_cases same : other = location
  · simp [same, put, attach]
  · rw [if_neg same, if_neg same, get?, if_neg outer]
    cases found : files.number? other with
    | none => rfl
    | some number =>
      have bound := numbered found
      simp [put, attach, Array.getElem?_push, Nat.ne_of_lt bound]

theorem Numbered.put (numbered : files.Numbered) (location : Location) (node : Node) :
    (files.put location node).Numbered := by
  intro other number found
  rw [number?_put] at found
  have size : (files.put location node).nodes.size = files.nodes.size + 1 := by
    simp [Files.put, attach]
  rw [size]
  split at found
  · cases found
    omega
  · have := numbered found
    omega

theorem Flat.put (flat : files.Flat) (base : Location) {name : String} (node : Node)
    (plain : '/' ∉ name.toList) : (files.put (base ++ [name]) node).Flat := by
  intro location other number member
  rcases List.mem_cons.mp member with new | old
  · cases List.append_inj_right' (Prod.mk.inj new).1 rfl
    exact plain
  · exact flat location other number (List.mem_filter.mp old).1

theorem flat_of_spot {last : Bool} {path : String} {base : Location} {name : String} {slash : Bool}
    (leads : files.spot last path = .ok ⟨base, .named name, slash⟩) : '/' ∉ name.toList :=
  (spot_eq_ok_iff.mp leads).2.flat (fun _ => Path.flat_of_mem_names) rfl

theorem get?_change (files : Files) (number : Nat) (update : Node → Node) {location : Location}
    (inner : location ≠ []) :
    (files.change number update).get? location =
      if files.number? location = some number then (files.get? location).map update
      else files.get? location := by
  rw [get?, if_neg inner, get?, if_neg inner]
  have same : (files.change number update).number? location = files.number? location := rfl
  rw [same]
  cases found : files.number? location with
  | none => rfl
  | some other =>
    by_cases equal : other = number
    · subst equal
      simp [change, Array.getElem?_modify]
    · simp [change, Array.getElem?_modify, equal, Ne.symm equal]

theorem isDirectory_of_requireWritable {location : Location}
    (writable : files.requireWritable location = .ok ()) :
    ∃ node, files.get? location = some node ∧ node.isDirectory = true := by
  rw [requireWritable] at writable
  split at writable
  · cases writable
  · rename_i node found
    refine ⟨node, found, ?_⟩
    cases isDirectory : node.isDirectory with
    | true => rfl
    | false => simp [isDirectory] at writable

theorem Sub.requireWritable {fewer files : Files} (sub : Sub fewer files) {base : Location}
    (writable : fewer.requireWritable base = .ok ()) : files.requireWritable base = .ok () := by
  rw [Files.requireWritable] at writable ⊢
  cases found : fewer.get? base with
  | none =>
    rw [found] at writable
    cases writable
  | some node =>
    rw [found] at writable
    rw [sub.get? found]
    exact writable

theorem SameWays.requireWritable (ways : SameWays files later) {base : Location}
    (writable : files.requireWritable base = .ok ()) : later.requireWritable base = .ok () := by
  obtain ⟨directory, there, isDirectory⟩ := isDirectory_of_requireWritable writable
  rw [Files.requireWritable, there] at writable
  rw [Files.requireWritable, ways.get?_of_isDirectory there isDirectory]
  exact writable

/-! ## Writing -/

/-- Names of one node. -/
def SameNode (files : Files) (first second : Location) : Prop :=
  first = second ∨ first ≠ [] ∧
    ∃ number, files.number? first = some number ∧ files.number? second = some number

/-- A file was written at a location: it is changed there and under its other names, and no way is. -/
structure Rewrites (files later : Files) (location : Location) : Prop where
  current : later.current = files.current
  frame : ∀ other, ¬ files.SameNode other location → later.get? other = files.get? other
  blocked : ∀ other, files.SameNode other location → files.Blocked other ∧ later.Blocked other
  sameNode : ∀ {first second}, later.SameNode first second → files.SameNode first second
  proper : files.Proper → later.Proper
  numbered : later.Numbered
  flat : files.Flat → later.Flat

theorem openToWrite_eq_ok {path : String} {number : Nat} {node : Node}
    (opened : files.openToWrite path = .ok (number, node, later)) :
    ∃ base name, files.spot true path = .ok ⟨base, .named name, false⟩ ∧
      ((later = files ∧ files.number? (base ++ [name]) = some number ∧
          files.get? (base ++ [name]) = some node ∧ node.isDirectory = false) ∨
        (files.get? (base ++ [name]) = none ∧ files.requireWritable base = .ok () ∧
          later = files.create (base ++ [name]) (.file []) 0o666 ∧
          later.number? (base ++ [name]) = some number ∧
          later.get? (base ++ [name]) = some node)) := by
  obtain ⟨⟨base, last, slash⟩, leads, rest⟩ := bind_eq_ok.mp opened
  cases last with
  | named name => 
    cases slash with
    | true => cases rest
    | false => 
      refine ⟨base, name, leads, ?_⟩
      simp only [Spot.location, Bool.false_eq_true, if_false] at rest
      split at rest
      · rename_i isNumber found
        split at rest
        · cases rest
        rename_i noDirectory
        split at rest
        · cases rest
        split at rest
        · cases rest
        cases rest
        exact .inl ⟨rfl, isNumber, found, Bool.not_eq_true _ |>.mp noDirectory⟩
      · rename_i nothing
        obtain ⟨_, writable, created⟩ := bind_eq_ok.mp rest
        split at created
        · rename_i isNumber found
          cases created
          refine .inr ⟨?_, writable, rfl, isNumber, found⟩
          cases there : files.get? (base ++ [name]) with
          | none => rfl
          | some node =>
            -- Nothing is found under a name without a number.
            rw [get?, if_neg (by simp)] at there
            obtain ⟨number, isNumber, inside⟩ := Option.bind_eq_some_iff.mp there
            refine absurd ?_ (nothing number node isNumber)
            rw [get?, if_neg (by simp), isNumber]
            exact inside
        · cases created
  | _ => cases rest

theorem Rewrites.unchanged (numbered : files.Numbered) {location : Location}
    (blocked : ∀ other, files.SameNode other location → files.Blocked other) :
    Rewrites files files location where
  current := rfl
  frame _ _ := rfl
  blocked other same := ⟨blocked other same, blocked other same⟩
  sameNode := id
  proper := id
  numbered := numbered
  flat := id

theorem Rewrites.trans {last : Files} {location : Location} (first : Rewrites files later location)
    (second : Rewrites later last location) : Rewrites files last location where
  current := second.current.trans first.current
  frame other differs := by
    rw [second.frame other (mt first.sameNode differs), first.frame other differs]
  blocked other isSame := by
    obtain ⟨before, after⟩ := first.blocked other isSame
    refine ⟨before, ?_⟩
    by_cases again : later.SameNode other location
    · exact (second.blocked other again).2
    · exact fun found => after (second.frame other again ▸ found)
  sameNode same := first.sameNode (second.sameNode same)
  proper proper := second.proper (first.proper proper)
  numbered := second.numbered
  flat flat := second.flat (first.flat flat)

theorem get?_of_sameNode {first second : Location} (inner : second ≠ [])
    (same : files.SameNode first second) : files.get? first = files.get? second := by
  rcases same with rfl | ⟨innerFirst, number, isFirst, isSecond⟩
  · rfl
  · rw [get?, if_neg innerFirst, get?, if_neg inner, isFirst, isSecond]

theorem Proper.of_blocked (proper : files.Proper) {changed : Location → Prop}
    (current : later.current = files.current)
    (frame : ∀ other, ¬ changed other → later.get? other = files.get? other)
    (blocked : ∀ other, changed other → files.Blocked other ∧ later.Blocked other)
    (parent : ∀ location name node, changed (location ++ [name]) →
      later.get? (location ++ [name]) = some node →
      ∃ above, files.get? location = some above ∧ above.isDirectory = true) : later.Proper := by
  have directory {location : Location} {node : Node} (found : files.get? location = some node)
      (isDirectory : node.isDirectory = true) : later.get? location = some node := by
    rw [frame location fun same => ?_, found]
    rw [((blocked location same).1 found).1] at isDirectory
    cases isDirectory
  refine ⟨fun {location name node} found => ?_, fun {location node} found => ?_, ?_⟩
  · by_cases same : changed (location ++ [name])
    · obtain ⟨above, there, isDirectory⟩ := parent location name node same found
      exact ⟨above, directory there isDirectory, isDirectory⟩
    · rw [frame _ same] at found
      obtain ⟨above, there, isDirectory⟩ := proper.parent found
      exact ⟨above, directory there isDirectory, isDirectory⟩
  · by_cases same : changed location
    · have noLink := ((blocked location same).2 found).2
      intro isLink
      rw [Node.isLink, isLink] at noLink
      cases noLink
    · rw [frame _ same] at found
      exact proper.target found
  · obtain ⟨node, found, isDirectory⟩ := proper.current
    rw [current]
    exact ⟨node, directory found isDirectory, isDirectory⟩

theorem setContent_rewrites (numbered : files.Numbered) {location : Location} {number : Nat}
    (inner : location ≠ []) (isNumber : files.number? location = some number)
    (blocked : files.Blocked location) {kind : Kind} (noDirectory : kind ≠ .directory)
    (noLink : ∀ target, kind ≠ .link target) :
    Rewrites files (files.setContent number kind) location := by
  -- What changes is what has the number, under whatever name it is met.
  have same_iff {other : Location} (innerOther : other ≠ []) :
      files.SameNode other location ↔ files.number? other = some number := by
    constructor
    · rintro (rfl | ⟨-, found, isOther, isFound⟩)
      · exact isNumber
      · rw [isOther, ← isFound, isNumber]
    · exact fun isOther => .inr ⟨innerOther, number, isOther, isNumber⟩
  have frame : ∀ other, ¬ files.SameNode other location →
      (files.setContent number kind).get? other = files.get? other := by
    intro other differs
    by_cases outer : other = []
    · subst outer
      rfl
    · rw [setContent, get?_change _ _ _ outer, if_neg (mt (same_iff outer).mpr differs)]
  have changed : ∀ other, files.SameNode other location →
      files.Blocked other ∧ (files.setContent number kind).Blocked other := by
    intro other same
    refine ⟨fun found => blocked (get?_of_sameNode inner same ▸ found), fun {node} found => ?_⟩
    have outer : other ≠ [] := by
      rcases same with rfl | ⟨outer, -⟩
      · exact inner
      · exact outer
    rw [setContent, get?_change _ _ _ outer, if_pos ((same_iff outer).mp same),
      Option.map_eq_some_iff] at found
    obtain ⟨before, -, rfl⟩ := found
    rw [Node.isDirectory, Node.isLink]
    cases kind with
    | directory => exact absurd rfl noDirectory
    | link target => exact absurd rfl (noLink target)
    | _ => exact ⟨rfl, rfl⟩
  refine ⟨rfl, frame, changed, id, fun proper => ?_, ?_, id⟩
  · refine proper.of_blocked rfl frame changed fun above name node same found => ?_
    rw [setContent, get?_change _ _ _ (by simp), if_pos ((same_iff (by simp)).mp same),
      Option.map_eq_some_iff] at found
    obtain ⟨before, there, -⟩ := found
    exact proper.parent there
  · intro other found isFound
    simpa [setContent, change] using numbered isFound

theorem sameNode_iff_of_absent (numbered : files.Numbered) {location : Location}
    (inner : location ≠ []) (absent : files.get? location = none) (other : Location) :
    files.SameNode other location ↔ other = location := by
  refine ⟨?_, .inl⟩
  rintro (rfl | ⟨-, number, -, isNumber⟩)
  · rfl
  · rw [get?, if_neg inner, isNumber, Option.bind_some, Array.getElem?_eq_none_iff] at absent
    have := numbered isNumber
    omega

theorem SameNode.of_put (numbered : files.Numbered) {location first second : Location} {node : Node}
    (same : (files.put location node).SameNode first second) : files.SameNode first second := by
  rcases same with rfl | ⟨inner, number, isFirst, isSecond⟩
  · exact .inl rfl
  rw [number?_put] at isFirst isSecond
  split at isFirst
  · cases isFirst
    split at isSecond
    · exact .inl (by simp [*])
    · exact absurd (numbered isSecond) (Nat.lt_irrefl _)
  · split at isSecond
    · cases isSecond
      exact absurd (numbered isFirst) (Nat.lt_irrefl _)
    · exact .inr ⟨inner, number, isFirst, isSecond⟩

theorem create_rewrites (numbered : files.Numbered) {base : Location} {name : String} (mode : Nat)
    (plain : '/' ∉ name.toList) (absent : files.get? (base ++ [name]) = none) (writable : files.requireWritable base = .ok ()) :
    Rewrites files (files.create (base ++ [name]) (.file []) mode) (base ++ [name]) := by
  have inner : base ++ [name] ≠ [] := by simp
  have same_iff := sameNode_iff_of_absent numbered inner absent
  have isDirectory := isDirectory_of_requireWritable writable
  have frame : ∀ other, ¬ files.SameNode other (base ++ [name]) →
      (files.create (base ++ [name]) (.file []) mode).get? other = files.get? other := by
    intro other differs
    rw [create, get?_put numbered _ inner, if_neg (mt (same_iff other).mpr differs)]
  have changed : ∀ other, files.SameNode other (base ++ [name]) → files.Blocked other ∧
      (files.create (base ++ [name]) (.file []) mode).Blocked other := by
    intro other same
    cases (same_iff other).mp same
    refine ⟨fun found => ?_, fun found => ?_⟩
    · cases absent.symm.trans found
    · rw [create, get?_put numbered _ inner, if_pos rfl] at found
      cases found
      exact ⟨rfl, rfl⟩
  refine ⟨rfl, frame, changed, .of_put numbered, fun proper => ?_, numbered.put _ _,
    fun flat => flat.put _ _ plain⟩
  refine proper.of_blocked rfl frame changed fun above other node same _ => ?_
  cases List.append_inj_left' ((same_iff _).mp same) rfl
  exact isDirectory

theorem write_rewrites (numbered : files.Numbered) {path : String} {content : Octets}
    (written : files.write path content = .ok later) :
    ∃ base name, files.spot true path = .ok ⟨base, .named name, false⟩ ∧
      Rewrites files later (base ++ [name]) := by
  obtain ⟨⟨number, node, opened⟩, opening, writing⟩ := bind_eq_ok.mp written
  obtain ⟨base, name, leads, place⟩ := openToWrite_eq_ok opening
  refine ⟨base, name, leads, ?_⟩
  have inner : base ++ [name] ≠ [] := by simp
  rcases place with ⟨rfl, isNumber, found, noDirectory⟩ | ⟨absent, writable, rfl, isNumber, found⟩
  · have blocked : opened.Blocked (base ++ [name]) := by
      intro other same
      cases found.symm.trans same
      exact ⟨noDirectory, (spot_eq_ok_iff.mp leads).2.noLink rfl found⟩
    have unchanged : Rewrites opened opened (base ++ [name]) :=
      .unchanged numbered fun other same _ there => blocked (get?_of_sameNode inner same ▸ there)
    simp only at writing
    split at writing
    · cases writing
      exact setContent_rewrites numbered inner isNumber blocked (by simp) (by simp)
    · cases writing
      exact setContent_rewrites numbered inner isNumber blocked (by simp) (by simp)
    · split at writing
      · cases writing
        exact unchanged
      · cases writing
    · cases writing
      exact unchanged
  · have created := create_rewrites numbered 0o666 (flat_of_spot leads) absent writable
    rw [create, get?_put numbered _ inner, if_pos rfl] at found
    cases found
    cases writing
    exact created.trans (setContent_rewrites created.numbered inner isNumber
      (created.blocked _ (.inl rfl)).2 (by simp) (by simp))

theorem Rewrites.sameWays {location : Location} (rewrites : Rewrites files later location) :
    SameWays files later where
  current := rewrites.current.symm
  get? other := by
    by_cases same : files.SameNode other location
    · exact .inr (rewrites.blocked other same)
    · exact .inl (rewrites.frame other same).symm

end Modelsmith.Files
