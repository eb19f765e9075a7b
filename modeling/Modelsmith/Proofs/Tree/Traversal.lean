import Modelsmith.Proofs.Tree.Branches

/-! The nodes of a tree from the root downwards, left before right, and the lines that each of them
contributes.

The traversal is told by the nodes alone and knows no fuel. A well-formed tree has one traversal; in
it every reached node stands with its own lines, at its own depth, and with nothing else.
-/

set_option autoImplicit false

namespace Modelsmith.Tree

/-! ## Own lines -/

structure Frame where
  opening : List Line
  middle : List Line
  closing : List Line

/-- A split with a child has one test and one end; only one with both children has a second side.
One without children writes nothing. -/
def frame (feature : Int) (threshold : Double) : (left right : Option Nat) → Frame
  | none, none => ⟨[], [], []⟩
  | some _, none => ⟨[.test feature .atMost threshold], [], [.close]⟩
  | none, some _ => ⟨[.test feature .above threshold], [], [.close]⟩
  | some _, some _ => ⟨[.test feature .atMost threshold], [.otherwise], [.close]⟩

def Node.ownLines : Node → List Line
  | .leaf counts => assignments counts
  | .split feature threshold left right =>
    let frame := frame feature threshold left right
    frame.opening ++ frame.middle ++ frame.closing

/-- A line with the node that it belongs to, and the depth of that node. -/
structure Entry where
  node : Nat
  depth : Nat
  line : Line

/-! ## Traversals -/

/-- The entries of a node and of all below it, depth first and left before right. -/
inductive Traversal (tree : Tree) : (depth node : Nat) → List Entry → Prop where
  | leaf {depth node : Nat} {counts : List Nat} : tree.node? node = some (.leaf counts) →
      Traversal tree depth node ((assignments counts).map (Entry.mk node depth))
  | split {depth node : Nat} {feature : Int} {threshold : Double} {left right : Option Nat}
      {first second : List Entry} :
      tree.node? node = some (.split feature threshold left right) →
      (∀ child, left = some child → Traversal tree (depth + 1) child first) →
      (left = none → first = []) →
      (∀ child, right = some child → Traversal tree (depth + 1) child second) →
      (right = none → second = []) →
      Traversal tree depth node
        ((frame feature threshold left right).opening.map (Entry.mk node depth) ++ first ++
          (frame feature threshold left right).middle.map (Entry.mk node depth) ++ second ++
          (frame feature threshold left right).closing.map (Entry.mk node depth))

theorem Traversal.unique {tree : Tree} {depth node : Nat} {entries others : List Entry}
    (traversal : tree.Traversal depth node entries) (again : tree.Traversal depth node others) :
    others = entries := by
  induction traversal generalizing others with
  | leaf is =>
    cases again with
    | leaf other =>
      cases is.symm.trans other
      rfl
    | split other => cases is.symm.trans other
  | @split _ _ _ _ left right _ _ is _ noLeft _ noRight ihLeft ihRight =>
    cases again with
    | leaf other => cases is.symm.trans other
    | split other otherLeft otherNoLeft otherRight otherNoRight =>
      cases is.symm.trans other
      congr 2
      · congr 2
        cases left with
        | none => rw [noLeft rfl, otherNoLeft rfl]
        | some child => rw [ihLeft child rfl (otherLeft child rfl)]
      · cases right with
        | none => rw [noRight rfl, otherNoRight rfl]
        | some child => rw [ihRight child rfl (otherRight child rfl)]

def linesOf (tree : Tree) (fuel depth : Nat) : Option Nat → List (Nat × Line)
  | none => []
  | some child => tree.linesFrom fuel depth child

theorem linesFrom_split {tree : Tree} (fuel depth : Nat) {node : Nat} {feature : Int}
    {threshold : Double} {left right : Option Nat}
    (is : tree.node? node = some (.split feature threshold left right)) :
    tree.linesFrom (fuel + 1) depth node =
      (frame feature threshold left right).opening.map (depth, ·) ++
        tree.linesOf fuel (depth + 1) left ++
        (frame feature threshold left right).middle.map (depth, ·) ++
        tree.linesOf fuel (depth + 1) right ++
        (frame feature threshold left right).closing.map (depth, ·) := by
  cases left <;> cases right <;> simp [linesFrom, is, frame, linesOf]

section
variable {tree : Tree} (wellFormed : tree.WellFormed)
include wellFormed

theorem WellFormed.exists_traversal {fuel node : Nat} {path : List Side}
    (leads : tree.Leads path node) (enough : tree.size ≤ path.length + fuel) :
    ∃ entries, tree.Traversal path.length node entries ∧
      tree.linesFrom fuel path.length node = entries.map fun entry => (entry.depth, entry.line) := by
  induction fuel generalizing node path with
  | zero =>
    -- No path is longer than the tree is large, so that fuel is left at every node.
    have := wellFormed.path_lt leads
    omega
  | succ fuel ih =>
    have below : ∀ (side : Side) (child : Option Nat),
        (∀ next, child = some next → tree.Leads (path ++ [side]) next) →
        ∃ entries, (∀ next, child = some next → tree.Traversal (path.length + 1) next entries) ∧
          (child = none → entries = []) ∧ tree.linesOf fuel (path.length + 1) child =
            entries.map fun entry => (entry.depth, entry.line) := by
      intro side child leadsChild
      cases child with
      | none => exact ⟨[], by simp, fun _ => rfl, rfl⟩
      | some next =>
        obtain ⟨entries, traversal, lines⟩ := ih (leadsChild next rfl) (by simp; omega)
        rw [List.length_append, List.length_singleton] at traversal lines
        refine ⟨entries, ?_, by simp, lines⟩
        rintro _ ⟨⟩
        exact traversal
    obtain leaf | ⟨feature, threshold, left, right, split⟩ := wellFormed.node_cases leads
    · exact ⟨_, .leaf leaf.atNode, by simp [linesFrom, leaf.atNode]⟩
    · obtain ⟨first, eachLeft, noLeft, leftLines⟩ := below .left left split.leadsLeft
      obtain ⟨second, eachRight, noRight, rightLines⟩ := below .right right split.leadsRight
      refine ⟨_, .split split.atNode eachLeft noLeft eachRight noRight, ?_⟩
      rw [linesFrom_split fuel _ split.atNode, leftLines, rightLines]
      simp only [List.map_append, List.map_map, Function.comp_def]

theorem WellFormed.branchLines_eq : ∃ entries, tree.Traversal 0 0 entries ∧
    tree.branchLines = entries.map fun entry => (entry.depth, entry.line) :=
  wellFormed.exists_traversal (.here 0) (Nat.le_add_left _ _)

/-! ## The entries of a node -/

theorem SplitAt.of_node? {path : List Side} {node : Nat} (leads : tree.Leads path node)
    {feature : Int} {threshold : Double} {left right : Option Nat}
    (is : tree.node? node = some (.split feature threshold left right)) :
    tree.SplitAt path node feature threshold left right := by
  obtain leaf | ⟨_, _, _, _, split⟩ := wellFormed.node_cases leads
  · cases is.symm.trans leaf.atNode
  · cases is.symm.trans split.atNode
    exact split

omit wellFormed in
theorem eq_of_entryFor {node child : Nat} {side : Side} {option : Option Nat}
    (read : (side.entries tree)[node]? = some (entryFor option))
    (has : tree.HasEntry node side child) : option = some child := by
  have same := Option.some.inj (read.symm.trans has.2.1)
  cases option with
  | none => exact absurd same.symm has.2.2
  | some next => rw [Int.ofNat.inj same]

theorem Traversal.leads {depth node : Nat} {entries : List Entry}
    (traversal : tree.Traversal depth node entries) {path : List Side}
    (leads : tree.Leads path node) :
    ∀ entry ∈ entries, ∃ more, tree.Leads (path ++ more) entry.node := by
  induction traversal generalizing path with
  | leaf is =>
    intro entry member
    obtain ⟨line, -, rfl⟩ := List.mem_map.mp member
    exact ⟨[], by simpa using leads⟩
  | @split _ node _ _ left right first second is _ noLeft _ noRight ihLeft ihRight =>
    have split := SplitAt.of_node? wellFormed leads is
    have own : ∀ entry : Entry, entry.node = node → ∃ more, tree.Leads (path ++ more) entry.node :=
      fun entry same => ⟨[], by simpa [same] using leads⟩
    intro entry member
    simp only [List.mem_append, List.mem_map] at member
    rcases member with (((⟨_, -, rfl⟩ | inside) | ⟨_, -, rfl⟩) | inside) | ⟨_, -, rfl⟩
    · exact own _ rfl
    · cases left with
      | none => simp [noLeft rfl] at inside
      | some child =>
        obtain ⟨more, reached⟩ := ihLeft child rfl (split.leadsLeft child rfl) entry inside
        exact ⟨.left :: more, by simpa using reached⟩
    · exact own _ rfl
    · cases right with
      | none => simp [noRight rfl] at inside
      | some child =>
        obtain ⟨more, reached⟩ := ihRight child rfl (split.leadsRight child rfl) entry inside
        exact ⟨.right :: more, by simpa using reached⟩
    · exact own _ rfl

theorem Traversal.filter_eq_nil {depth node target : Nat} {entries : List Entry}
    (traversal : tree.Traversal depth node entries) {path other : List Side}
    (leads : tree.Leads path node) (reached : tree.Leads other target) (apart : ¬ path <+: other) :
    entries.filter (fun entry => entry.node = target) = [] := by
  refine List.filter_eq_nil_iff.mpr fun entry member same => ?_
  obtain ⟨more, also⟩ := traversal.leads wellFormed leads entry member
  rw [of_decide_eq_true same] at also
  exact apart ⟨more, wellFormed.onePath _ _ _ also reached⟩

omit wellFormed in
theorem not_prefix_concat (path : List Side) (side : Side) : ¬ path ++ [side] <+: path := by
  intro longer
  have := longer.length_le
  rw [List.length_append, List.length_singleton] at this
  omega

omit wellFormed in
theorem filter_own (node depth target : Nat) (lines : List Line) :
    (lines.map (Entry.mk node depth)).filter (fun entry => entry.node = target) =
      if node = target then lines.map (Entry.mk node depth) else [] := by
  by_cases same : node = target
  · rw [if_pos same, List.filter_eq_self]
    intro entry member
    obtain ⟨line, -, rfl⟩ := List.mem_map.mp member
    exact decide_eq_true same
  · rw [if_neg same, List.filter_eq_nil_iff]
    intro entry member
    obtain ⟨line, -, rfl⟩ := List.mem_map.mp member
    simpa using same

theorem Traversal.filter_eq {depth node : Nat} {entries : List Entry}
    (traversal : tree.Traversal depth node entries) {path : List Side}
    (leads : tree.Leads path node) {more : List Side} {target : Nat}
    (below : tree.Below node more target) {found : Node} (is : tree.node? target = some found) :
    entries.filter (fun entry => entry.node = target) =
      found.ownLines.map (Entry.mk target (depth + more.length)) := by
  induction traversal generalizing path more with
  | @leaf depth node counts isLeaf =>
    cases below with
    | here =>
      cases isLeaf.symm.trans is
      rw [filter_own, if_pos rfl]
      rfl
    | step has =>
      obtain leaf | ⟨_, _, _, _, split⟩ := wellFormed.node_cases leads
      · obtain ⟨threshold, atThreshold, marked⟩ := leaf.isLeaf
        obtain ⟨other, again, unmarked⟩ := has.1
        cases atThreshold.symm.trans again
        cases marked.symm.trans unmarked
      · cases isLeaf.symm.trans split.atNode
  | @split depth node feature threshold left right first second isSplit eachLeft noLeft eachRight
      noRight ihLeft ihRight =>
    have split := SplitAt.of_node? wellFormed leads isSplit
    -- What is below a side holds nothing of a node whose path takes the other side or ends before.
    have apart : ∀ {side : Side} {child : Option Nat} {entries : List Entry} {other : List Side},
        (∀ next, child = some next → tree.Traversal (depth + 1) next entries) →
        (child = none → entries = []) →
        (∀ next, child = some next → tree.Leads (path ++ [side]) next) →
        tree.Leads other target → ¬ path ++ [side] <+: other →
        entries.filter (fun entry => entry.node = target) = [] := by
      intro side child entries other each absent leadsChild reached apart
      cases child with
      | none => simp [absent rfl]
      | some next => exact (each next rfl).filter_eq_nil wellFormed (leadsChild next rfl) reached apart
    have reached := leads.trans below
    simp only [List.filter_append, filter_own]
    cases below with
    | here =>
      rw [apart eachLeft noLeft split.leadsLeft leads (not_prefix_concat path _),
        apart eachRight noRight split.leadsRight leads (not_prefix_concat path _)]
      cases isSplit.symm.trans is
      simp [Node.ownLines]
    | @step _ child _ side more has below =>
      have other : node ≠ target := by
        rintro rfl
        have same := congrArg List.length (wellFormed.onePath _ _ _ leads reached)
        simp at same
      simp only [if_neg other, List.nil_append, List.append_nil, List.length_cons]
      cases side with
      | left =>
        have entry := eq_of_entryFor split.atLeft has
        rw [ihLeft child entry (split.leadsLeft child entry) below,
          apart eachRight noRight split.leadsRight reached (by simp), List.append_nil,
          Nat.add_right_comm, Nat.add_assoc]
      | right =>
        have entry := eq_of_entryFor split.atRight has
        rw [ihRight child entry (split.leadsRight child entry) below,
          apart eachLeft noLeft split.leadsLeft reached (by simp), List.nil_append,
          Nat.add_right_comm, Nat.add_assoc]

end

end Modelsmith.Tree
