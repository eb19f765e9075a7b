import Modelsmith.Proofs.Failing
import Modelsmith.Tree.Validation

/-! The trees that validation accepts.

A path is a list of slots to follow; the left and the right slot of a node count as different even
when they hold the same entry. A tree is well formed when its arrays fit together and, from the
root, every slot leads to a node that is there and every node is reached by one path only. The
search of validation is shown to decide this: it keeps nodes already met apart from nodes still to
be met, and below the pending nodes nothing is met twice.
-/

set_option autoImplicit false

namespace Modelsmith.Tree

inductive Side where
  | left
  | right
  deriving DecidableEq

def Side.entries (tree : Tree) : Side → List Int
  | .left => tree.lefts
  | .right => tree.rights

def IsSplit (tree : Tree) (node : Nat) : Prop :=
  ∃ threshold, tree.thresholds[node]? = some threshold ∧ isLeafMark threshold = false

/-- A child entry that counts: it stands in a split and is not absent. -/
def HasEntry (tree : Tree) (node : Nat) (side : Side) (entry : Int) : Prop :=
  tree.IsSplit node ∧ (side.entries tree)[node]? = some entry ∧ entry ≠ noChild

theorem HasEntry.child_unique {tree : Tree} {node child other : Nat} {side : Side}
    (first : tree.HasEntry node side child) (second : tree.HasEntry node side other) :
    child = other := by
  have same := first.2.1.symm.trans second.2.1
  exact Int.ofNat.inj (Option.some.inj same)

/-- Following a list of slots from one node leads to another. -/
inductive Below (tree : Tree) : Nat → List Side → Nat → Prop where
  | here (node : Nat) : Below tree node [] node
  | step {start child node : Nat} {side : Side} {path : List Side} :
      tree.HasEntry start side child → Below tree child path node →
      Below tree start (side :: path) node

abbrev Leads (tree : Tree) (path : List Side) (node : Nat) : Prop := tree.Below 0 path node

structure WellFormed (tree : Tree) : Prop where
  nonempty : tree.lefts ≠ [] ∧ tree.rights ≠ [] ∧ tree.thresholds ≠ [] ∧ tree.indices ≠ [] ∧
    tree.classes ≠ []
  lengths : tree.rights.length = tree.lefts.length ∧ tree.thresholds.length = tree.lefts.length ∧
    tree.indices.length = tree.lefts.length ∧ tree.classes.length = tree.lefts.length
  classRows : ∃ width, 1 ≤ width ∧ ∀ row ∈ tree.classes, row.length = width
  children : ∀ path node side entry, tree.Leads path node → tree.HasEntry node side entry →
    0 ≤ entry ∧ entry < tree.size
  features : ∀ path node, tree.Leads path node → tree.IsSplit node →
    ∃ feature, tree.indices[node]? = some feature ∧ 0 ≤ feature ∧
      ∀ width, tree.width = some width → feature < width
  onePath : ∀ path other node, tree.Leads path node → tree.Leads other node → path = other

/-! ## Checks in sequence -/

structure SameLengths (tree : Tree) : Prop where
  positive : 0 < tree.size
  rights : tree.rights.length = tree.size
  thresholds : tree.thresholds.length = tree.size
  indices : tree.indices.length = tree.size
  classes : tree.classes.length = tree.size

theorem checkLengths_eq_ok {tree : Tree} {result : Unit} :
    tree.checkLengths = .ok result ↔ tree.SameLengths := by
  have filled : ∀ {α : Type} (items : List α), (!items.isEmpty) = true ↔ 0 < items.length := by
    intro α items
    cases items <;> simp
  simp only [checkLengths, bind_eq_ok, require_eq_ok, filled, decide_eq_true_eq, exists_const]
  constructor
  · rintro ⟨lefts, -, -, -, -, rights, thresholds, indices, classes⟩
    exact ⟨lefts, rights, thresholds, indices, classes⟩
  · rintro ⟨positive, rights, thresholds, indices, classes⟩
    exact ⟨positive, by omega, by omega, by omega, by omega, rights, thresholds, indices, classes⟩

theorem firstFailing_eq_none {α : Type} {test : α → Bool} {items : List α} :
    firstFailing test items = none ↔ ∀ item ∈ items, test item = true := by
  simp only [firstFailing, Option.map_eq_none_iff, List.find?_eq_none]
  constructor
  · intro passed item member
    obtain ⟨index, at_index⟩ := List.mem_iff_getElem?.mp member
    have := passed (item, index) (List.mk_mem_zipIdx_iff_getElem?.mpr at_index)
    simpa using this
  · rintro passed ⟨item, index⟩ member
    have := passed item (List.fst_mem_of_mem_zipIdx member)
    simpa using this

theorem checkClassRows_eq_ok {tree : Tree} {result : Unit} :
    tree.checkClassRows = .ok result ↔
      tree.classCount ≠ 0 ∧ ∀ row ∈ tree.classes, row.length = tree.classCount := by
  simp only [checkClassRows, bind_eq_ok, require_eq_ok, decide_eq_true_eq, exists_const]
  refine and_congr_right fun _ => ?_
  constructor
  · intro passed
    split at passed
    · cases passed
    · rename_i none
      simpa using firstFailing_eq_none.mp none
  · intro passed
    rw [firstFailing_eq_none.mpr (by simpa using passed)]
    rfl

/-! ## One node -/

structure Sound (tree : Tree) (node : Nat) : Prop where
  feature : tree.IsSplit node → ∃ feature, tree.indices[node]? = some feature ∧ 0 ≤ feature ∧
    ∀ width, tree.width = some width → feature < width
  children : ∀ side entry, tree.HasEntry node side entry → 0 ≤ entry ∧ entry < tree.size

/-- The nodes a slot leads to: one or none. -/
structure Holds (tree : Tree) (node : Nat) (side : Side) (nodes : List Nat) : Prop where
  mem_iff : ∀ child, child ∈ nodes ↔ tree.HasEntry node side child
  atMostOne : nodes.length ≤ 1

theorem SameLengths.reads {tree : Tree} (lengths : tree.SameLengths) {node : Nat}
    (inside : node < tree.size) :
    ∃ threshold feature left right, tree.thresholds[node]? = some threshold ∧
      tree.indices[node]? = some feature ∧ tree.lefts[node]? = some left ∧
      tree.rights[node]? = some right := by
  obtain ⟨-, rights, thresholds, indices, -⟩ := lengths
  refine ⟨_, _, _, _, List.getElem?_eq_getElem (by omega), List.getElem?_eq_getElem (by omega),
    List.getElem?_eq_getElem inside, List.getElem?_eq_getElem (by omega)⟩

theorem checkChild_eq_ok {tree : Tree} {node : Nat} {entry : Int} {children : List Nat} :
    tree.checkChild node entry = .ok children ↔
      (entry = noChild ∧ children = []) ∨
        ∃ child : Nat, entry = child ∧ child < tree.size ∧ children = [child] := by
  unfold checkChild noChild
  split
  · rename_i absent
    subst absent
    constructor
    · rintro ⟨⟩
      exact .inl ⟨rfl, rfl⟩
    · rintro (⟨-, rfl⟩ | ⟨child, same, -⟩)
      · rfl
      · omega
  split
  · rename_i present outside
    constructor
    · rintro ⟨⟩
    · rintro (⟨absent, -⟩ | ⟨child, same, inside, -⟩) <;> omega
  · rename_i present inside
    constructor
    · rintro ⟨⟩
      exact .inr ⟨entry.toNat, by omega, by omega, rfl⟩
    · rintro (⟨absent, -⟩ | ⟨child, rfl, -, rfl⟩)
      · exact absurd absent present
      · rfl

theorem holds_of_checkChild {tree : Tree} {node : Nat} (side : Side) {entry : Int}
    {children : List Nat} (split : tree.IsSplit node)
    (read : (side.entries tree)[node]? = some entry)
    (passed : tree.checkChild node entry = .ok children) :
    tree.Holds node side children ∧
      ∀ other, tree.HasEntry node side other → 0 ≤ other ∧ other < tree.size := by
  rcases checkChild_eq_ok.mp passed with ⟨absent, rfl⟩ | ⟨child, rfl, inside, rfl⟩
  · have empty : ∀ other, ¬ tree.HasEntry node side other := by
      rintro other ⟨-, read', present⟩
      rw [read, Option.some.injEq] at read'
      exact present (read' ▸ absent)
    refine ⟨⟨fun child => ?_, by simp⟩, fun other has => absurd has (empty other)⟩
    simpa using empty child
  · have only : ∀ other, tree.HasEntry node side other ↔ other = child := by
      intro other
      constructor
      · rintro ⟨-, read', -⟩
        rw [read, Option.some.injEq] at read'
        exact read'.symm
      · rintro rfl
        exact ⟨split, read, by simp only [noChild]; omega⟩
    refine ⟨⟨fun other => ?_, by simp⟩, fun other has => ?_⟩
    · rw [List.mem_singleton, only, Int.ofNat_inj]
    · have := (only other).mp has
      omega

theorem checkNode_split_eq_ok {tree : Tree} {node : Nat} {threshold : Double}
    {feature left right : Int} {children : List Nat}
    (hthreshold : tree.thresholds[node]? = some threshold) (split : isLeafMark threshold = false)
    (hfeature : tree.indices[node]? = some feature) (hleft : tree.lefts[node]? = some left)
    (hright : tree.rights[node]? = some right) :
    tree.checkNode node = .ok children ↔
      0 ≤ feature ∧ (∀ width, tree.width = some width → feature < width) ∧
        ∃ lefts, tree.checkChild node left = .ok lefts ∧
          ∃ rights, tree.checkChild node right = .ok rights ∧ rights ++ lefts = children := by
  simp only [checkNode, hthreshold, hfeature, hleft, hright, Option.getD_some, split,
    Bool.false_eq_true, if_false]
  cases tree.width <;>
    simp [bind_eq_ok, require_eq_ok, exists_const, pure, Except.pure]

section
variable {tree : Tree} {node : Nat} (lengths : tree.SameLengths) (inside : node < tree.size)
include lengths inside

theorem sound_of_checkNode {children : List Nat} (passed : tree.checkNode node = .ok children) :
    tree.Sound node ∧ ∃ lefts rights, rights ++ lefts = children ∧
      tree.Holds node .left lefts ∧ tree.Holds node .right rights := by
  obtain ⟨threshold, feature, left, right, hthreshold, hfeature, hleft, hright⟩ :=
    lengths.reads inside
  cases leaf : isLeafMark threshold with
  | true =>
    have notSplit : ¬ tree.IsSplit node := by
      rintro ⟨other, read, split⟩
      rw [hthreshold, Option.some.injEq] at read
      rw [← read, leaf] at split
      cases split
    have empty : ∀ side, tree.Holds node side [] := fun side =>
      ⟨fun child => by simp [HasEntry, notSplit], by simp⟩
    simp only [checkNode, hthreshold, Option.getD_some, leaf, if_true] at passed
    cases passed
    exact ⟨⟨fun split => absurd split notSplit, fun side entry has => absurd has.1 notSplit⟩,
      [], [], rfl, empty _, empty _⟩
  | false =>
    have split : tree.IsSplit node := ⟨threshold, hthreshold, leaf⟩
    obtain ⟨nonneg, narrow, lefts, leftPassed, rights, rightPassed, same⟩ :=
      (checkNode_split_eq_ok hthreshold leaf hfeature hleft hright).mp passed
    obtain ⟨holdsLeft, leftInside⟩ := holds_of_checkChild .left split hleft leftPassed
    obtain ⟨holdsRight, rightInside⟩ := holds_of_checkChild .right split hright rightPassed
    refine ⟨⟨fun _ => ⟨feature, hfeature, nonneg, narrow⟩, ?_⟩, lefts, rights, same, holdsLeft,
      holdsRight⟩
    intro side entry has
    cases side with
    | left => exact leftInside entry has
    | right => exact rightInside entry has

theorem checkNode_of_sound (sound : tree.Sound node) :
    ∃ children, tree.checkNode node = .ok children := by
  obtain ⟨threshold, feature, left, right, hthreshold, hfeature, hleft, hright⟩ :=
    lengths.reads inside
  cases leaf : isLeafMark threshold with
  | true => exact ⟨[], by simp [checkNode, hthreshold, leaf, pure, Except.pure]⟩
  | false =>
    have split : tree.IsSplit node := ⟨threshold, hthreshold, leaf⟩
    obtain ⟨other, read, nonneg, narrow⟩ := sound.feature split
    rw [hfeature, Option.some.injEq] at read
    subst read
    have entryPasses : ∀ (side : Side) (entry : Int), (side.entries tree)[node]? = some entry →
        ∃ children, tree.checkChild node entry = .ok children := by
      intro side entry read
      by_cases absent : entry = noChild
      · exact ⟨[], checkChild_eq_ok.mpr (.inl ⟨absent, rfl⟩)⟩
      · have := sound.children side entry ⟨split, read, absent⟩
        exact ⟨[entry.toNat], checkChild_eq_ok.mpr (.inr ⟨entry.toNat, by omega, by omega, rfl⟩)⟩
    obtain ⟨lefts, leftPassed⟩ := entryPasses .left left hleft
    obtain ⟨rights, rightPassed⟩ := entryPasses .right right hright
    exact ⟨rights ++ lefts, (checkNode_split_eq_ok hthreshold leaf hfeature hleft hright).mpr
      ⟨nonneg, narrow, lefts, leftPassed, rights, rightPassed, rfl⟩⟩

end

/-! ## The search -/

theorem below_nil {tree : Tree} {start node : Nat} : tree.Below start [] node ↔ start = node := by
  constructor
  · rintro ⟨⟩
    rfl
  · rintro rfl
    exact .here start

theorem below_cons {tree : Tree} {start node : Nat} {side : Side} {path : List Side} :
    tree.Below start (side :: path) node ↔
      ∃ child : Nat, tree.HasEntry start side child ∧ tree.Below child path node := by
  constructor
  · rintro (_ | ⟨has, below⟩)
    exact ⟨_, has, below⟩
  · rintro ⟨child, has, below⟩
    exact .step has below

/-- Everything below the pending nodes is sound, new, and met by one path from one of them. -/
structure Untangled (tree : Tree) (visited pending : List Nat) : Prop where
  sound : ∀ start ∈ pending, ∀ path node, tree.Below start path node →
    node < tree.size ∧ tree.Sound node ∧ node ∉ visited
  onePath : ∀ start ∈ pending, ∀ path other node, tree.Below start path node →
    tree.Below start other node → path = other
  apart : pending.Pairwise fun first second => ∀ path other node, tree.Below first path node →
    ¬ tree.Below second other node

theorem untangled_nil (tree : Tree) (visited : List Nat) : tree.Untangled visited [] :=
  ⟨by simp, by simp, .nil⟩

theorem pairwise_of_length_le_one {α : Type} {relation : α → α → Prop} {items : List α}
    (short : items.length ≤ 1) : items.Pairwise relation := by
  match items, short with
  | [], _ => exact .nil
  | [item], _ => exact List.pairwise_singleton ..

section
variable {tree : Tree} {node : Nat} {lefts rights visited pending : List Nat}
  (holdsLeft : tree.Holds node .left lefts) (holdsRight : tree.Holds node .right rights)
include holdsLeft holdsRight

theorem mem_children_iff (child : Nat) :
    child ∈ rights ++ lefts ↔ ∃ side, tree.HasEntry node side child := by
  rw [List.mem_append, holdsLeft.mem_iff, holdsRight.mem_iff]
  constructor
  · rintro (right | left)
    · exact ⟨.right, right⟩
    · exact ⟨.left, left⟩
  · rintro ⟨side, has⟩
    cases side with
    | left => exact .inr has
    | right => exact .inl has

theorem Untangled.visit (untangled : tree.Untangled visited (node :: pending)) :
    tree.Untangled (node :: visited) (rights ++ lefts ++ pending) := by
  obtain ⟨sound, onePath, apart⟩ := untangled
  obtain ⟨apartNode, apartRest⟩ := List.pairwise_cons.mp apart
  refine ⟨?_, ?_, ?_⟩
  · intro start member path other below
    rcases List.mem_append.mp member with isChild | isPending
    · obtain ⟨side, has⟩ := (mem_children_iff holdsLeft holdsRight start).mp isChild
      obtain ⟨inside, isSound, new⟩ := sound node (by simp) _ _ (.step has below)
      refine ⟨inside, isSound, ?_⟩
      rw [List.mem_cons, not_or]
      refine ⟨?_, new⟩
      rintro rfl
      cases onePath other (by simp) _ _ _ (.here other) (.step has below)
    · obtain ⟨inside, isSound, new⟩ := sound start (by simp [isPending]) _ _ below
      refine ⟨inside, isSound, ?_⟩
      rw [List.mem_cons, not_or]
      refine ⟨?_, new⟩
      rintro rfl
      exact apartNode start isPending _ _ _ (.here other) below
  · intro start member path other goal first second
    rcases List.mem_append.mp member with isChild | isPending
    · obtain ⟨side, has⟩ := (mem_children_iff holdsLeft holdsRight start).mp isChild
      have same := onePath node (by simp) _ _ _ (.step has first) (.step has second)
      exact (List.cons.inj same).2
    · exact onePath start (by simp [isPending]) _ _ _ first second
  · rw [List.pairwise_append, List.pairwise_append]
    refine ⟨⟨pairwise_of_length_le_one holdsRight.atMostOne,
      pairwise_of_length_le_one holdsLeft.atMostOne, ?_⟩, apartRest, ?_⟩
    · intro right isRight left isLeft path other goal first second
      have hasRight := (holdsRight.mem_iff right).mp isRight
      have hasLeft := (holdsLeft.mem_iff left).mp isLeft
      cases onePath node (by simp) _ _ _ (.step hasRight first) (.step hasLeft second)
    · intro child isChild start isPending path other goal first second
      obtain ⟨side, has⟩ := (mem_children_iff holdsLeft holdsRight child).mp isChild
      exact apartNode start isPending _ _ _ (.step has first) second

theorem Untangled.unvisit (inside : node < tree.size) (isSound : tree.Sound node)
    (new : node ∉ visited)
    (untangled : tree.Untangled (node :: visited) (rights ++ lefts ++ pending)) :
    tree.Untangled visited (node :: pending) := by
  obtain ⟨sound, onePath, apart⟩ := untangled
  obtain ⟨apartChildren, apartRest, apartAcross⟩ := List.pairwise_append.mp apart
  obtain ⟨-, -, apartSides⟩ := List.pairwise_append.mp apartChildren
  have childMember : ∀ {side : Side} {child : Nat}, tree.HasEntry node side child →
      child ∈ rights ++ lefts := fun has =>
    (mem_children_iff holdsLeft holdsRight _).mpr ⟨_, has⟩
  -- The two sides of the node share nothing, whichever of them comes first.
  have apartEntries : ∀ {side otherSide : Side} {child otherChild goal : Nat}
      {path other : List Side}, side ≠ otherSide → tree.HasEntry node side child →
      tree.HasEntry node otherSide otherChild → tree.Below child path goal →
      ¬ tree.Below otherChild other goal := by
    intro side otherSide child otherChild goal path other different has otherHas first second
    cases side with
    | left =>
      cases otherSide with
      | left => exact different rfl
      | right =>
        exact apartSides otherChild ((holdsRight.mem_iff _).mpr otherHas) child
          ((holdsLeft.mem_iff _).mpr has) _ _ _ second first
    | right =>
      cases otherSide with
      | left =>
        exact apartSides child ((holdsRight.mem_iff _).mpr has) otherChild
          ((holdsLeft.mem_iff _).mpr otherHas) _ _ _ first second
      | right => exact different rfl
  -- The node counts as visited, so nothing that is pending leads back to it.
  have notBack : ∀ {start : Nat} {path : List Side}, start ∈ rights ++ lefts ++ pending →
      ¬ tree.Below start path node := fun member below =>
    (sound _ member _ _ below).2.2 (by simp)
  refine ⟨?_, ?_, ?_⟩
  · intro start member path goal below
    rcases List.mem_cons.mp member with rfl | isPending
    · cases path with
      | nil =>
        obtain rfl := below_nil.mp below
        exact ⟨inside, isSound, new⟩
      | cons side path =>
        obtain ⟨child, has, below⟩ := below_cons.mp below
        obtain ⟨goalInside, goalSound, goalNew⟩ :=
          sound child (List.mem_append_left _ (childMember has)) _ _ below
        exact ⟨goalInside, goalSound, fun old => goalNew (List.mem_cons_of_mem _ old)⟩
    · obtain ⟨goalInside, goalSound, goalNew⟩ :=
        sound start (List.mem_append_right _ isPending) _ _ below
      exact ⟨goalInside, goalSound, fun old => goalNew (List.mem_cons_of_mem _ old)⟩
  · intro start member path other goal first second
    rcases List.mem_cons.mp member with rfl | isPending
    · cases path with
      | nil =>
        obtain rfl := below_nil.mp first
        cases other with
        | nil => rfl
        | cons side other =>
          obtain ⟨child, has, back⟩ := below_cons.mp second
          exact absurd back (notBack (List.mem_append_left _ (childMember has)))
      | cons side path =>
        obtain ⟨child, has, below⟩ := below_cons.mp first
        cases other with
        | nil =>
          obtain rfl := below_nil.mp second
          exact absurd below (notBack (List.mem_append_left _ (childMember has)))
        | cons otherSide other =>
          obtain ⟨otherChild, otherHas, otherBelow⟩ := below_cons.mp second
          obtain rfl : side = otherSide := Decidable.byContradiction fun different =>
            apartEntries different has otherHas below otherBelow
          obtain rfl := has.child_unique otherHas
          rw [onePath child (List.mem_append_left _ (childMember has)) _ _ _ below otherBelow]
    · exact onePath start (List.mem_append_right _ isPending) _ _ _ first second
  · refine List.pairwise_cons.mpr ⟨?_, apartRest⟩
    intro start isPending path other goal first second
    cases path with
    | nil =>
      obtain rfl := below_nil.mp first
      exact notBack (List.mem_append_right _ isPending) second
    | cons side path =>
      obtain ⟨child, has, below⟩ := below_cons.mp first
      exact apartAcross child (childMember has) start isPending _ _ _ below second

end

theorem length_le_of_nodup {visited : List Nat} {size : Nat} (nodup : visited.Nodup)
    (inside : ∀ node ∈ visited, node < size) : visited.length ≤ size := by
  have subset : visited ⊆ List.range size := fun node member => List.mem_range.mpr (inside node member)
  simpa using nodup.length_le_of_subset subset

/-- What holds of the nodes met and the nodes pending while fuel is left. -/
structure Progress (tree : Tree) (fuel : Nat) (visited pending : List Nat) : Prop where
  nodup : visited.Nodup
  visited_lt : ∀ node ∈ visited, node < tree.size
  pending_lt : ∀ node ∈ pending, node < tree.size
  enough : tree.size ≤ fuel + visited.length

namespace Progress

variable {tree : Tree} {fuel node : Nat} {visited pending children : List Nat}

theorem start (lengths : tree.SameLengths) : tree.Progress tree.size [] [0] where
  nodup := .nil
  visited_lt := by simp
  pending_lt := by simpa using lengths.positive
  enough := by simp

theorem mem_visited (progress : tree.Progress 0 visited (node :: pending)) : node ∈ visited := by
  refine Decidable.byContradiction fun new => ?_
  have longer := length_le_of_nodup (List.nodup_cons.mpr ⟨new, progress.nodup⟩)
    (List.forall_mem_cons.mpr ⟨progress.pending_lt node (by simp), progress.visited_lt⟩)
  have := progress.enough
  simp only [List.length_cons] at longer
  omega

theorem visit (progress : tree.Progress (fuel + 1) visited (node :: pending))
    (new : node ∉ visited) (lengths : tree.SameLengths)
    (passed : tree.checkNode node = .ok children) :
    tree.Progress fuel (node :: visited) (children ++ pending) := by
  have inside := progress.pending_lt node (by simp)
  obtain ⟨sound, lefts, rights, rfl, holdsLeft, holdsRight⟩ :=
    sound_of_checkNode lengths inside passed
  refine ⟨List.nodup_cons.mpr ⟨new, progress.nodup⟩,
    List.forall_mem_cons.mpr ⟨inside, progress.visited_lt⟩, ?_, ?_⟩
  · intro other member
    rcases List.mem_append.mp member with isChild | isPending
    · obtain ⟨side, has⟩ := (mem_children_iff holdsLeft holdsRight other).mp isChild
      have := (sound.children side other has).2
      omega
    · exact progress.pending_lt other (by simp [isPending])
  · have := progress.enough
    simp only [List.length_cons]
    omega

end Progress

theorem explore_eq_ok {tree : Tree} (lengths : tree.SameLengths) {fuel : Nat}
    {visited pending : List Nat} (progress : tree.Progress fuel visited pending) :
    tree.explore fuel visited pending = .ok () ↔ tree.Untangled visited pending := by
  induction fuel generalizing visited pending with
  | zero =>
    cases pending with
    | nil => simp [explore, untangled_nil]
    | cons node pending =>
      -- No node is left to visit, so the pending one was met before.
      have old := progress.mem_visited
      simp only [explore, reduceCtorEq, false_iff]
      intro untangled
      exact (untangled.sound node (by simp) _ _ (.here node)).2.2 old
  | succ fuel ih =>
    cases pending with
    | nil => simp [explore, untangled_nil]
    | cons node pending =>
      have inside := progress.pending_lt node (by simp)
      rw [explore]
      split
      · rename_i old
        simp only [reduceCtorEq, false_iff]
        intro untangled
        exact (untangled.sound node (by simp) _ _ (.here node)).2.2 (List.contains_iff_mem.mp old)
      · rename_i new
        rw [List.contains_iff_mem] at new
        cases checked : tree.checkNode node with
        | error fault =>
          simp only [reduceCtorEq, false_iff]
          intro untangled
          obtain ⟨children, passed⟩ := checkNode_of_sound lengths inside
            (untangled.sound node (by simp) _ _ (.here node)).2.1
          rw [checked] at passed
          cases passed
        | ok children =>
          dsimp only
          rw [ih (progress.visit new lengths checked)]
          obtain ⟨sound, lefts, rights, rfl, holdsLeft, holdsRight⟩ :=
            sound_of_checkNode lengths inside checked
          exact ⟨.unvisit holdsLeft holdsRight inside sound new, .visit holdsLeft holdsRight⟩

/-! ## From the root -/

theorem Below.trans {tree : Tree} {start middle node : Nat} {path rest : List Side}
    (first : tree.Below start path middle) (second : tree.Below middle rest node) :
    tree.Below start (path ++ rest) node := by
  induction first with
  | here node => exact second
  | step has below ih => exact .step has (ih second)

theorem WellFormed.sameLengths {tree : Tree} (wellFormed : tree.WellFormed) :
    tree.SameLengths := by
  obtain ⟨rights, thresholds, indices, classes⟩ := wellFormed.lengths
  exact ⟨List.length_pos_iff.mpr wellFormed.nonempty.1, rights, thresholds, indices, classes⟩

theorem WellFormed.trail {tree : Tree} (wellFormed : tree.WellFormed) {start node : Nat}
    {path rest : List Side} (leads : tree.Leads path start) (inside : start < tree.size)
    (below : tree.Below start rest node) :
    node < tree.size ∧ ∃ nodes : List Nat, nodes.length = rest.length + 1 ∧ nodes.Nodup ∧
      ∀ other ∈ nodes, other < tree.size ∧ ∃ more, tree.Leads (path ++ more) other := by
  induction below generalizing path with
  | here node =>
    refine ⟨inside, [node], by simp, by simp, ?_⟩
    intro other member
    obtain rfl := List.mem_singleton.mp member
    exact ⟨inside, [], by simpa using leads⟩
  | @step start child node side rest has below ih =>
    have childInside := (wellFormed.children _ _ _ _ leads has).2
    have childLeads : tree.Leads (path ++ [side]) child := leads.trans (.step has (.here child))
    obtain ⟨nodeInside, nodes, length, nodup, reached⟩ := ih childLeads (by omega)
    refine ⟨nodeInside, start :: nodes, by simp [length], ?_, ?_⟩
    · refine List.nodup_cons.mpr ⟨fun again => ?_, nodup⟩
      obtain ⟨-, more, other⟩ := reached start again
      have same := congrArg List.length (wellFormed.onePath _ _ _ leads other)
      simp only [List.length_append, List.length_singleton] at same
      omega
    · refine List.forall_mem_cons.mpr ⟨⟨inside, [], by simpa using leads⟩, ?_⟩
      intro other member
      obtain ⟨otherInside, more, otherLeads⟩ := reached other member
      exact ⟨otherInside, side :: more, by simpa using otherLeads⟩

theorem WellFormed.node_lt {tree : Tree} (wellFormed : tree.WellFormed) {path : List Side}
    {node : Nat} (leads : tree.Leads path node) : node < tree.size :=
  (wellFormed.trail (.here 0) wellFormed.sameLengths.positive leads).1

theorem WellFormed.path_lt {tree : Tree} (wellFormed : tree.WellFormed) {path : List Side}
    {node : Nat} (leads : tree.Leads path node) : path.length < tree.size := by
  obtain ⟨-, nodes, length, nodup, reached⟩ :=
    wellFormed.trail (.here 0) wellFormed.sameLengths.positive leads
  have := length_le_of_nodup nodup fun other member => (reached other member).1
  omega

theorem validate_eq_ok {tree : Tree} :
    tree.validate = .ok () ↔ tree.SameLengths ∧
      (tree.classCount ≠ 0 ∧ ∀ row ∈ tree.classes, row.length = tree.classCount) ∧
      tree.Untangled [] [0] := by
  simp only [validate, bind_eq_ok, exists_const, checkLengths_eq_ok, checkClassRows_eq_ok]
  refine and_congr_right fun lengths => and_congr_right fun _ => ?_
  exact explore_eq_ok lengths (.start lengths)

theorem WellFormed.untangled {tree : Tree} (wellFormed : tree.WellFormed) :
    tree.Untangled [] [0] where
  sound := by
    intro start member path node below
    obtain rfl := List.mem_singleton.mp member
    refine ⟨wellFormed.node_lt below, ⟨wellFormed.features path node below, ?_⟩, by simp⟩
    intro side entry has
    exact wellFormed.children path node side entry below has
  onePath := by
    intro start member
    obtain rfl := List.mem_singleton.mp member
    exact wellFormed.onePath
  apart := List.pairwise_singleton ..

theorem classCount_eq {tree : Tree} {width : Nat} (nonempty : tree.classes ≠ [])
    (rows : ∀ row ∈ tree.classes, row.length = width) : tree.classCount = width := by
  unfold classCount
  cases classes : tree.classes with
  | nil => exact absurd classes nonempty
  | cons row rest => exact rows row (by simp [classes])

theorem validate_eq_ok_iff_wellFormed {tree : Tree} :
    tree.validate = .ok () ↔ tree.WellFormed := by
  rw [validate_eq_ok]
  constructor
  · rintro ⟨⟨positive, rights, thresholds, indices, classes⟩, ⟨someClass, rows⟩, untangled⟩
    have filled : ∀ {α : Type} {items : List α}, items.length = tree.size → items ≠ [] := by
      rintro α items length rfl
      exact absurd length (Nat.ne_of_lt positive)
    exact {
      nonempty := ⟨filled rfl, filled rights, filled thresholds, filled indices, filled classes⟩
      lengths := ⟨rights, thresholds, indices, classes⟩
      classRows := ⟨tree.classCount, Nat.pos_of_ne_zero someClass, rows⟩
      children := fun path node side entry leads =>
        (untangled.sound 0 (by simp) path node leads).2.1.children side entry
      features := fun path node leads => (untangled.sound 0 (by simp) path node leads).2.1.feature
      onePath := untangled.onePath 0 (by simp) }
  · intro wellFormed
    obtain ⟨width, positive, rows⟩ := wellFormed.classRows
    have count := classCount_eq wellFormed.nonempty.2.2.2.2 rows
    exact ⟨wellFormed.sameLengths, ⟨by omega, fun row member => count ▸ rows row member⟩,
      wellFormed.untangled⟩

end Modelsmith.Tree
