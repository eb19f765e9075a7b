import Modelsmith.Proofs.Largest
import Modelsmith.Proofs.Tree.Reads

/-! Evaluation of the trees that validation accepts.

A row goes through a tree by plain reads of the arrays and of the row itself, each of which may
miss. On a row as wide as the tree counts features no read misses, whatever splits that are never
reached contribute to that count. The walk meets no node twice, so it ends, in a leaf or at a
missing child.
-/

set_option autoImplicit false

namespace Modelsmith.Tree

/-! ## Walks -/

def IsLeaf (tree : Tree) (node : Nat) : Prop :=
  ∃ threshold, tree.thresholds[node]? = some threshold ∧ isLeafMark threshold = true

/-- A split sends a row to an entry: the feature is no negative one, and all reads are in range. -/
def Sends (tree : Tree) (row : List Double) (node : Nat) (entry : Int) : Prop :=
  ∃ threshold value, ∃ feature : Nat, tree.thresholds[node]? = some threshold ∧
    isLeafMark threshold = false ∧ tree.indices[node]? = some (feature : Int) ∧
    row[feature]? = some value ∧
    (if value.le threshold then tree.lefts else tree.rights)[node]? = some entry

/-- The walk of a row from a node: the nodes that it visits, and the leaf in which it ends, none
when it leaves the tree through a missing child. -/
inductive Walk (tree : Tree) (row : List Double) : Nat → List Nat → Option Nat → Prop where
  | arrive {node : Nat} : tree.IsLeaf node → Walk tree row node [node] (some node)
  | leave {node : Nat} : tree.Sends row node noChild → Walk tree row node [node] none
  | step {node child : Nat} {nodes : List Nat} {result : Option Nat} :
      tree.Sends row node child → Walk tree row child nodes result →
      Walk tree row node (node :: nodes) result

theorem Walk.ends {tree : Tree} {row : List Double} {start leaf : Nat} {nodes : List Nat}
    (walk : tree.Walk row start nodes (some leaf)) : tree.IsLeaf leaf ∧ leaf ∈ nodes := by
  generalize ended : some leaf = result at walk
  induction walk with
  | arrive isLeaf =>
    cases ended
    exact ⟨isLeaf, by simp⟩
  | leave sends => cases ended
  | step sends walk ih => exact ⟨(ih ended).1, List.mem_cons_of_mem _ (ih ended).2⟩

theorem SplitAt.sends {tree : Tree} {path : List Side} {node : Nat} {feature : Int}
    {threshold value : Double} {left right : Option Nat} {row : List Double}
    (split : tree.SplitAt path node feature threshold left right)
    (read : row[feature.toNat]? = some value) :
    tree.Sends row node (entryFor (if value.le threshold then left else right)) := by
  refine ⟨threshold, value, feature.toNat, split.atThreshold, split.isSplit, ?_, read, ?_⟩
  · rw [split.atIndex, Int.toNat_of_nonneg split.nonneg]
  · cases value.le threshold
    · exact split.atRight
    · exact split.atLeft

theorem SplitAt.leads {tree : Tree} {path : List Side} {node child : Nat} {feature : Int}
    {threshold : Double} {left right : Option Nat}
    (split : tree.SplitAt path node feature threshold left right) {atMost : Bool}
    (chosen : (if atMost then left else right) = some child) :
    ∃ side, tree.Leads (path ++ [side]) child := by
  cases atMost with
  | true => exact ⟨.left, split.leadsLeft child chosen⟩
  | false => exact ⟨.right, split.leadsRight child chosen⟩

theorem foldlM_add_wrap (counts : List Nat) {start : Nat} (small : start < 2 ^ 64) :
    counts.foldlM (Overflow.add .wrap) start = .ok ((start + counts.sum) % 2 ^ 64) := by
  induction counts generalizing start with
  | nil =>
    change Except.ok start = .ok ((start + 0) % 2 ^ 64)
    rw [Nat.add_zero, Nat.mod_eq_of_lt small]
  | cons count counts ih =>
    have added : Overflow.add .wrap start count = .ok ((start + count) % 2 ^ 64) := by
      unfold Overflow.add
      split
      next fits => rw [Nat.mod_eq_of_lt fits]
      next => rfl
    rw [List.foldlM_cons, added, ok_bind, ih (Nat.mod_lt _ (by decide)), Nat.mod_add_mod,
      List.sum_cons, Nat.add_assoc]

/-- With checks, the sum is found when the whole of it fits, as no part of it is larger. -/
theorem foldlM_add_stop (counts : List Nat) {start : Nat} (small : start < 2 ^ 64) :
    counts.foldlM (Overflow.add .stop) start =
      if start + counts.sum < 2 ^ 64 then .ok (start + counts.sum) else .error .overflow := by
  induction counts generalizing start with
  | nil => exact (if_pos small).symm
  | cons count counts ih =>
    rw [List.foldlM_cons, Overflow.add, List.sum_cons, ← Nat.add_assoc]
    by_cases fits : start + count < 2 ^ 64
    · rw [if_pos fits, ok_bind, ih fits]
    · rw [if_neg fits, if_neg (by omega)]
      rfl

theorem total_wrap (counts : List Nat) : total .wrap counts = .ok (counts.sum % 2 ^ 64) := by
  rw [total, foldlM_add_wrap counts (by decide), Nat.zero_add]

theorem total_stop_of_lt {counts : List Nat} (small : counts.sum < 2 ^ 64) :
    total .stop counts = .ok counts.sum := by
  rw [total, foldlM_add_stop counts (by decide), Nat.zero_add, if_pos small]

theorem total_stop_of_le {counts : List Nat} (large : 2 ^ 64 ≤ counts.sum) :
    total .stop counts = .error .overflow := by
  rw [total, foldlM_add_stop counts (by decide), Nat.zero_add, if_neg (by omega)]

theorem length_shares (total : Nat) (counts : List Nat) :
    (shares total counts).length = counts.length := by
  simp [shares]

/-! ## Answers -/

/-- The class of a row, by the end of its walk. -/
def Chosen (tree : Tree) : Option Nat → Nat → Prop
  | none, class_ => class_ = 0
  | some leaf, class_ => ∃ counts largest, tree.classes[leaf]? = some counts ∧
    LargestAt counts class_ largest

/-- The shares for a row, by the end of its walk: one for each class, and nothing to share without
a leaf or without counts. -/
structure Shared (tree : Tree) (result : Option Nat) (shares : List Double) : Prop where
  length : shares.length = tree.classCount
  nowhere : result = none → ∀ share ∈ shares, share = Double.zero
  uncounted : ∀ leaf counts, result = some leaf → tree.classes[leaf]? = some counts →
    (∀ count ∈ counts, count = 0) → ∀ share ∈ shares, share = Double.zero

/-- The walk ends at counts whose sum does not fit into a word. -/
def Overflows (tree : Tree) (result : Option Nat) : Prop :=
  ∃ leaf counts, result = some leaf ∧ tree.classes[leaf]? = some counts ∧ 2 ^ 64 ≤ counts.sum

theorem overflows_iff {tree : Tree} {leaf : Nat} {counts : List Nat}
    (found : tree.classes[leaf]? = some counts) :
    tree.Overflows (some leaf) ↔ 2 ^ 64 ≤ counts.sum := by
  constructor
  · rintro ⟨other, others, ⟨⟩, atOther, large⟩
    cases found.symm.trans atOther
    exact large
  · exact fun large => ⟨leaf, counts, rfl, found, large⟩

theorem shared_shares {tree : Tree} {leaf : Nat} {counts : List Nat}
    (found : tree.classes[leaf]? = some counts) (length : counts.length = tree.classCount) :
    tree.Shared (some leaf) (shares (counts.sum % 2 ^ 64) counts) := by
  refine ⟨(length_shares ..).trans length, (by rintro ⟨⟩), ?_⟩
  rintro other others ⟨⟩ atOther zeros share member
  cases found.symm.trans atOther
  obtain ⟨count, -, rfl⟩ := List.mem_map.mp member
  simp [List.sum_eq_zero_iff_forall_eq_nat.mpr zeros]

section

variable {tree : Tree} (wellFormed : tree.WellFormed) {row : List Double} {result : Option Nat}
  (walked : tree.leaf row = .ok result) (reached : ∀ leaf, result = some leaf → leaf < tree.size)
include wellFormed walked reached

theorem WellFormed.chosen : ∃ class_, tree.predict row = .ok class_ ∧
    class_ < tree.classCount ∧ tree.Chosen result class_ := by
  obtain ⟨width, positive, rows⟩ := wellFormed.classRows
  have classCount := classCount_eq wellFormed.nonempty.2.2.2.2 rows
  rw [predict, walked]
  cases result with
  | none => exact ⟨0, rfl, by omega, rfl⟩
  | some leaf =>
    have atClasses := wellFormed.sameLengths.atClasses (reached leaf rfl)
    have length := rows _ (List.mem_of_getElem? atClasses)
    have filled : tree.counts leaf ≠ [] := by
      intro empty
      simp [empty] at length
      omega
    obtain ⟨largest, first⟩ := largestAt_firstLargest filled
    refine ⟨_, rfl, ?_, tree.counts leaf, largest, atClasses, first⟩
    rw [classCount, ← length]
    exact first.lt

theorem WellFormed.shared : ∃ shares, tree.probabilities row = .ok shares ∧
    tree.Shared result shares ∧
    (¬tree.Overflows result → tree.probabilitiesBy .stop row = .ok shares) ∧
    (tree.Overflows result → tree.probabilitiesBy .stop row = .error .overflow) := by
  obtain ⟨width, -, rows⟩ := wellFormed.classRows
  have classCount := classCount_eq wellFormed.nonempty.2.2.2.2 rows
  simp only [probabilities, probabilitiesBy, walked, ok_bind]
  cases result with
  | none =>
    refine ⟨_, rfl, ⟨List.length_replicate, fun _ share => List.eq_of_mem_replicate, ?_⟩,
      fun _ => rfl, ?_⟩
    · rintro leaf counts ⟨⟩
    · rintro ⟨leaf, counts, ⟨⟩, -⟩
  | some leaf =>
    have atClasses := wellFormed.sameLengths.atClasses (reached leaf rfl)
    have overflows := overflows_iff atClasses
    have length := (rows _ (List.mem_of_getElem? atClasses)).trans classCount.symm
    simp only [total_wrap, ok_bind]
    refine ⟨_, rfl, shared_shares atClasses length, fun fits => ?_, fun large => ?_⟩
    · have small := Nat.lt_of_not_le (mt overflows.mpr fits)
      simp only [total_stop_of_lt small, Nat.mod_eq_of_lt small, ok_bind]
      rfl
    · simp only [total_stop_of_le (overflows.mp large)]
      rfl

end

/-- A leaf with counts that are words, and too large to be added. -/
def brimming : Tree := ⟨[-1], [-1], [leafMark], [0], [[18446744073709551615, 1]], none⟩

example : brimming.validate = .ok () ∧
    brimming.probabilities [Double.zero] = .ok [Double.zero, Double.zero] ∧
    brimming.probabilitiesBy .stop [Double.zero] = .error .overflow := by
  decide +kernel

end Modelsmith.Tree
