import Mathlib.Data.List.Basic
import Modelsmith.Proofs.Tree.WellFormed

/-! How many features a tree counts.

The count is the declared one or goes by the splits, reached or not. It is told once more by plain
reads of the arrays, none of which misses when they have one length; and whatever splits that are
never reached add to it, it exceeds the feature of every split that is reached.
-/

set_option autoImplicit false

namespace Modelsmith.Tree

/-! ## The count by reads -/

/-- The width that a node asks for, none for a leaf. -/
def widthAt? (tree : Tree) (node : Nat) : Option (Option Nat) := do
  let threshold ← tree.thresholds[node]?
  if isLeafMark threshold then return none
  else
    let feature ← tree.indices[node]?
    return some (widthFor feature)

def countFeatures? (tree : Tree) : Option Nat :=
  match tree.width with
  | some width => some width
  | none =>
    ((List.range tree.size).mapM tree.widthAt?).map fun widths => (widths.filterMap id).max?.getD 1

theorem filterMap_range {α β : Type} (items : List α) (pick : α → Option β) :
    (List.range items.length).filterMap (fun index => items[index]?.bind pick) =
      items.filterMap pick := by
  induction items with
  | nil => rfl
  | cons first rest ih =>
    rw [List.length_cons, List.range_succ_eq_map, List.filterMap_cons, List.filterMap_cons,
      List.filterMap_map]
    simp only [List.getElem?_cons_zero, Option.bind_some, Function.comp_def,
      List.getElem?_cons_succ, ih]

theorem SameLengths.length_zip {tree : Tree} (lengths : tree.SameLengths) :
    (tree.thresholds.zip tree.indices).length = tree.size := by
  simp [lengths.thresholds, lengths.indices]

theorem SameLengths.zip_reads {tree : Tree} (lengths : tree.SameLengths) {node : Nat}
    (inside : node < tree.size) :
    ∃ threshold feature, tree.thresholds[node]? = some threshold ∧
      tree.indices[node]? = some feature ∧
      (tree.thresholds.zip tree.indices)[node]? = some (threshold, feature) := by
  obtain ⟨threshold, feature, -, -, atThreshold, atIndex, -, -⟩ := lengths.reads inside
  exact ⟨threshold, feature, atThreshold, atIndex,
    List.getElem?_zip_eq_some.mpr ⟨atThreshold, atIndex⟩⟩

theorem SameLengths.countFeatures?_eq {tree : Tree} (lengths : tree.SameLengths) :
    tree.countFeatures? = some tree.featureCount := by
  unfold countFeatures? featureCount
  cases tree.width with
  | some width => rfl
  | none =>
    have each : ∀ node ∈ List.range tree.size, tree.widthAt? node =
        pure ((tree.thresholds.zip tree.indices)[node]?.bind fun pair =>
          if isLeafMark pair.1 then none else some (widthFor pair.2)) := by
      intro node member
      obtain ⟨threshold, feature, atThreshold, atIndex, paired⟩ :=
        lengths.zip_reads (List.mem_range.mp member)
      rw [paired]
      cases isLeaf : isLeafMark threshold <;> simp [widthAt?, atThreshold, atIndex, isLeaf]
    rw [mapM_eq_pure each]
    simp only [pure, Option.map_some, List.filterMap_map, Option.getD_none]
    rw [← lengths.length_zip]
    exact congrArg (fun widths : List Nat => some (widths.max?.getD 1))
      (filterMap_range (tree.thresholds.zip tree.indices) _)

/-! ## The features of reached splits -/

theorem le_max?_filterMap {α : Type} {items : List α} {pick : α → Option Nat} {item : α}
    {value otherwise : Nat} (member : item ∈ items) (picked : pick item = some value) :
    value ≤ (items.filterMap pick).max?.getD otherwise := by
  have listed : value ∈ items.filterMap pick := List.mem_filterMap.mpr ⟨item, member, picked⟩
  obtain ⟨largest, isLargest⟩ := Option.isSome_iff_exists.mp (List.isSome_max?_of_mem listed)
  rw [isLargest]
  exact (List.max?_le_iff isLargest).mp (Nat.le_refl _) _ listed

def splits (tree : Tree) : List Nat :=
  (List.range tree.size).filter fun node => tree.thresholds[node]?.map isLeafMark = some false

/-- A number of features for a tree: the declared one, or the largest number that a split needs.
A split needs one more than its feature; what a negative feature needs is left open. -/
def CountsFeatures (tree : Tree) (count : Nat) : Prop :=
  match tree.width with
  | some width => count = width
  | none => ∃ need : Nat → Nat,
    (∀ node (feature : Nat), tree.indices[node]? = some (feature : Int) → need node = feature + 1) ∧
      count = (tree.splits.map need).max?.getD 1

theorem SameLengths.countsFeatures {tree : Tree} (lengths : tree.SameLengths) :
    tree.CountsFeatures tree.featureCount := by
  unfold CountsFeatures featureCount
  cases tree.width with
  | some width => rfl
  | none =>
    refine ⟨fun node => widthFor (tree.indices[node]?.getD 0), ?_, ?_⟩
    · intro node feature read
      simp [read, widthFor]
    · rw [Option.getD_none, ← filterMap_range, splits, ← List.filterMap_eq_filter,
        List.map_filterMap]
      rw [lengths.length_zip]
      congr 2
      refine List.filterMap_congr fun node member => ?_
      obtain ⟨threshold, feature, atThreshold, atIndex, paired⟩ :=
        lengths.zip_reads (List.mem_range.mp member)
      rw [paired]
      cases isLeaf : isLeafMark threshold <;> simp [Option.guard, atThreshold, atIndex, isLeaf]

theorem CountsFeatures.feature_lt {tree : Tree} {count : Nat} (counts : tree.CountsFeatures count)
    (wellFormed : tree.WellFormed) {path : List Side} {node : Nat} (leads : tree.Leads path node)
    (split : tree.IsSplit node) {feature : Int} (read : tree.indices[node]? = some feature) :
    0 ≤ feature ∧ feature < count := by
  obtain ⟨other, found, nonneg, declared⟩ := wellFormed.features path node leads split
  cases read.symm.trans found
  refine ⟨nonneg, ?_⟩
  unfold CountsFeatures at counts
  cases width : tree.width with
  | some width' =>
    rw [width] at counts
    exact counts ▸ declared width' width
  | none =>
    rw [width] at counts
    obtain ⟨need, needs, rfl⟩ := counts
    obtain ⟨threshold, atThreshold, isSplit⟩ := split
    have listed : node ∈ tree.splits :=
      List.mem_filter.mpr ⟨List.mem_range.mpr (wellFormed.node_lt leads), by
        simp [atThreshold, isSplit]⟩
    have needed := needs node feature.toNat (by rw [read, Int.toNat_of_nonneg nonneg])
    have most : need node ≤ (tree.splits.map need).max?.getD 1 := by
      rw [← List.filterMap_eq_map]
      exact le_max?_filterMap listed rfl
    omega

/-- A row has every feature that a reached split asks for. -/
def HasFeatures (tree : Tree) (row : List Double) : Prop :=
  ∀ path node feature, tree.Leads path node → tree.IsSplit node →
    tree.indices[node]? = some feature → 0 ≤ feature ∧ feature < row.length

theorem CountsFeatures.hasFeatures {tree : Tree} {count : Nat} (counts : tree.CountsFeatures count)
    (wellFormed : tree.WellFormed) {row : List Double} (wide : count ≤ row.length) :
    tree.HasFeatures row := by
  intro path node feature leads split read
  have := counts.feature_lt wellFormed leads split read
  omega

end Modelsmith.Tree
