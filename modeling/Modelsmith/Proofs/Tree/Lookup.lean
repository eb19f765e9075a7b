import Modelsmith.Proofs.Tree.Branches
import Modelsmith.Proofs.Tree.Mark

/-! The loop that looks a row up in the arrays of a tree.

The loop knows a leaf by its threshold alone, and the threshold is the one that was read. A split
whose threshold reads as the mark is taken for a leaf, so the loop ends with the counts of the first
such split on its way, and with the counts of the walk when there is none.
-/

set_option autoImplicit false

namespace Modelsmith.Tree

/-! ## The loop -/

structure Arrays where
  lefts : List Int
  rights : List Int
  thresholds : List Double
  indices : List Int
  classes : List (List Nat)

def itemAt? {α : Type} (items : List α) (index : Int) : Option α :=
  if index < 0 then none else items[index.toNat]?

@[simp] theorem itemAt?_natCast {α : Type} (items : List α) (index : Nat) :
    itemAt? items index = items[index]? := by
  simp [itemAt?, show ¬ (index : Int) < 0 by omega]

/-- The counts found from a node on, in at most `fuel` turns of the loop: those of the first node
with the mark, or as many zeros as the first node has counts once a child is missing. -/
def Arrays.lookup (arrays : Arrays) (row : List Double) :
    (fuel : Nat) → (node : Int) → Option (List Nat)
  | 0, _ => none
  | fuel + 1, node => do
    let threshold ← itemAt? arrays.thresholds node
    if isLeafMark threshold then itemAt? arrays.classes node
    else
      let feature ← itemAt? arrays.indices node
      let value ← itemAt? row feature
      let next ← itemAt? (if value.le threshold then arrays.lefts else arrays.rights) node
      if next = noChild then
        let first ← arrays.classes.head?
        return List.replicate first.length 0
      else arrays.lookup row fuel next

section
variable {arrays : Arrays} {row : List Double} {node : Int} {threshold : Double}

theorem lookup_marked (fuel : Nat) (atThreshold : itemAt? arrays.thresholds node = some threshold)
    (marked : isLeafMark threshold = true) :
    arrays.lookup row (fuel + 1) node = itemAt? arrays.classes node := by
  simp [Arrays.lookup, atThreshold, marked]

theorem lookup_next (fuel : Nat) {feature next : Int} {value : Double}
    (atThreshold : itemAt? arrays.thresholds node = some threshold)
    (unmarked : isLeafMark threshold = false)
    (atIndex : itemAt? arrays.indices node = some feature) (read : itemAt? row feature = some value)
    (follow : itemAt? (if value.le threshold then arrays.lefts else arrays.rights) node = some next) :
    arrays.lookup row (fuel + 1) node =
      if next = noChild then arrays.classes.head?.map fun first => List.replicate first.length 0
      else arrays.lookup row fuel next := by
  simp only [Arrays.lookup, atThreshold, unmarked, atIndex, read, follow, Option.bind_eq_bind,
    Option.bind_some, Bool.false_eq_true, if_false, Option.map_eq_bind]
  rfl

theorem lookup_mono {fuel : Nat} {found : List Nat}
    (ended : arrays.lookup row fuel node = some found) {more : Nat} (enough : fuel ≤ more) :
    arrays.lookup row more node = some found := by
  induction fuel generalizing node more with
  | zero => cases ended
  | succ fuel ih =>
    obtain ⟨more, rfl⟩ : ∃ less, more = less + 1 := ⟨more - 1, by omega⟩
    rw [Arrays.lookup, Option.bind_eq_bind, Option.bind_eq_some_iff] at ended ⊢
    obtain ⟨threshold, atThreshold, ended⟩ := ended
    refine ⟨threshold, atThreshold, ?_⟩
    split at ended
    · rename_i marked
      rw [if_pos marked]
      exact ended
    · rename_i unmarked
      rw [if_neg unmarked]
      simp only [Option.bind_eq_bind, Option.bind_eq_some_iff] at ended ⊢
      obtain ⟨feature, atIndex, value, read, next, follow, ended⟩ := ended
      refine ⟨feature, atIndex, value, read, next, follow, ?_⟩
      split at ended
      · rename_i missing
        rw [if_pos missing]
        exact ended
      · rename_i there
        rw [if_neg there]
        exact ih ended (by omega)

end

/-! ## The loop on the arrays of a tree -/

def asRead (tree : Tree) (reading : Double → Double) : Arrays :=
  ⟨tree.lefts, tree.rights, tree.thresholds.map reading, tree.indices, tree.classes⟩

/-- The first split on the walk from a node whose threshold reads as the mark. -/
def firstMarked? (tree : Tree) (reading : Double → Double) (row : List Double) :
    (fuel node : Nat) → Option Nat
  | 0, _ => none
  | fuel + 1, node =>
    match tree.node? node with
    | some (.split feature threshold left right) =>
      if isLeafMark (reading threshold) then some node
      else
        match row[feature.toNat]? with
        | none => none
        | some value =>
          match if value.le (reading threshold) then left else right with
          | none => none
          | some next => tree.firstMarked? reading row fuel next
    | _ => none

/-- The counts at the end of the loop: those of a split that reads as a leaf, or else those at the
end of the walk. -/
def foundCounts (tree : Tree) (marked result : Option Nat) : List Nat :=
  match marked with
  | some node => tree.counts node
  | none => tree.outcome result

theorem foundCounts_eq_iff (tree : Tree) (marked result : Option Nat) :
    tree.foundCounts marked result = tree.outcome result ↔
      ∀ node, marked = some node → tree.counts node = tree.outcome result := by
  cases marked with
  | none => simp [foundCounts]
  | some node => simp [foundCounts]

section
variable {tree : Tree} {reading : Double → Double}
  (kept : ∀ threshold ∈ tree.thresholds, isLeafMark (reading threshold) = isLeafMark threshold)
include kept

theorem marks_asRead :
    (tree.asRead reading).thresholds.map isLeafMark = tree.thresholds.map isLeafMark := by
  rw [asRead, List.map_map]
  exact List.map_congr_left kept

theorem firstMarked?_eq_none (row : List Double) (fuel node : Nat) :
    tree.firstMarked? reading row fuel node = none := by
  induction fuel generalizing node with
  | zero => rfl
  | succ fuel ih =>
    rw [firstMarked?]
    split
    · rename_i is
      obtain ⟨member, unmarked⟩ := node?_split is
      rw [kept _ member, unmarked, if_neg Bool.false_ne_true]
      split
      · rfl
      · split
        · rfl
        · exact ih _
    · rfl

end

section
variable {tree : Tree} (wellFormed : tree.WellFormed) {reading : Double → Double}
  (marks : ∀ threshold, isLeafMark threshold = true → isLeafMark (reading threshold) = true)
  {row : List Double}
include wellFormed

theorem classes_head : tree.classes.head?.map (fun first => List.replicate first.length 0) =
    some (List.replicate tree.classCount 0) := by
  rw [classCount]
  cases classes : tree.classes with
  | nil => exact absurd classes wellFormed.nonempty.2.2.2.2
  | cons first rest => rfl

include marks

theorem lookup_asRead {fuel node : Nat} {path : List Side} (leads : tree.Leads path node)
    {result : Option Nat} (walked : tree.walkFrom reading row fuel node = .ok result) :
    (tree.asRead reading).lookup row fuel node =
      some (tree.foundCounts (tree.firstMarked? reading row fuel node) result) := by
  induction fuel generalizing node path with
  | zero => cases walked
  | succ fuel ih =>
    rcases wellFormed.node_cases leads with leaf | ⟨feature, threshold, left, right, split⟩
    · obtain ⟨threshold, atThreshold, marked⟩ := leaf.isLeaf
      simp only [walkFrom, leaf.atNode, Except.ok.injEq] at walked
      subst walked
      have read : itemAt? (tree.asRead reading).thresholds node = some (reading threshold) := by
        simp [asRead, atThreshold]
      rw [lookup_marked fuel read (marks _ marked)]
      simp [asRead, leaf.atClasses, firstMarked?, leaf.atNode, foundCounts, outcome]
    · have atThreshold : itemAt? (tree.asRead reading).thresholds node = some (reading threshold) := by
        simp [asRead, split.atThreshold]
      -- A split whose threshold reads as the mark ends the loop, where the walk goes on.
      cases marked : isLeafMark (reading threshold) with
      | true =>
        rw [lookup_marked fuel atThreshold marked]
        simp [asRead, firstMarked?, split.atNode, marked, foundCounts,
          wellFormed.sameLengths.atClasses (wellFormed.node_lt leads)]
      | false =>
        simp only [walkFrom, split.atNode] at walked
        simp only [firstMarked?, split.atNode, marked, Bool.false_eq_true, if_false]
        cases read : row[feature.toNat]? with
        | none => simp [read] at walked
        | some value =>
          simp only [read] at walked
          have atFeature : itemAt? row feature = some value := by
            rw [itemAt?, if_neg (by have := split.nonneg; omega), read]
          have follow : itemAt? (if value.le (reading threshold) then (tree.asRead reading).lefts
              else (tree.asRead reading).rights) node =
                some (entryFor (if value.le (reading threshold) then left else right)) := by
            cases value.le (reading threshold) with
            | true => simp [asRead, split.atLeft]
            | false => simp [asRead, split.atRight]
          rw [lookup_next fuel atThreshold marked (by simp [asRead, split.atIndex]) atFeature follow]
          have leadsNext : ∀ next, (if value.le (reading threshold) then left else right) = some next →
              ∃ side, tree.Leads (path ++ [side]) next := by
            intro next isNext
            split at isNext
            · exact ⟨.left, split.leadsLeft next isNext⟩
            · exact ⟨.right, split.leadsRight next isNext⟩
          dsimp only
          generalize (if value.le (reading threshold) then left else right) = child
            at walked leadsNext ⊢
          cases child with
          | none =>
            cases walked
            exact classes_head wellFormed
          | some next =>
            obtain ⟨side, leadsSide⟩ := leadsNext next rfl
            rw [entryFor, if_neg (by rw [noChild]; omega)]
            exact ih leadsSide walked

end

end Modelsmith.Tree
