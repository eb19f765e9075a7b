import Modelsmith.Proofs.Tree.Branches

/-! The reads of a tree's arrays that rendering makes.

The lines of the branches and the number of features are told once more by plain reads, each of
which may miss. For a well-formed tree none does.
-/

set_option autoImplicit false

namespace Modelsmith.Tree

/-- The lines below a node, from the arrays as they are. There are none when a read is out of
range, when an entry is negative and not the one for no child, or when the nesting does not end. -/
def emit? (tree : Tree) : (fuel depth node : Nat) → Option (List (Nat × Line))
  | 0, _, _ => none
  | fuel + 1, depth, node => do
    let threshold ← tree.thresholds[node]?
    if isLeafMark threshold then
      let counts ← tree.classes[node]?
      return (assignments counts).map (depth, ·)
    else
      let feature ← tree.indices[node]?
      let left ← tree.lefts[node]?
      let right ← tree.rights[node]?
      let below (entry : Int) :=
        if entry < 0 then none else tree.emit? fuel (depth + 1) entry.toNat
      if left = noChild then
        if right = noChild then return []
        else
          let lines ← below right
          return (depth, .test feature .above threshold) :: lines ++ [(depth, .close)]
      else
        let first ← below left
        if right = noChild then
          return (depth, .test feature .atMost threshold) :: first ++ [(depth, .close)]
        else
          let second ← below right
          return (depth, .test feature .atMost threshold) :: first ++
            (depth, .otherwise) :: second ++ [(depth, .close)]

theorem WellFormed.emit?_eq {tree : Tree} (wellFormed : tree.WellFormed) {fuel node : Nat}
    (depth : Nat) {path : List Side} (leads : tree.Leads path node)
    (enough : tree.size ≤ path.length + fuel) :
    tree.emit? fuel depth node = some (tree.linesFrom fuel depth node) := by
  induction fuel generalizing depth node path with
  | zero =>
    -- A path is shorter than the tree, so the fuel does not run out before it.
    have := wellFormed.path_lt leads
    omega
  | succ fuel ih =>
    have child : ∀ side next, tree.Leads (path ++ [side]) next →
        tree.emit? fuel (depth + 1) next = some (tree.linesFrom fuel (depth + 1) next) := by
      intro side next leads
      refine ih (depth + 1) leads ?_
      simp only [List.length_append, List.length_singleton]
      omega
    have present : ∀ next : Nat, (next : Int) ≠ noChild ∧ ¬ (next : Int) < 0 := by
      intro next
      unfold noChild
      omega
    obtain leaf | ⟨feature, threshold, left, right, split⟩ := wellFormed.node_cases leads
    · obtain ⟨threshold, atThreshold, isLeaf⟩ := leaf.isLeaf
      simp [emit?, linesFrom, atThreshold, isLeaf, leaf.atClasses, leaf.atNode]
    · have reads := split.atThreshold
      have atLeft := split.atLeft
      have atRight := split.atRight
      cases left with
      | none =>
        cases right with
        | none => simp [emit?, linesFrom, split.atNode, reads, split.isSplit, split.atIndex, atLeft,
            atRight, entryFor]
        | some right =>
          have second := child .right right (split.leadsRight right rfl)
          simp [emit?, linesFrom, split.atNode, reads, split.isSplit, split.atIndex, atLeft,
            atRight, entryFor, present, second]
      | some left =>
        have first := child .left left (split.leadsLeft left rfl)
        cases right with
        | none => simp [emit?, linesFrom, split.atNode, reads, split.isSplit, split.atIndex, atLeft,
            atRight, entryFor, present, first]
        | some right =>
          have second := child .right right (split.leadsRight right rfl)
          simp [emit?, linesFrom, split.atNode, reads, split.isSplit, split.atIndex, atLeft,
            atRight, entryFor, present, first, second]

end Modelsmith.Tree
