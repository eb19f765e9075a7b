import Modelsmith.Proofs.Tree.WellFormed

/-! The search of validation as a loop over a mark for each node and a stack. A run is a derivation:
it exists only when every mark and every array is read in range, and it counts the pops, the one
that finds the stack empty included. Validation runs this loop to its end on every tree whose
arrays fit together, within one pop more than the tree has nodes.
-/

set_option autoImplicit false

namespace Modelsmith.Tree

def InRange (tree : Tree) (node : Nat) : Prop :=
  node < tree.lefts.length ∧ node < tree.rights.length ∧ node < tree.thresholds.length ∧
    node < tree.indices.length

/-- Runs of the loop: pops, marks, stack and outcome. -/
inductive Search (tree : Tree) :
    Nat → List Bool → List Nat → Except ModelFault Unit → Prop where
  | finish {marks : List Bool} : Search tree 1 marks [] (.ok ())
  | again {marks : List Bool} {node : Nat} {pending : List Nat} :
      marks[node]? = some true → Search tree 1 marks (node :: pending) (.error (.reachedTwice node))
  | refuse {marks : List Bool} {node : Nat} {pending : List Nat} {fault : ModelFault} :
      marks[node]? = some false → tree.InRange node → tree.checkNode node = .error fault →
      Search tree 1 marks (node :: pending) (.error fault)
  | visit {marks : List Bool} {node pops : Nat} {pending children : List Nat}
      {outcome : Except ModelFault Unit} :
      marks[node]? = some false → tree.InRange node → tree.checkNode node = .ok children →
      Search tree pops (marks.set node true) (children ++ pending) outcome →
      Search tree (pops + 1) marks (node :: pending) outcome

theorem SameLengths.inRange {tree : Tree} (lengths : tree.SameLengths) {node : Nat}
    (inside : node < tree.size) : tree.InRange node := by
  obtain ⟨-, rights, thresholds, indices, -⟩ := lengths
  exact ⟨inside, by omega, by omega, by omega⟩

/-- The marks that stand for a list of nodes met. -/
structure Marked (tree : Tree) (visited : List Nat) (marks : List Bool) : Prop where
  length : marks.length = tree.size
  get : ∀ node < tree.size, marks[node]? = some (decide (node ∈ visited))

theorem marked_start (tree : Tree) : tree.Marked [] (List.replicate tree.size false) where
  length := List.length_replicate
  get := by
    intro node inside
    simp [inside]

theorem Marked.visit {tree : Tree} {visited : List Nat} {marks : List Bool} {node : Nat}
    (marked : tree.Marked visited marks) :
    tree.Marked (node :: visited) (marks.set node true) where
  length := by rw [List.length_set, marked.length]
  get := by
    intro other inside
    rw [List.getElem?_set]
    split
    · rename_i same
      subst same
      rw [if_pos (by rw [marked.length]; exact inside)]
      simp
    · rename_i different
      rw [marked.get other inside]
      simp [Ne.symm different]

/-- From any state the loop has a run to its end, with the outcome of the fuelled search, and the
pops it takes are bounded by the nodes not met so far. -/
theorem search_explore {tree : Tree} (lengths : tree.SameLengths) {fuel : Nat}
    {visited pending : List Nat} {marks : List Bool}
    (progress : tree.Progress fuel visited pending) (marked : tree.Marked visited marks) :
    ∃ pops ≤ tree.size - visited.length + 1,
      tree.Search pops marks pending (tree.explore fuel visited pending) := by
  induction fuel generalizing visited pending marks with
  | zero =>
    cases pending with
    | nil => exact ⟨1, by omega, .finish⟩
    | cons node pending =>
      have mark := marked.get node (progress.pending_lt node (by simp))
      rw [decide_eq_true progress.mem_visited] at mark
      exact ⟨1, by omega, .again mark⟩
  | succ fuel ih =>
    cases pending with
    | nil => exact ⟨1, by omega, .finish⟩
    | cons node pending =>
      have inside := progress.pending_lt node (by simp)
      have mark := marked.get node inside
      rw [explore]
      split
      · rename_i old
        rw [decide_eq_true (List.contains_iff_mem.mp old)] at mark
        exact ⟨1, by omega, .again mark⟩
      · rename_i new
        rw [List.contains_iff_mem] at new
        rw [decide_eq_false new] at mark
        cases checked : tree.checkNode node with
        | error fault => exact ⟨1, by omega, .refuse mark (lengths.inRange inside) checked⟩
        | ok children =>
          have next := progress.visit new lengths checked
          obtain ⟨pops, few, run⟩ := ih next marked.visit
          refine ⟨pops + 1, ?_, .visit mark (lengths.inRange inside) checked run⟩
          have := length_le_of_nodup next.nodup next.visited_lt
          simp only [List.length_cons] at this few
          omega

/-- Validation accepts exactly the well-formed trees. Whatever the entries are, once the arrays fit
together its loop reads in range only and ends within one pop more than there are nodes. -/
theorem validate_decides_wellFormed (tree : Tree) :
    (tree.validate = .ok () ↔ tree.WellFormed) ∧
      (tree.checkLengths = .ok () → tree.checkClassRows = .ok () →
        ∃ pops ≤ tree.size + 1,
          tree.Search pops (List.replicate tree.size false) [0] tree.validate) := by
  refine ⟨validate_eq_ok_iff_wellFormed, fun lengthsPassed rowsPassed => ?_⟩
  have lengths := checkLengths_eq_ok.mp lengthsPassed
  have entered : tree.validate = tree.explore tree.size [] [0] := by
    rw [validate, lengthsPassed, rowsPassed]
    rfl
  rw [entered]
  exact search_explore lengths (.start lengths) tree.marked_start

/-- A root that is its own left child. -/
def selfLoop : Tree := ⟨[0], [-1], [Double.zero], [0], [[1]], none⟩

/-- On a cycle the loop stops as well. -/
theorem validate_decides_wellFormed_selfLoop :
    selfLoop.checkLengths = .ok () ∧ selfLoop.checkClassRows = .ok () ∧
      ∃ pops ≤ 2, selfLoop.Search pops [false] [0] selfLoop.validate :=
  ⟨rfl, rfl, (validate_decides_wellFormed selfLoop).2 rfl rfl⟩

end Modelsmith.Tree
