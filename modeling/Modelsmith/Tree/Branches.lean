import Modelsmith.Tree.Basic

/-! A tree as nested branches: a flat list of lines, whatever the language. -/

set_option autoImplicit false

namespace Modelsmith.Tree

inductive Relation where
  | atMost
  | above
  deriving DecidableEq

inductive Line where
  | test (feature : Int) (relation : Relation) (threshold : Double)
  | otherwise
  | close
  | assign (class_ count : Nat)
  deriving DecidableEq

def assignments (counts : List Nat) : List Line :=
  counts.zipIdx.filterMap fun (count, class_) =>
    if count = 0 then none else some (.assign class_ count)

/-- The lines below a node, each with the depth of the node it belongs to. A split without
children has no lines; one with a single child tests for that side only. -/
def linesFrom (tree : Tree) : (fuel depth node : Nat) → List (Nat × Line)
  | 0, _, _ => []
  | fuel + 1, depth, node =>
    match tree.node? node with
    | none => []
    | some (.leaf counts) => (assignments counts).map (depth, ·)
    | some (.split feature threshold (some left) (some right)) =>
      (depth, .test feature .atMost threshold) :: tree.linesFrom fuel (depth + 1) left ++
        (depth, .otherwise) :: tree.linesFrom fuel (depth + 1) right ++ [(depth, .close)]
    | some (.split feature threshold (some left) none) =>
      (depth, .test feature .atMost threshold) :: tree.linesFrom fuel (depth + 1) left ++
        [(depth, .close)]
    | some (.split feature threshold none (some right)) =>
      (depth, .test feature .above threshold) :: tree.linesFrom fuel (depth + 1) right ++
        [(depth, .close)]
    | some (.split _ _ none none) => []

/-- The thresholds of the splits at a node and below it, also of those that have no lines. -/
def thresholdsFrom (tree : Tree) : (fuel node : Nat) → List Double
  | 0, _ => []
  | fuel + 1, node =>
    match tree.node? node with
    | none | some (.leaf _) => []
    | some (.split _ threshold left right) =>
      threshold :: (left.toList ++ right.toList).flatMap (tree.thresholdsFrom fuel)

/-- The whole tree as lines. No branch is deeper than the tree has nodes. -/
def branchLines (tree : Tree) : List (Nat × Line) := tree.linesFrom tree.size 0 0

end Modelsmith.Tree
