import Modelsmith.Tree.Basic
import Modelsmith.Model.Fault
import Modelsmith.Double.Machine

/-! Trees evaluated on a row of features. -/

set_option autoImplicit false

namespace Modelsmith.Tree

/-- The leaf below a node that a row falls into; none when the walk leaves a split through a
missing child. -/
def leafFrom (tree : Tree) (row : List Double) :
    (fuel node : Nat) → Except EvaluationFault (Option Nat)
  | 0, _ => .error .endless
  | fuel + 1, node =>
    match tree.node? node with
    | none => .error .outOfRange
    | some (.leaf _) => .ok (some node)
    | some (.split feature threshold left right) =>
      match row[feature.toNat]? with
      | none => .error .outOfRange
      | some value =>
        match if value.le threshold then left else right with
        | none => .ok none
        | some next => tree.leafFrom row fuel next

def leaf (tree : Tree) (row : List Double) : Except EvaluationFault (Option Nat) :=
  tree.leafFrom row tree.size 0

def counts (tree : Tree) (node : Nat) : List Nat := tree.classes[node]?.getD []

/-- The class with the largest count at the leaf, the first of several; 0 without a leaf. -/
def predict (tree : Tree) (row : List Double) : Except EvaluationFault Nat :=
  (tree.leaf row).map fun
    | none => 0
    | some node => firstLargest (fun count best => decide (best < count)) (tree.counts node)

/-- What is done about a sum that does not fit into a word of 64 bits. -/
inductive Overflow where
  | wrap
  | stop
  deriving DecidableEq

def Overflow.add (overflow : Overflow) (sum count : Nat) : Except EvaluationFault Nat :=
  if sum + count < 2 ^ 64 then .ok (sum + count)
  else
    match overflow with
    | .wrap => .ok ((sum + count) % 2 ^ 64)
    | .stop => .error .overflow

def total (overflow : Overflow) (counts : List Nat) : Except EvaluationFault Nat :=
  counts.foldlM overflow.add 0

/-- Each count as a share of a total; all zero when there is nothing to share. -/
def shares (total : Nat) (counts : List Nat) : List Double :=
  counts.map fun count =>
    if 0 < total then (Double.ofNat count).div (Double.ofNat total) else Double.zero

def probabilitiesBy (overflow : Overflow) (tree : Tree) (row : List Double) :
    Except EvaluationFault (List Double) := do
  match ← tree.leaf row with
  | none => return List.replicate tree.classCount Double.zero
  | some node => return shares (← total overflow (tree.counts node)) (tree.counts node)

def probabilities (tree : Tree) (row : List Double) : Except EvaluationFault (List Double) :=
  tree.probabilitiesBy .wrap row

def leaves (tree : Tree) : List Nat :=
  tree.thresholds.zipIdx.filterMap fun (threshold, node) =>
    if isLeafMark threshold then some node else none

end Modelsmith.Tree
