import Modelsmith.Double.Rounding

/-! Decision trees as parallel arrays, rooted at node 0, and the view of one node. -/

set_option autoImplicit false

namespace Modelsmith

structure Tree where
  /-- Left child of each node, `-1` when absent. -/
  lefts : List Int
  /-- Right child of each node, `-1` when absent. -/
  rights : List Int
  /-- Split threshold of each node, `-2` for a leaf. -/
  thresholds : List Double
  /-- Split feature of each node; meaningless for a leaf. -/
  indices : List Int
  /-- Class counts of each node; only those of leaves are used. -/
  classes : List (List Nat)
  /-- Number of input features, when declared. -/
  width : Option Nat
  deriving DecidableEq

namespace Tree

def leafMark : Double := Double.ofDecimal true 2 0

def noChild : Int := -1

def size (tree : Tree) : Nat := tree.lefts.length

def isLeafMark (threshold : Double) : Bool := threshold.eq leafMark

def classCount (tree : Tree) : Nat := (tree.classes.head?.getD []).length

inductive Node where
  | leaf (counts : List Nat)
  | split (feature : Int) (threshold : Double) (left right : Option Nat)
  deriving DecidableEq

def child? (entry : Int) : Option Nat := if entry = noChild then none else some entry.toNat

def node? (tree : Tree) (position : Nat) : Option Node := do
  let threshold ← tree.thresholds[position]?
  let counts ← tree.classes[position]?
  if isLeafMark threshold then return .leaf counts
  let feature ← tree.indices[position]?
  let left ← tree.lefts[position]?
  let right ← tree.rights[position]?
  return .split feature threshold (child? left) (child? right)

/-- One more than a feature index, in words of 64 bits without a sign. -/
def widthFor (feature : Int) : Nat :=
  if 0 ≤ feature then feature.toNat + 1 else (feature + 1 + 2 ^ 64).toNat % 2 ^ 64

/-- The declared width, or one more than the largest feature of any split. -/
def featureCount (tree : Tree) : Nat :=
  tree.width.getD <|
    ((tree.thresholds.zip tree.indices).filterMap fun (threshold, feature) =>
      if isLeafMark threshold then none else some (widthFor feature)).max?.getD 1

end Tree

end Modelsmith
