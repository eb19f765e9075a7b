import Modelsmith.Tree.Basic
import Modelsmith.Model.Fault

/-! The shape that a tree must have. Everything reachable from the root is visited, and a node met
twice means a cycle or a shared subtree. -/

set_option autoImplicit false

namespace Modelsmith.Tree

def checkLengths (tree : Tree) : Except ModelFault Unit := do
  require (!tree.lefts.isEmpty) (.missing "lefts")
  require (!tree.rights.isEmpty) (.missing "rights")
  require (!tree.thresholds.isEmpty) (.missing "thresholds")
  require (!tree.indices.isEmpty) (.missing "indices")
  require (!tree.classes.isEmpty) (.missing "classes")
  let sameLength (field : String) (found : Nat) :=
    require (found = tree.size) (.entryCount field found tree.size)
  sameLength "rights" tree.rights.length
  sameLength "thresholds" tree.thresholds.length
  sameLength "indices" tree.indices.length
  sameLength "classes" tree.classes.length

def checkClassRows (tree : Tree) : Except ModelFault Unit := do
  require (tree.classCount ≠ 0) .emptyClassRows
  match firstFailing (fun row => row.length = tree.classCount) tree.classes with
  | some (row, counts) => throw (.classRowLength row counts.length tree.classCount)
  | none => return ()

/-- A child entry as a list of the nodes it leads to. -/
def checkChild (tree : Tree) (node : Nat) (entry : Int) : Except ModelFault (List Nat) :=
  if entry = noChild then .ok []
  else if entry < 0 ∨ (tree.size : Int) ≤ entry then .error (.missingChild node entry)
  else .ok [entry.toNat]

/-- The children of a sound node, right one first. -/
def checkNode (tree : Tree) (node : Nat) : Except ModelFault (List Nat) := do
  if isLeafMark (tree.thresholds[node]?.getD leafMark) then return []
  let feature := tree.indices[node]?.getD 0
  require (decide (0 ≤ feature)) (.negativeFeature node feature)
  match tree.width with
  | some width => require (decide (feature < width)) (.featureTooLarge node feature width)
  | none => pure ()
  let left ← tree.checkChild node (tree.lefts[node]?.getD noChild)
  let right ← tree.checkChild node (tree.rights[node]?.getD noChild)
  return right ++ left

/-- Visits the pending nodes and all below them. Only as many nodes as the tree has can be visited
once, so when the fuel is used up the next one was met before. -/
def explore (tree : Tree) : (fuel : Nat) → (visited pending : List Nat) → Except ModelFault Unit
  | _, _, [] => .ok ()
  | 0, _, node :: _ => .error (.reachedTwice node)
  | fuel + 1, visited, node :: pending =>
    if visited.contains node then .error (.reachedTwice node)
    else
      match tree.checkNode node with
      | .error fault => .error fault
      | .ok children => tree.explore fuel (node :: visited) (children ++ pending)

def validate (tree : Tree) : Except ModelFault Unit := do
  tree.checkLengths
  tree.checkClassRows
  tree.explore tree.size [] [0]

end Modelsmith.Tree
