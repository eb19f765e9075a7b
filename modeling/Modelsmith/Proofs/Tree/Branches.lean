import Modelsmith.Proofs.Tree.Features
import Modelsmith.Tree.Branches
import Modelsmith.Tree.Evaluation

/-! Branch lines carried out one after the other, and the walk they stand for.

Lines are run on a machine with the open blocks and a count for each class. A block remembers
whether its current side is carried out and whether its other side would be, so lines that are
passed over still have to nest. For a well-formed tree the lines below a node leave the open blocks
as they were; they set the counts of the leaf that the walk from that node ends in when they are
carried out, and change nothing when they are passed over.
-/

set_option autoImplicit false

namespace Modelsmith.Tree

/-! ## The machine -/

structure Block where
  /-- Whether the lines of the current side are carried out. -/
  live : Bool
  /-- Whether those of the other side would be; none once that side has begun. -/
  other : Option Bool

structure Machine where
  blocks : List Block
  counts : List Nat

def live : List Block → Bool
  | [] => true
  | block :: _ => block.live

def Relation.holds (value threshold : Double) : Relation → Bool
  | .atMost => value.le threshold
  | .above => threshold.lt value

/-- One line. It fails on a feature or a class that is not there, on a second side without a first
one, and on an end without a block. -/
def Line.step (row : List Double) : Line → Machine → Option Machine
  | .test feature relation threshold, machine =>
    if live machine.blocks then
      if feature < 0 then none
      else
        match row[feature.toNat]? with
        | none => none
        | some value =>
          some { machine with
            blocks := ⟨relation.holds value threshold, some !(relation.holds value threshold)⟩ ::
              machine.blocks }
    else some { machine with blocks := ⟨false, some false⟩ :: machine.blocks }
  | .otherwise, machine =>
    match machine.blocks with
    | ⟨_, some other⟩ :: blocks => some { machine with blocks := ⟨other, none⟩ :: blocks }
    | _ => none
  | .close, machine =>
    match machine.blocks with
    | _ :: blocks => some { machine with blocks }
    | [] => none
  | .assign class_ count, machine =>
    if live machine.blocks then
      if class_ < machine.counts.length then
        some { machine with counts := machine.counts.set class_ count }
      else none
    else some machine

def run (row : List Double) : List Line → Machine → Option Machine
  | [], machine => some machine
  | line :: rest, machine => (line.step row machine).bind (run row rest)

/-- The counts after all lines, from zeros; none when a line fails or a block stays open. -/
def execute (row : List Double) (classCount : Nat) (lines : List Line) : Option (List Nat) :=
  match run row lines ⟨[], List.replicate classCount 0⟩ with
  | some ⟨[], counts⟩ => some counts
  | _ => none

theorem run_append (row : List Double) (first second : List Line) (machine : Machine) :
    run row (first ++ second) machine = (run row first machine).bind (run row second) := by
  induction first generalizing machine with
  | nil => rfl
  | cons line first ih =>
    simp only [List.cons_append, run]
    cases line.step row machine with
    | none => rfl
    | some next => exact ih next

section
variable (row : List Double) (blocks : List Block) (counts : List Nat)

theorem step_test_live {feature : Int} {value : Double} (relation : Relation) (threshold : Double)
    (isLive : live blocks = true) (nonneg : 0 ≤ feature)
    (read : row[feature.toNat]? = some value) :
    (Line.test feature relation threshold).step row ⟨blocks, counts⟩ =
      some ⟨⟨relation.holds value threshold, some !(relation.holds value threshold)⟩ :: blocks,
        counts⟩ := by
  simp only [Line.step, isLive, if_true, read]
  rw [if_neg (by omega)]

theorem step_test_dead (feature : Int) (relation : Relation) (threshold : Double)
    (dead : live blocks = false) :
    (Line.test feature relation threshold).step row ⟨blocks, counts⟩ =
      some ⟨⟨false, some false⟩ :: blocks, counts⟩ := by
  simp [Line.step, dead]

@[simp] theorem step_otherwise (first other : Bool) :
    Line.otherwise.step row ⟨⟨first, some other⟩ :: blocks, counts⟩ =
      some ⟨⟨other, none⟩ :: blocks, counts⟩ := rfl

@[simp] theorem step_close (block : Block) :
    Line.close.step row ⟨block :: blocks, counts⟩ = some ⟨blocks, counts⟩ := rfl

end

/-! ## Lines and the walk under a reading of the thresholds -/

def Line.withReading (reading : Double → Double) : Line → Line
  | .test feature relation threshold => .test feature relation (reading threshold)
  | line => line

@[simp] theorem withReading_test (reading : Double → Double) (feature : Int) (relation : Relation)
    (threshold : Double) :
    (Line.test feature relation threshold).withReading reading =
      .test feature relation (reading threshold) := rfl

@[simp] theorem withReading_otherwise (reading : Double → Double) :
    Line.otherwise.withReading reading = .otherwise := rfl

@[simp] theorem withReading_close (reading : Double → Double) :
    Line.close.withReading reading = .close := rfl

theorem mem_assignments {counts : List Nat} {line : Line} (member : line ∈ assignments counts) :
    ∃ class_ count, line = .assign class_ count := by
  obtain ⟨⟨count, class_⟩, -, written⟩ := List.mem_filterMap.mp member
  by_cases zero : count = 0
  · simp [zero] at written
  · simp only [zero, if_false, Option.some.injEq] at written
    exact ⟨class_, count, written.symm⟩

theorem withReading_assignments (reading : Double → Double) (counts : List Nat) :
    (assignments counts).map (Line.withReading reading) = assignments counts := by
  refine List.map_congr_left (g := id) ?_ |>.trans (List.map_id _)
  intro line member
  obtain ⟨class_, count, rfl⟩ := mem_assignments member
  rfl

def readLines (tree : Tree) (reading : Double → Double) (fuel depth node : Nat) : List Line :=
  (tree.linesFrom fuel depth node).map fun entry => entry.2.withReading reading

/-- The walk to a leaf in which every comparison is made with the reading of the threshold. -/
def walkFrom (tree : Tree) (reading : Double → Double) (row : List Double) :
    (fuel node : Nat) → Except EvaluationFault (Option Nat)
  | 0, _ => .error .endless
  | fuel + 1, node =>
    match tree.node? node with
    | none => .error .outOfRange
    | some (.leaf _) => .ok (some node)
    | some (.split feature threshold left right) =>
      match row[feature.toNat]? with
      | none => .error .outOfRange
      | some value =>
        match if value.le (reading threshold) then left else right with
        | none => .ok none
        | some next => tree.walkFrom reading row fuel next

theorem leafFrom_eq_walkFrom (tree : Tree) (row : List Double) (fuel node : Nat) :
    tree.leafFrom row fuel node = tree.walkFrom id row fuel node := by
  induction fuel generalizing node with
  | zero => rfl
  | succ fuel ih =>
    have below : tree.leafFrom row fuel = tree.walkFrom id row fuel := funext ih
    rw [leafFrom, walkFrom, below]
    rfl

theorem node?_leaf {tree : Tree} {node : Nat} {counts : List Nat}
    (is : tree.node? node = some (.leaf counts)) : tree.classes[node]? = some counts := by
  simp only [node?, Option.bind_eq_bind, Option.bind_eq_some_iff] at is
  obtain ⟨threshold, -, found, atClasses, shape⟩ := is
  split at shape
  · cases shape
    exact atClasses
  · simp [Option.bind_eq_some_iff] at shape

theorem node?_split {tree : Tree} {node : Nat} {feature : Int} {threshold : Double}
    {left right : Option Nat} (is : tree.node? node = some (.split feature threshold left right)) :
    threshold ∈ tree.thresholds ∧ isLeafMark threshold = false := by
  simp only [node?, Option.bind_eq_bind, Option.bind_eq_some_iff] at is
  obtain ⟨found, atThreshold, counts, -, shape⟩ := is
  split at shape
  · cases shape
  · rename_i unmarked
    simp only [pure, Option.bind_eq_some_iff, Option.some.injEq, Node.split.injEq] at shape
    obtain ⟨_, -, _, -, _, -, -, rfl, -, -⟩ := shape
    exact ⟨List.mem_of_getElem? atThreshold, by simpa using unmarked⟩

theorem classes_of_walkFrom {tree : Tree} {reading : Double → Double} {row : List Double}
    {fuel start node : Nat} (walked : tree.walkFrom reading row fuel start = .ok (some node)) :
    tree.classes[node]? = some (tree.counts node) := by
  induction fuel generalizing start with
  | zero => cases walked
  | succ fuel ih =>
    rw [walkFrom] at walked
    split at walked
    · cases walked
    · rename_i found is
      cases walked
      rw [counts, node?_leaf is]
      rfl
    · split at walked
      · cases walked
      · split at walked
        · cases walked
        · exact ih walked

theorem threshold_mem {tree : Tree} {fuel depth node : Nat} {entry : Nat × Line}
    (member : entry ∈ tree.linesFrom fuel depth node) {feature : Int} {relation : Relation}
    {threshold : Double} (isTest : entry.2 = .test feature relation threshold) :
    threshold ∈ tree.thresholds := by
  induction fuel generalizing depth node with
  | zero => cases member
  | succ fuel ih =>
    rw [linesFrom] at member
    split at member
    · cases member
    · obtain ⟨line, listed, rfl⟩ := List.mem_map.mp member
      obtain ⟨class_, count, rfl⟩ := mem_assignments listed
      cases isTest
    · rename_i is
      simp only [List.cons_append, List.append_assoc, List.mem_cons, List.mem_append,
        List.not_mem_nil, or_false] at member
      rcases member with rfl | below | rfl | below | rfl
      · cases isTest
        exact (node?_split is).1
      · exact ih below
      · cases isTest
      · exact ih below
      · cases isTest
    · rename_i is
      simp only [List.cons_append, List.mem_cons, List.mem_append, List.not_mem_nil,
        or_false] at member
      rcases member with rfl | below | rfl
      · cases isTest
        exact (node?_split is).1
      · exact ih below
      · cases isTest
    · rename_i is
      simp only [List.cons_append, List.mem_cons, List.mem_append, List.not_mem_nil,
        or_false] at member
      rcases member with rfl | below | rfl
      · cases isTest
        exact (node?_split is).1
      · exact ih below
      · cases isTest
    · cases member

theorem mem_thresholds {tree : Tree} {fuel node : Nat} {threshold : Double}
    (member : threshold ∈ tree.thresholdsFrom fuel node) : threshold ∈ tree.thresholds := by
  induction fuel generalizing node with
  | zero => cases member
  | succ fuel ih =>
    rw [thresholdsFrom] at member
    split at member
    · cases member
    · cases member
    · rename_i is
      rcases List.mem_cons.mp member with rfl | below
      · exact (node?_split is).1
      · obtain ⟨child, -, inside⟩ := List.mem_flatMap.mp below
        exact ih inside

/-- The counts that a walk ends with: those of its leaf, or zeros. -/
def outcome (tree : Tree) : Option Nat → List Nat
  | none => List.replicate tree.classCount 0
  | some node => tree.counts node

section
variable {tree : Tree} (reading : Double → Double) (fuel depth : Nat) {node : Nat}
  {feature : Int} {threshold : Double}

theorem readLines_leaf {counts : List Nat} (is : tree.node? node = some (.leaf counts)) :
    tree.readLines reading (fuel + 1) depth node = assignments counts := by
  simp only [readLines, linesFrom, is, List.map_map]
  exact withReading_assignments reading counts

theorem readLines_both {left right : Nat}
    (is : tree.node? node = some (.split feature threshold (some left) (some right))) :
    tree.readLines reading (fuel + 1) depth node =
      .test feature .atMost (reading threshold) ::
        (tree.readLines reading fuel (depth + 1) left ++
          .otherwise :: (tree.readLines reading fuel (depth + 1) right ++ [.close])) := by
  simp [readLines, linesFrom, is]

theorem readLines_left {left : Nat}
    (is : tree.node? node = some (.split feature threshold (some left) none)) :
    tree.readLines reading (fuel + 1) depth node =
      .test feature .atMost (reading threshold) ::
        (tree.readLines reading fuel (depth + 1) left ++ [.close]) := by
  simp [readLines, linesFrom, is]

theorem readLines_right {right : Nat}
    (is : tree.node? node = some (.split feature threshold none (some right))) :
    tree.readLines reading (fuel + 1) depth node =
      .test feature .above (reading threshold) ::
        (tree.readLines reading fuel (depth + 1) right ++ [.close]) := by
  simp [readLines, linesFrom, is]

theorem readLines_childless (is : tree.node? node = some (.split feature threshold none none)) :
    tree.readLines reading (fuel + 1) depth node = [] := by
  simp [readLines, linesFrom, is]

end

/-! ## Lines that are passed over -/

theorem run_assignments_dead (row : List Double) {blocks : List Block} (dead : live blocks = false)
    (counts : List Nat) {lines : List Line}
    (assigns : ∀ line ∈ lines, ∃ class_ count, line = .assign class_ count) :
    run row lines ⟨blocks, counts⟩ = some ⟨blocks, counts⟩ := by
  induction lines with
  | nil => rfl
  | cons line lines ih =>
    obtain ⟨class_, count, rfl⟩ := assigns line (by simp)
    simp only [run, Line.step, dead, Bool.false_eq_true, if_false, Option.bind_some]
    exact ih fun other member => assigns other (by simp [member])

theorem run_dead (tree : Tree) (reading : Double → Double) (row : List Double) (counts : List Nat)
    (fuel depth node : Nat) {blocks : List Block} (dead : live blocks = false) :
    run row (tree.readLines reading fuel depth node) ⟨blocks, counts⟩ = some ⟨blocks, counts⟩ := by
  induction fuel generalizing depth node blocks with
  | zero => rfl
  | succ fuel ih =>
    have below : ∀ child other, run row (tree.readLines reading fuel (depth + 1) child)
        ⟨⟨false, other⟩ :: blocks, counts⟩ = some ⟨⟨false, other⟩ :: blocks, counts⟩ :=
      fun child other => ih (depth + 1) child rfl
    cases is : tree.node? node with
    | none => simp [readLines, linesFrom, is, run]
    | some found =>
      rcases found with leaf | ⟨feature, threshold, left | left, right | right⟩
      · rw [readLines_leaf reading fuel depth is]
        exact run_assignments_dead row dead counts fun line => mem_assignments
      · rw [readLines_childless reading fuel depth is]
        rfl
      · rw [readLines_right reading fuel depth is]
        simp only [run, step_test_dead row blocks counts _ _ _ dead, Option.bind_some, run_append,
          below, step_close]
      · rw [readLines_left reading fuel depth is]
        simp only [run, step_test_dead row blocks counts _ _ _ dead, Option.bind_some, run_append,
          below, step_close]
      · rw [readLines_both reading fuel depth is]
        simp only [run, step_test_dead row blocks counts _ _ _ dead, Option.bind_some, run_append,
          below, step_otherwise, step_close]

/-! ## Lines that are carried out -/

theorem run_assignments_live (row : List Double) {blocks : List Block} (isLive : live blocks = true)
    (counts done : List Nat) :
    run row ((counts.zipIdx done.length).filterMap fun (count, class_) =>
        if count = 0 then none else some (.assign class_ count))
      ⟨blocks, done ++ List.replicate counts.length 0⟩ = some ⟨blocks, done ++ counts⟩ := by
  induction counts generalizing done with
  | nil => rfl
  | cons count counts ih =>
    have next := ih (done ++ [count])
    simp only [List.length_append, List.length_singleton, List.append_assoc,
      List.singleton_append] at next
    simp only [List.zipIdx_cons, List.filterMap_cons, List.length_cons, List.replicate_succ]
    by_cases zero : count = 0
    · subst zero
      simpa using next
    · simpa [zero, run, Line.step, isLive] using next

theorem run_assignments (row : List Double) {blocks : List Block} (isLive : live blocks = true)
    (counts : List Nat) :
    run row (assignments counts) ⟨blocks, List.replicate counts.length 0⟩ =
      some ⟨blocks, counts⟩ := by
  simpa [assignments] using run_assignments_live row isLive counts []

/-! ## Nodes of a well-formed tree -/

def entryFor : Option Nat → Int
  | none => noChild
  | some node => node

structure SplitAt (tree : Tree) (path : List Side) (node : Nat) (feature : Int)
    (threshold : Double) (left right : Option Nat) : Prop where
  atNode : tree.node? node = some (.split feature threshold left right)
  atThreshold : tree.thresholds[node]? = some threshold
  isSplit : isLeafMark threshold = false
  atIndex : tree.indices[node]? = some feature
  nonneg : 0 ≤ feature
  atLeft : tree.lefts[node]? = some (entryFor left)
  atRight : tree.rights[node]? = some (entryFor right)
  leadsLeft : ∀ next, left = some next → tree.Leads (path ++ [.left]) next
  leadsRight : ∀ next, right = some next → tree.Leads (path ++ [.right]) next

structure LeafAt (tree : Tree) (node : Nat) : Prop where
  atNode : tree.node? node = some (.leaf (tree.counts node))
  isLeaf : ∃ threshold, tree.thresholds[node]? = some threshold ∧ isLeafMark threshold = true
  atClasses : tree.classes[node]? = some (tree.counts node)
  length : (tree.counts node).length = tree.classCount

theorem WellFormed.entry {tree : Tree} (wellFormed : tree.WellFormed) {path : List Side}
    {node : Nat} (leads : tree.Leads path node) (split : tree.IsSplit node) (side : Side)
    {entry : Int} (read : (side.entries tree)[node]? = some entry) :
    entry = entryFor (child? entry) ∧
      ∀ next, child? entry = some next → tree.Leads (path ++ [side]) next := by
  unfold child?
  by_cases absent : entry = noChild
  · simp [absent, entryFor]
  · have inside := wellFormed.children path node side entry leads ⟨split, read, absent⟩
    have same : entry = (entry.toNat : Int) := by omega
    rw [if_neg absent]
    refine ⟨same, ?_⟩
    rintro next ⟨⟩
    refine leads.trans (.step ⟨split, ?_, by rwa [← same]⟩ (.here _))
    rw [read, ← same]

theorem SameLengths.atClasses {tree : Tree} (lengths : tree.SameLengths) {node : Nat}
    (inside : node < tree.size) : tree.classes[node]? = some (tree.counts node) := by
  rw [counts, List.getElem?_eq_getElem (by rw [lengths.classes]; exact inside)]
  rfl

theorem WellFormed.node_cases {tree : Tree} (wellFormed : tree.WellFormed) {path : List Side}
    {node : Nat} (leads : tree.Leads path node) :
    tree.LeafAt node ∨ ∃ feature threshold left right,
      tree.SplitAt path node feature threshold left right := by
  have inside := wellFormed.node_lt leads
  have lengths := wellFormed.sameLengths
  obtain ⟨threshold, feature, left, right, hthreshold, hfeature, hleft, hright⟩ :=
    lengths.reads inside
  have hclasses := lengths.atClasses inside
  cases leaf : isLeafMark threshold with
  | true =>
    left
    obtain ⟨width, -, rows⟩ := wellFormed.classRows
    refine ⟨by simp [node?, hthreshold, hclasses, leaf], ⟨threshold, hthreshold, leaf⟩, hclasses, ?_⟩
    rw [classCount_eq wellFormed.nonempty.2.2.2.2 rows]
    exact rows _ (List.mem_of_getElem? hclasses)
  | false =>
    right
    have split : tree.IsSplit node := ⟨threshold, hthreshold, leaf⟩
    obtain ⟨other, read, nonneg, -⟩ := wellFormed.features path node leads split
    rw [hfeature, Option.some.injEq] at read
    subst read
    obtain ⟨leftEntry, leadsLeft⟩ := wellFormed.entry leads split .left hleft
    obtain ⟨rightEntry, leadsRight⟩ := wellFormed.entry leads split .right hright
    refine ⟨feature, threshold, child? left, child? right, ?_⟩
    exact {
      atNode := by simp [node?, hthreshold, hclasses, leaf, hfeature, hleft, hright]
      atThreshold := hthreshold
      isSplit := leaf
      atIndex := hfeature
      nonneg := nonneg
      atLeft := by rw [← leftEntry, hleft]
      atRight := by rw [← rightEntry, hright]
      leadsLeft := leadsLeft
      leadsRight := leadsRight }

/-! ## The lines below a node and the walk from it -/

theorem lt_eq_not_le {left right : Double} (leftNumber : left.isNaN = false)
    (rightNumber : right.isNaN = false) : left.lt right = !right.le left := by
  simp only [Double.lt, Double.le, leftNumber, rightNumber, Bool.not_false, Bool.true_and]
  rw [← decide_not, decide_eq_decide]
  omega

section
variable {tree : Tree} (wellFormed : tree.WellFormed) (reading : Double → Double)
  (numbers : ∀ threshold ∈ tree.thresholds, (reading threshold).isNaN = false)
  {row : List Double} (rowNumbers : ∀ value ∈ row, value.isNaN = false)
  (wide : tree.HasFeatures row)
include wellFormed numbers rowNumbers wide

theorem run_readLines {fuel node : Nat} (depth : Nat) {path : List Side} {blocks : List Block}
    (leads : tree.Leads path node) (enough : tree.size ≤ path.length + fuel)
    (isLive : live blocks = true) :
    ∃ result, tree.walkFrom reading row fuel node = .ok result ∧
      run row (tree.readLines reading fuel depth node)
        ⟨blocks, List.replicate tree.classCount 0⟩ = some ⟨blocks, tree.outcome result⟩ := by
  induction fuel generalizing depth node path blocks with
  | zero =>
    have := wellFormed.path_lt leads
    omega
  | succ fuel ih =>
    rcases wellFormed.node_cases leads with leaf | ⟨feature, threshold, left, right, split⟩
    · refine ⟨some node, by simp only [walkFrom, leaf.atNode], ?_⟩
      rw [readLines_leaf reading fuel depth leaf.atNode, ← leaf.length]
      exact run_assignments row isLive _
    · have inside := wide path node feature leads ⟨threshold, split.atThreshold, split.isSplit⟩
        split.atIndex
      obtain ⟨value, read⟩ : ∃ value, row[feature.toNat]? = some value :=
        ⟨_, List.getElem?_eq_getElem (by omega)⟩
      have walk : tree.walkFrom reading row (fuel + 1) node =
          match if value.le (reading threshold) then left else right with
          | none => .ok none
          | some next => tree.walkFrom reading row fuel next := by
        simp only [walkFrom, split.atNode, read]
      have above : (reading threshold).lt value = !value.le (reading threshold) :=
        lt_eq_not_le (numbers threshold (List.mem_of_getElem? split.atThreshold))
          (rowNumbers value (List.mem_of_getElem? read))
      have test := fun relation counts => step_test_live row blocks counts relation
        (reading threshold) isLive split.nonneg read
      -- The side that the walk leaves through is carried out in a block of its own.
      have child : ∀ side next other, tree.Leads (path ++ [side]) next →
          ∃ result, tree.walkFrom reading row fuel next = .ok result ∧
            run row (tree.readLines reading fuel (depth + 1) next)
              ⟨⟨true, other⟩ :: blocks, List.replicate tree.classCount 0⟩ =
                some ⟨⟨true, other⟩ :: blocks, tree.outcome result⟩ := by
        intro side next other leadsNext
        refine ih (depth + 1) leadsNext ?_ rfl
        simp only [List.length_append, List.length_singleton]
        omega
      have passed := fun other counts next =>
        run_dead tree reading row counts fuel (depth + 1) next
          (show live (⟨false, other⟩ :: blocks) = false from rfl)
      rw [walk]
      cases holds : value.le (reading threshold) with
      | true =>
        cases left with
        | none =>
          refine ⟨none, rfl, ?_⟩
          cases right with
          | none =>
            rw [readLines_childless reading fuel depth split.atNode]
            rfl
          | some right =>
            rw [readLines_right reading fuel depth split.atNode]
            simp [run, run_append, test, Relation.holds, above, holds, passed, outcome]
        | some left =>
          obtain ⟨result, walked, ran⟩ := child .left left (some false) (split.leadsLeft left rfl)
          refine ⟨result, walked, ?_⟩
          cases right with
          | none =>
            rw [readLines_left reading fuel depth split.atNode]
            simp [run, run_append, test, Relation.holds, holds, ran]
          | some right =>
            rw [readLines_both reading fuel depth split.atNode]
            simp [run, run_append, test, Relation.holds, holds, ran, passed]
      | false =>
        cases right with
        | none =>
          refine ⟨none, rfl, ?_⟩
          cases left with
          | none =>
            rw [readLines_childless reading fuel depth split.atNode]
            rfl
          | some left =>
            rw [readLines_left reading fuel depth split.atNode]
            simp [run, run_append, test, Relation.holds, holds, passed, outcome]
        | some right =>
          obtain ⟨result, walked, ran⟩ := child .right right (some false) (split.leadsRight right rfl)
          obtain ⟨other, walked', ran'⟩ := child .right right none (split.leadsRight right rfl)
          cases walked.symm.trans walked'
          refine ⟨result, walked, ?_⟩
          cases left with
          | none =>
            rw [readLines_right reading fuel depth split.atNode]
            simp [run, run_append, test, Relation.holds, above, holds, ran]
          | some left =>
            rw [readLines_both reading fuel depth split.atNode]
            simp [run, run_append, test, Relation.holds, holds, passed, ran']

theorem execute_readLines :
    ∃ result, tree.walkFrom reading row tree.size 0 = .ok result ∧
      execute row tree.classCount (tree.readLines reading tree.size 0 0) =
        some (tree.outcome result) := by
  obtain ⟨result, walked, ran⟩ := run_readLines wellFormed reading numbers rowNumbers wide 0
    (.here 0) (Nat.le_add_left _ _) (show live [] = true from rfl)
  exact ⟨result, walked, by simp only [execute, ran]⟩

end

end Modelsmith.Tree
