import Modelsmith.Proofs.Tree.Evaluation
import Modelsmith.Proofs.Tree.Traversal
import Modelsmith.Dialect
import Modelsmith.Program.Branches

/-! Trees that differ only where no row comes.

What a tree does is decided by the nodes that are reached: their thresholds, the features and
children of splits, and the counts of leaves. Two well-formed trees that have these in common send
every row the same way and are written as the same branches, whatever else their arrays hold.
-/

set_option autoImplicit false

namespace Modelsmith.Tree

def Reached (tree : Tree) (node : Nat) : Prop := ∃ path, tree.Leads path node

theorem child?_entryFor (child : Option Nat) : child? (entryFor child) = child := by
  cases child with
  | none => rfl
  | some node =>
    have present : (node : Int) ≠ noChild := by
      unfold noChild
      omega
    rw [entryFor, child?, if_neg present, Int.toNat_natCast]

theorem WellFormed.reaches_leaf {tree : Tree} (wellFormed : tree.WellFormed)
    {reading : Double → Double} {row : List Double} {fuel start node : Nat} {path : List Side}
    (leads : tree.Leads path start) (walked : tree.walkFrom reading row fuel start = .ok (some node)) :
    ∃ path, tree.Leads path node ∧ tree.IsLeaf node := by
  induction fuel generalizing start path with
  | zero => cases walked
  | succ fuel ih =>
    rw [walkFrom] at walked
    obtain leaf | ⟨feature, threshold, left, right, split⟩ := wellFormed.node_cases leads
    · simp only [leaf.atNode] at walked
      cases walked
      exact ⟨path, leads, leaf.isLeaf⟩
    · simp only [split.atNode] at walked
      split at walked
      · cases walked
      · split at walked
        · cases walked
        · rename_i next chosen
          obtain ⟨side, leadsNext⟩ := split.leads chosen
          exact ih leadsNext walked

/-- Two trees have in common what counts of the nodes that are reached in the first one. -/
structure Alike (first second : Tree) : Prop where
  classCount : first.classCount = second.classCount
  thresholds : ∀ node, first.Reached node → first.thresholds[node]? = second.thresholds[node]?
  features : ∀ node, first.Reached node → first.IsSplit node →
    first.indices[node]? = second.indices[node]?
  children : ∀ node, first.Reached node → first.IsSplit node → ∀ side : Side,
    (side.entries first)[node]? = (side.entries second)[node]?
  counts : ∀ node, first.Reached node → first.IsLeaf node →
    first.classes[node]? = second.classes[node]?

namespace Alike

variable {first second : Tree} (alike : first.Alike second)
include alike

/-! ## Reached nodes -/

theorem isSplit_iff {node : Nat} (reached : first.Reached node) :
    first.IsSplit node ↔ second.IsSplit node := by
  rw [IsSplit, IsSplit, alike.thresholds node reached]

theorem hasEntry_iff {node : Nat} (reached : first.Reached node) (side : Side) (entry : Int) :
    first.HasEntry node side entry ↔ second.HasEntry node side entry := by
  rw [HasEntry, HasEntry, ← alike.isSplit_iff reached]
  refine and_congr_right fun split => ?_
  rw [alike.children node reached split side]

theorem below_iff {start : Nat} (reached : first.Reached start) (path : List Side) (node : Nat) :
    first.Below start path node ↔ second.Below start path node := by
  induction path generalizing start with
  | nil => rw [below_nil, below_nil]
  | cons side path ih =>
    rw [below_cons, below_cons]
    refine exists_congr fun child => ?_
    rw [← alike.hasEntry_iff reached]
    refine and_congr_right fun has => ih ?_
    obtain ⟨before, leads⟩ := reached
    exact ⟨before ++ [side], leads.trans (.step has (.here child))⟩

theorem leads_iff (path : List Side) (node : Nat) :
    first.Leads path node ↔ second.Leads path node :=
  alike.below_iff ⟨[], .here 0⟩ path node

section
variable (firstFormed : first.WellFormed) (secondFormed : second.WellFormed)
include firstFormed secondFormed

theorem node?_eq {path : List Side} {node : Nat} (leads : first.Leads path node) :
    first.node? node = second.node? node := by
  have reached : first.Reached node := ⟨path, leads⟩
  have inside := secondFormed.node_lt ((alike.leads_iff path node).mp leads)
  obtain leaf | ⟨feature, threshold, left, right, split⟩ := firstFormed.node_cases leads
  · obtain ⟨threshold, atThreshold, isLeaf⟩ := leaf.isLeaf
    have atClasses := leaf.atClasses
    rw [leaf.atNode]
    rw [alike.thresholds node reached] at atThreshold
    rw [alike.counts node reached leaf.isLeaf] at atClasses
    simp [node?, atThreshold, atClasses, isLeaf]
  · have isSplit : first.IsSplit node := ⟨threshold, split.atThreshold, split.isSplit⟩
    have atThreshold := (alike.thresholds node reached).symm.trans split.atThreshold
    have atIndex := (alike.features node reached isSplit).symm.trans split.atIndex
    have atLeft := (alike.children node reached isSplit .left).symm.trans split.atLeft
    have atRight := (alike.children node reached isSplit .right).symm.trans split.atRight
    have atClasses := secondFormed.sameLengths.atClasses inside
    simp only [Side.entries] at atLeft atRight
    rw [split.atNode]
    simp [node?, atThreshold, atClasses, split.isSplit, atIndex, atLeft, atRight, child?_entryFor]

/-! ## Rows -/

theorem leafFrom_eq (row : List Double) {fuel other node : Nat} {path : List Side}
    (leads : first.Leads path node) (enough : first.size ≤ path.length + fuel)
    (also : second.size ≤ path.length + other) :
    first.leafFrom row fuel node = second.leafFrom row other node := by
  induction fuel generalizing other node path with
  | zero =>
    have := firstFormed.path_lt leads
    omega
  | succ fuel ih =>
    cases other with
    | zero =>
      have := secondFormed.path_lt ((alike.leads_iff path node).mp leads)
      omega
    | succ other =>
      -- The trees may differ in size and so in fuel, which is enough for either.
      rw [leafFrom, leafFrom, ← alike.node?_eq firstFormed secondFormed leads]
      obtain leaf | ⟨feature, threshold, left, right, split⟩ := firstFormed.node_cases leads
      · rw [leaf.atNode]
      · simp only [split.atNode]
        cases row[feature.toNat]? with
        | none => rfl
        | some value =>
          cases chosen : if value.le threshold then left else right with
          | none => simp only [chosen]
          | some next =>
            obtain ⟨side, leadsNext⟩ := split.leads chosen
            simp only [chosen]
            exact ih leadsNext (by simp; omega) (by simp; omega)

theorem leaf_eq (row : List Double) : first.leaf row = second.leaf row :=
  alike.leafFrom_eq firstFormed secondFormed row (.here 0) (Nat.le_add_left _ _)
    (Nat.le_add_left _ _)

theorem counts_eq {row : List Double} {node : Nat} (walked : first.leaf row = .ok (some node)) :
    first.counts node = second.counts node := by
  have again := (alike.leaf_eq firstFormed secondFormed row).symm.trans walked
  rw [leaf, leafFrom_eq_walkFrom] at walked again
  obtain ⟨path, leads, isLeaf⟩ := firstFormed.reaches_leaf (.here 0) walked
  have same := alike.counts node ⟨path, leads⟩ isLeaf
  rw [classes_of_walkFrom walked, classes_of_walkFrom again] at same
  exact Option.some.inj same

theorem predict_eq (row : List Double) : first.predict row = second.predict row := by
  rw [predict, predict, ← alike.leaf_eq firstFormed secondFormed row]
  cases walked : first.leaf row with
  | error fault => rfl
  | ok result =>
    cases result with
    | none => rfl
    | some node =>
      simp only [Except.map, alike.counts_eq firstFormed secondFormed walked]

theorem probabilitiesBy_eq (overflow : Overflow) (row : List Double) :
    first.probabilitiesBy overflow row = second.probabilitiesBy overflow row := by
  rw [probabilitiesBy, probabilitiesBy, ← alike.leaf_eq firstFormed secondFormed row]
  cases walked : first.leaf row with
  | error fault => rfl
  | ok result =>
    cases result with
    | none => simp only [ok_bind, alike.classCount]
    | some node =>
      simp only [ok_bind, alike.counts_eq firstFormed secondFormed walked]

/-! ## Branches -/

theorem traversal {depth node : Nat} {entries : List Entry} {path : List Side}
    (leads : first.Leads path node) (traversal : first.Traversal depth node entries) :
    second.Traversal depth node entries := by
  induction traversal generalizing path with
  | leaf is => exact .leaf (alike.node?_eq firstFormed secondFormed leads ▸ is)
  | split is _ noLeft _ noRight ihLeft ihRight =>
    have split := SplitAt.of_node? firstFormed leads is
    exact .split (alike.node?_eq firstFormed secondFormed leads ▸ is)
      (fun child entry => ihLeft child entry (split.leadsLeft child entry)) noLeft
      (fun child entry => ihRight child entry (split.leadsRight child entry)) noRight

theorem thresholdsFrom_eq {fuel other node : Nat} {path : List Side}
    (leads : first.Leads path node) (enough : first.size ≤ path.length + fuel)
    (also : second.size ≤ path.length + other) :
    first.thresholdsFrom fuel node = second.thresholdsFrom other node := by
  induction fuel generalizing other node path with
  | zero =>
    have := firstFormed.path_lt leads
    omega
  | succ fuel ih =>
    cases other with
    | zero =>
      have := secondFormed.path_lt ((alike.leads_iff path node).mp leads)
      omega
    | succ other =>
      rw [thresholdsFrom, thresholdsFrom, ← alike.node?_eq firstFormed secondFormed leads]
      obtain leaf | ⟨feature, threshold, left, right, split⟩ := firstFormed.node_cases leads
      · rw [leaf.atNode]
      · simp only [split.atNode, List.flatMap_append]
        congr 2
        · refine List.flatMap_congr fun child member => ?_
          exact ih (split.leadsLeft child (Option.mem_toList.mp member)) (by simp; omega)
            (by simp; omega)
        · refine List.flatMap_congr fun child member => ?_
          exact ih (split.leadsRight child (Option.mem_toList.mp member)) (by simp; omega)
            (by simp; omega)

theorem branchLines_eq : first.branchLines = second.branchLines := by
  obtain ⟨entries, traversed, lines⟩ := firstFormed.branchLines_eq
  obtain ⟨others, again, otherLines⟩ := secondFormed.branchLines_eq
  have same := (alike.traversal firstFormed secondFormed (.here 0) traversed).unique again
  rw [lines, otherLines, same]

end

end Alike

/-- Nothing but the nodes that are reached counts: two accepted trees that have in common what
counts of these send every row to the same leaf, with the same class and shares, and are written as
the same branches in every language and with every converter. -/
theorem only_reached_nodes_count {first second : Tree} (firstAccepted : first.validate = .ok ())
    (secondAccepted : second.validate = .ok ()) (alike : first.Alike second) :
    (∀ node, first.Reached node ↔ second.Reached node) ∧
      (∀ row : List Double, first.leaf row = second.leaf row ∧
        first.predict row = second.predict row ∧
        ∀ overflow, first.probabilitiesBy overflow row = second.probabilitiesBy overflow row) ∧
      ∀ (language : Language) (converter : Converter),
        Branches.text language.dialect converter first =
          Branches.text language.dialect converter second := by
  have firstFormed := validate_eq_ok_iff_wellFormed.mp firstAccepted
  have secondFormed := validate_eq_ok_iff_wellFormed.mp secondAccepted
  refine ⟨fun node => exists_congr fun path => alike.leads_iff path node, fun row => ⟨?_, ?_, ?_⟩,
    fun language converter => ?_⟩
  · exact alike.leaf_eq firstFormed secondFormed row
  · exact alike.predict_eq firstFormed secondFormed row
  · exact fun overflow => alike.probabilitiesBy_eq firstFormed secondFormed overflow row
  · rw [Branches.text, Branches.text, alike.branchLines_eq firstFormed secondFormed,
      alike.thresholdsFrom_eq firstFormed secondFormed (.here 0) (Nat.le_add_left _ _)
        (Nat.le_add_left _ _)]

/-- A split with a left leaf and no right child. -/
def bare : Tree :=
  ⟨[1, -1], [-1, -1], [Double.zero, leafMark], [1, 0], [[3, 3], [0, 5]], none⟩

/-- The same split and leaf, with other counts for the split, children and a feature for the leaf,
and two nodes that are never reached. -/
def cluttered : Tree :=
  ⟨[1, 0, 2, 1], [-1, 7, 2, 0], [Double.zero, leafMark, Double.zero, leafMark], [1, -9, 0, 4],
    [[8, 1], [0, 5], [1, 1], [2, 0]], some 2⟩

theorem bare_alike_cluttered : bare.Alike cluttered := by
  have accepted : bare.validate = .ok () := by decide +kernel
  have nodes : ∀ node, bare.Reached node → node = 0 ∨ node = 1 := by
    rintro node ⟨path, leads⟩
    have := (validate_eq_ok_iff_wellFormed.mp accepted).node_lt leads
    have : bare.size = 2 := rfl
    omega
  have root : ∀ node, bare.Reached node → bare.IsSplit node → node = 0 := by
    intro node reached isSplit
    obtain rfl | rfl := nodes node reached
    · rfl
    · obtain ⟨threshold, read, isSplit⟩ := isSplit
      obtain rfl := Option.some.inj read
      exact absurd isSplit (by decide +kernel)
  refine ⟨rfl, fun node reached => ?_, fun node reached isSplit => ?_,
    fun node reached isSplit side => ?_, fun node reached isLeaf => ?_⟩
  · obtain rfl | rfl := nodes node reached <;> rfl
  · rw [root node reached isSplit]
    rfl
  · rw [root node reached isSplit]
    cases side <;> rfl
  · obtain rfl | rfl := nodes node reached
    · obtain ⟨threshold, read, isLeaf⟩ := isLeaf
      obtain rfl := Option.some.inj read
      exact absurd isLeaf (by decide +kernel)
    · rfl

/-- A row that falls off the missing child does so in both trees, and both are written alike. -/
theorem only_reached_nodes_count_cluttered :
    bare.validate = .ok () ∧ cluttered.validate = .ok () ∧ bare.Alike cluttered ∧
      cluttered.leaf [Double.zero, Double.ofNat 1] = .ok none ∧
      cluttered.predict [Double.zero, Double.zero] = .ok 1 ∧
      Branches.text Dialect.php (.fixed 3) bare = Branches.text Dialect.php (.fixed 3) cluttered := by
  have bareAccepted : bare.validate = .ok () := by decide +kernel
  have clutteredAccepted : cluttered.validate = .ok () := by decide +kernel
  obtain ⟨-, rows, texts⟩ :=
    only_reached_nodes_count bareAccepted clutteredAccepted bare_alike_cluttered
  have falls : bare.leaf [Double.zero, Double.ofNat 1] = .ok none := by decide +kernel
  have chosen : bare.predict [Double.zero, Double.zero] = .ok 1 := by decide +kernel
  exact ⟨bareAccepted, clutteredAccepted, bare_alike_cluttered, (rows _).1.symm.trans falls,
    (rows _).2.1.symm.trans chosen, texts .php (.fixed 3)⟩

end Modelsmith.Tree
