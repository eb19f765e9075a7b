import Modelsmith.Proofs.Program.Exported
import Modelsmith.Proofs.Run.Traceless
import Modelsmith.Proofs.Text.Utf8

/-! What stands at the paths of a program that was saved.

The source is written first and the data after it, each where its path leads. So the data stands there
in any case, and the source unless both paths lead to one file: because they are the same path, which
depends on the extension alone, or by links and second names in the directory.
-/

set_option autoImplicit false

namespace Modelsmith

namespace Files

variable {files later : Files}

/-! ## Reading at a path -/

/-- What a path leads to, links followed, is a file that may be read. -/
def IsReadable (files : Files) (path : String) : Prop :=
  ∃ node, files.lookup path = .ok node ∧ node.isFile = true ∧ node.allows .read = true

/-- Two paths lead to one file, links followed. -/
def Meet (files : Files) (first second : String) : Prop :=
  ∃ location, files.Reaches first location ∧ files.Reaches second location

/-- A path names a file that may be read and has no other name. -/
def IsPlain (files : Files) (path : String) : Prop :=
  ∃ base name node, files.spot false path = .ok ⟨base, .named name, false⟩ ∧
    files.get? (base ++ [name]) = some node ∧ node.isFile = true ∧ node.allows .read = true ∧
    ∀ other, files.SameNode other (base ++ [name]) → other = base ++ [name]

theorem lookup_of_spot {path : String} {base : Location} {name : String}
    (leads : files.spot true path = .ok ⟨base, .named name, false⟩) :
    files.lookup path = (files.get? (base ++ [name])).elim (.error .notFound) .ok := by
  rw [lookup, find, leads, ok_bind, atSpot, Spot.location]
  cases files.get? (base ++ [name]) <;> rfl

theorem readText_congr {first second : String} (same : files.lookup first = later.lookup second) :
    files.readText first = later.readText second := by
  rw [readText, readText, read, read, same]

theorem readText_of_file {path text : String} {node : Node} (found : files.lookup path = .ok node)
    (isText : node.kind = .file (Text.octets text)) (readable : node.allows .read = true) :
    files.readText path = .ok text := by
  rw [readText, read, found, ok_bind, readable, isText]
  simp only [Bool.not_true, Bool.false_eq_true, if_false, pure_bind, Text.octets,
    Text.Utf8.decode?_encode]
  rw [String.ofList_toList]
  rfl

theorem Meet.readText_eq {first second : String} (meet : files.Meet first second) :
    files.readText first = files.readText second := by
  obtain ⟨location, ⟨base, name, leads, same⟩, ⟨other, last, leadsOther, sameOther⟩⟩ := meet
  refine readText_congr ?_
  rw [lookup_of_spot leads, lookup_of_spot leadsOther, ← get?_of_sameNode (by simp) same,
    ← get?_of_sameNode (by simp) sameOther]

theorem Node.isLink_of_isFile {node : Node} (isFile : node.isFile = true) : node.isLink = false := by
  rw [Node.isFile] at isFile
  rw [Node.isLink]
  split at isFile <;> simp_all

theorem IsPlain.spot {path : String} {base : Location} {name : String}
    (names : files.spot false path = .ok ⟨base, .named name, false⟩)
    (noLink : ∀ node, files.get? (base ++ [name]) = some node → node.isLink = false) :
    files.spot true path = .ok ⟨base, .named name, false⟩ := by
  rw [spot_eq_ok_iff] at names ⊢
  exact ⟨names.1, names.2.follow_last noLink⟩

theorem IsPlain.isReadable {path : String} (plain : files.IsPlain path) :
    files.IsReadable path := by
  obtain ⟨base, name, node, names, found, isFile, readable, -⟩ := plain
  have leads := IsPlain.spot names fun other there => by
    cases found.symm.trans there
    exact Node.isLink_of_isFile isFile
  refine ⟨node, ?_, isFile, readable⟩
  rw [lookup_of_spot leads, found]
  rfl

theorem IsPlain.reaches {path : String} (plain : files.IsPlain path) :
    ∃ base name, files.spot false path = .ok ⟨base, .named name, false⟩ ∧
      ∀ location, files.Reaches path location → location = base ++ [name] := by
  obtain ⟨base, name, node, names, found, isFile, -, only⟩ := plain
  have leads := IsPlain.spot names fun other there => by
    cases found.symm.trans there
    exact Node.isLink_of_isFile isFile
  refine ⟨base, name, names, ?_⟩
  rintro location ⟨base', name', leads', same⟩
  cases leads.symm.trans leads'
  exact only location same

/-! ## Writing at a path -/

def newFile (files : Files) : Node where
  kind := .file []
  mode := 0o666 &&& (0o7777 - files.mask % 0o1000)
  time := files.now

theorem newFile_allows_read (clear : files.mask.testBit 8 = false) :
    files.newFile.allows .read = true := by
  have small : files.mask % 0o1000 < 512 := Nat.mod_lt _ (by decide)
  have bit : (files.mask % 0o1000).testBit 8 = false := by
    rw [show 0o1000 = 2 ^ 9 from rfl, Nat.testBit_mod_two_pow]
    simp [clear]
  have all : ∀ mask < 512, mask.testBit 8 = false →
      (0o666 &&& (0o7777 - mask)) / 64 / 4 % 2 = 1 := by decide +kernel
  simp only [Node.allows, newFile, Access.bit, if_true, decide_eq_true_eq]
  exact all _ small bit

/-- Writing changes contents alone, and makes a file where there is nothing. -/
structure Fills (files later : Files) (location : Location) (content : Octets) : Prop where
  number? : ∀ {other number}, files.number? other = some number → later.number? other = some number
  keeps : ∀ {other node}, files.get? other = some node → ∃ now, later.get? other = some now ∧
    now.isFile = node.isFile ∧ ∀ access, now.allows access = node.allows access
  content : ∀ {node}, later.get? location = some node → node.isFile = true →
    node.kind = .file content
  fresh : files.get? location = none → ∃ node, later.get? location = some node ∧
    node.isFile = true ∧ ∀ access, node.allows access = files.newFile.allows access
  mask : later.mask = files.mask

theorem setContent_fills {location : Location} {number : Nat} {node : Node} {kind : Kind}
    {content : Octets} (inner : location ≠ []) (isNumber : files.number? location = some number)
    (found : files.get? location = some node)
    (alike : ∀ time, Node.isFile { node with kind, time } = node.isFile)
    (filled : node.isFile = true → kind = .file content) :
    Fills files (files.setContent number kind) location content where
  number? := id
  keeps {other before} there := by
    by_cases outer : other = []
    · subst outer
      exact ⟨before, there, rfl, fun _ => rfl⟩
    rw [setContent, get?_change _ _ _ outer]
    split
    · rename_i same
      have isNode : before = node := by
        rw [get?, if_neg outer, same] at there
        rw [get?, if_neg inner, isNumber] at found
        exact Option.some.inj (there.symm.trans found)
      subst isNode
      rw [there]
      exact ⟨_, rfl, alike _, fun _ => rfl⟩
    · exact ⟨before, there, rfl, fun _ => rfl⟩
  content {now} there isFile := by
    rw [setContent, get?_change _ _ _ inner, if_pos isNumber, found] at there
    cases there
    exact filled ((alike _).symm.trans isFile)
  fresh absent := by cases found.symm.trans absent
  mask := rfl

theorem unwritten_fills {location : Location} {node : Node} {content : Octets}
    (found : files.get? location = some node) (noFile : node.isFile = false) :
    Fills files files location content where
  number? := id
  keeps {_ node} there := ⟨node, there, rfl, fun _ => rfl⟩
  content {now} there isFile := by
    cases found.symm.trans there
    cases noFile.symm.trans isFile
  fresh absent := by cases found.symm.trans absent
  mask := rfl

theorem create_fills (numbered : files.Numbered) {location : Location} {number : Nat}
    {content : Octets} (inner : location ≠ []) (absent : files.get? location = none)
    (isNumber : (files.create location (.file []) 0o666).number? location = some number) :
    Fills files ((files.create location (.file []) 0o666).setContent number (.file content))
      location content := by
  have found (other : Location) : (files.create location (.file []) 0o666).get? other =
      if other = location then some files.newFile else files.get? other := get?_put numbered _ inner
  have made := (found location).trans (if_pos rfl)
  have filled : Fills _ ((files.create location (.file []) 0o666).setContent number (.file content))
      location content := setContent_fills inner isNumber made (fun _ => rfl) fun _ => rfl
  refine ⟨fun {other number} isOther => filled.number? ?_, fun {other node} there => ?_,
    filled.content, fun _ => ?_, rfl⟩
  · rw [create, number?_put, if_neg]
    · exact isOther
    · rintro rfl
      rw [get?, if_neg inner, isOther, Option.bind_some, Array.getElem?_eq_none_iff] at absent
      exact absurd (numbered isOther) (by omega)
  · refine filled.keeps ?_
    rw [found, if_neg]
    · exact there
    · rintro rfl
      cases absent.symm.trans there
  · exact filled.keeps made

theorem write_fills (numbered : files.Numbered) {path : String} {content : Octets}
    (written : files.write path content = .ok later) {base : Location} {name : String}
    (leads : files.spot true path = .ok ⟨base, .named name, false⟩) :
    Fills files later (base ++ [name]) content := by
  obtain ⟨⟨number, node, opened⟩, opening, writing⟩ := bind_eq_ok.mp written
  obtain ⟨base', name', leads', place⟩ := openToWrite_eq_ok opening
  cases leads.symm.trans leads'
  have inner : base ++ [name] ≠ [] := by simp
  rcases place with ⟨rfl, isNumber, found, -⟩ | ⟨absent, -, rfl, isNumber, found⟩
  · simp only at writing
    split at writing
    · rename_i before isFile
      cases writing
      exact setContent_fills inner isNumber found
        (fun _ => by rw [Node.isFile, Node.isFile, isFile]) fun _ => rfl
    · rename_i before isPipe
      cases writing
      refine setContent_fills inner isNumber found
        (fun _ => by rw [Node.isFile, Node.isFile, isPipe]) fun isFile => ?_
      rw [Node.isFile, isPipe] at isFile
      cases isFile
    · rename_i isFull
      split at writing
      · cases writing
        exact unwritten_fills found (by rw [Node.isFile, isFull])
      · cases writing
    · rename_i noFile _ _
      cases writing
      refine unwritten_fills found ?_
      rw [Node.isFile]
      split
      · exact absurd ‹_› (noFile _)
      · rfl
  · rw [create, get?_put numbered _ inner, if_pos rfl] at found
    cases found
    cases writing
    exact create_fills numbered inner absent isNumber

theorem writeText_of_writeFile {path content : String}
    (written : Program.writeFile files path content = .ok later) :
    files.writeText path content = .ok later := by
  rw [Program.writeFile] at written
  split at written
  · cases written
    assumption
  · cases written

theorem writeFile_eq_ok (tree : files.IsTree) {path content : String}
    (written : Program.writeFile files path content = .ok later) :
    ∃ base name, files.spot true path = .ok ⟨base, .named name, false⟩ ∧
      Rewrites files later (base ++ [name]) ∧
      Fills files later (base ++ [name]) (Text.octets content) := by
  have wrote := writeText_of_writeFile written
  obtain ⟨base, name, leads, rewrites⟩ := write_rewrites tree.numbered wrote
  exact ⟨base, name, leads, rewrites, write_fills tree.numbered wrote leads⟩

/-! ## Writing several files -/

/-- Files were written at these paths, one after another. -/
structure Written (files later : Files) (paths : List String) : Prop where
  tree : later.IsTree
  ways : SameWays files later
  mask : later.mask = files.mask
  reaches : ∀ {path location}, files.Reaches path location → later.Reaches path location
  frame : ∀ location, (∀ path ∈ paths, ¬ later.Reaches path location) →
    later.get? location = files.get? location
  stands : ∀ path ∈ paths, ∃ base name node, later.spot true path = .ok ⟨base, .named name, false⟩ ∧
    later.get? (base ++ [name]) = some node ∧ node.isDirectory = false
  fresh : files.mask.testBit 8 = false → ∀ path location, files.IsEntry path location →
    files.get? location = none → later.get? location = none ∨ later.IsPlain path

theorem Written.nil (tree : files.IsTree) : Written files files [] where
  tree := tree
  ways := .refl files
  mask := rfl
  reaches := id
  frame _ _ := rfl
  stands := nofun
  fresh _ _ _ _ := .inl

theorem SameNode.symm {first second : Location} (inner : second ≠ [])
    (same : files.SameNode first second) : files.SameNode second first := by
  rcases same with rfl | ⟨-, number, isFirst, isSecond⟩
  · exact .inl rfl
  · exact .inr ⟨inner, number, isSecond, isFirst⟩

section

variable {location : Location} {content : Octets} (tree : files.IsTree)
  (rewrites : Rewrites files later location) (fills : Fills files later location content)

include tree rewrites fills

theorem Reaches.of_written {path : String} {other : Location} (reaches : files.Reaches path other) :
    later.Reaches path other := by
  obtain ⟨base, name, leads, same⟩ := reaches
  refine ⟨base, name, rewrites.sameWays.spot tree.proper leads, ?_⟩
  rcases same with rfl | ⟨inner, number, isFirst, isSecond⟩
  · exact .inl rfl
  · exact .inr ⟨inner, number, fills.number? isFirst, fills.number? isSecond⟩

theorem IsPlain.of_written {path : String} (plain : files.IsPlain path) : later.IsPlain path := by
  obtain ⟨base, name, node, names, found, isFile, readable, only⟩ := plain
  obtain ⟨now, there, same, allows⟩ := fills.keeps found
  exact ⟨base, name, now, rewrites.sameWays.spot tree.proper names, there, same.trans isFile,
    (allows .read).trans readable, fun other isSame => only other (rewrites.sameNode isSame)⟩

theorem IsPlain.of_absent (clear : files.mask.testBit 8 = false) {path : String} {entry : Location}
    (named : files.IsEntry path entry) (absent : files.get? entry = none) (inner : location ≠ []) :
    later.get? entry = none ∨ later.IsPlain path := by
  obtain ⟨base, name, names, rfl⟩ := named
  by_cases same : files.SameNode (base ++ [name]) location
  · have alone := sameNode_iff_of_absent tree.numbered (by simp) absent
    cases (alone location).mp (same.symm inner)
    obtain ⟨node, there, isFile, allows⟩ := fills.fresh absent
    exact .inr ⟨base, name, node, rewrites.sameWays.spot tree.proper names, there, isFile,
      (allows .read).trans (newFile_allows_read clear),
      fun other isSame => (alone other).mp (rewrites.sameNode isSame)⟩
  · exact .inl ((rewrites.frame _ same).trans absent)

omit tree in
theorem Fills.stands :
    ∃ node, later.get? location = some node ∧ node.isDirectory = false := by
  have there : ∃ node, later.get? location = some node := by
    cases found : files.get? location with
    | none => exact (fills.fresh found).imp fun _ => And.left
    | some node => exact (fills.keeps found).imp fun _ => And.left
  obtain ⟨node, found⟩ := there
  exact ⟨node, found, ((rewrites.blocked location (.inl rfl)).2 found).1⟩

end

theorem Written.snoc (tree : files.IsTree) {last : Files} {paths : List String}
    (written : Written files later paths) {path content : String}
    (wrote : Program.writeFile later path content = .ok last) :
    Written files last (paths ++ [path]) := by
  obtain ⟨base, name, leads, rewrites, fills⟩ := writeFile_eq_ok written.tree wrote
  have reaches {path : String} {location : Location} (before : later.Reaches path location) :
      last.Reaches path location := before.of_written written.tree rewrites fills
  refine ⟨(rewrites.touches written.tree).tree, written.ways.trans rewrites.sameWays,
    fills.mask.trans written.mask, fun before => reaches (written.reaches before),
    fun location beside => ?_, fun other member => ?_, fun clear other entry named absent => ?_⟩
  · rw [rewrites.frame location fun same => ?_, written.frame location fun other member before => ?_]
    · exact beside other (List.mem_append_left _ member) (reaches before)
    · exact beside path (by simp) (reaches ⟨base, name, leads, same⟩)
  · rcases List.mem_append.mp member with older | new
    · obtain ⟨base, name, node, leads, found, noDirectory⟩ := written.stands other older
      obtain ⟨now, there, -⟩ := fills.keeps found
      refine ⟨base, name, now, rewrites.sameWays.spot written.tree.proper leads, there, ?_⟩
      rcases rewrites.sameWays.get? (base ++ [name]) with same | ⟨-, blocked⟩
      · cases (same.symm.trans found).symm.trans there
        exact noDirectory
      · exact (blocked there).1
    · cases List.mem_singleton.mp new
      obtain ⟨node, found, noDirectory⟩ := fills.stands rewrites
      exact ⟨base, name, node, rewrites.sameWays.spot written.tree.proper leads, found, noDirectory⟩
  · rcases written.fresh clear other entry named absent with none | plain
    · have entered : later.IsEntry other entry := by
        obtain ⟨base, name, names, same⟩ := named
        exact ⟨base, name, written.ways.spot tree.proper names, same⟩
      exact IsPlain.of_absent written.tree rewrites fills (written.mask ▸ clear) entered none (by simp)
    · exact .inr (plain.of_written written.tree rewrites fills)

theorem readText_of_writeFile (tree : files.IsTree) {path content : String}
    (wrote : Program.writeFile files path content = .ok later) (readable : later.IsReadable path) :
    later.readText path = .ok content := by
  obtain ⟨base, name, leads, rewrites, fills⟩ := writeFile_eq_ok tree wrote
  obtain ⟨node, found, isFile, allowed⟩ := readable
  refine readText_of_file found (fills.content ?_ isFile) allowed
  rw [lookup_of_spot (rewrites.sameWays.spot tree.proper leads)] at found
  cases there : later.get? (base ++ [name]) with
  | none =>
    rw [there] at found
    cases found
  | some other =>
    rw [there] at found
    cases found
    rfl

theorem lookup_of_earlier (tree : files.IsTree) {path other content : String} {base : Location}
    {name : String} (leads : files.spot true path = .ok ⟨base, .named name, false⟩)
    (wrote : Program.writeFile files other content = .ok later) (apart : ¬ later.Meet path other) :
    files.lookup path = later.lookup path := by
  obtain ⟨base', name', leads', rewrites, fills⟩ := writeFile_eq_ok tree wrote
  have reached : files.Reaches path (base ++ [name]) := ⟨base, name, leads, .inl rfl⟩
  rw [lookup_of_spot leads, lookup_of_spot (rewrites.sameWays.spot tree.proper leads),
    rewrites.frame _ fun same => apart ⟨base ++ [name], reached.of_written tree rewrites fills, ?_⟩]
  exact Reaches.of_written tree rewrites fills ⟨base', name', leads', same⟩

end Files

namespace Program

open Files

/-! ## Names -/

theorem last_of_join {files : Files} (proper : files.Proper) {directory name : String}
    (plain : Run.Plain name) {spot : Spot}
    (leads : files.spot false (Path.join directory name) = .ok spot) : spot.last = .named name := by
  by_cases nonempty : directory = ""
  · have single : Path.names name = [name] := by
      rw [Path.names_eq, Path.namesOf_flat plain.flat (mt String.toList_eq_nil_iff.mp plain.ne_empty),
        String.ofList_toList]
    rw [Path.join, if_pos (by simp [nonempty])] at leads
    have walk := (spot_eq_ok_iff.mp leads).2
    rw [single] at walk
    rw [walk.single plain.ne_dot plain.ne_dots]
  · obtain ⟨place, -, rfl⟩ := proper.spot_join nonempty plain.flat plain.ne_empty plain.ne_dot
      plain.ne_dots leads
    rfl

theorem join_eq_iff {directory first second : String} (plainFirst : Run.Plain first)
    (plainSecond : Run.Plain second) :
    Path.join directory first = Path.join directory second ↔ first = second := by
  refine ⟨fun same => Path.join_inj ?_ (congrArg Path.parts same), congrArg (Path.join directory)⟩
  rw [List.forall_mem_cons, List.forall_mem_singleton]
  exact ⟨⟨plainFirst.flat, plainFirst.ne_empty, plainFirst.ne_dot⟩, plainSecond.flat,
    plainSecond.ne_empty, plainSecond.ne_dot⟩

theorem not_meet_of_plain {files : Files} (proper : files.Proper) {directory first second : String}
    (plainFirst : Run.Plain first) (plainSecond : Run.Plain second) (differ : first ≠ second)
    (isFirst : files.IsPlain (Path.join directory first))
    (isSecond : files.IsPlain (Path.join directory second)) :
    ¬ files.Meet (Path.join directory first) (Path.join directory second) := by
  rintro ⟨location, reachesFirst, reachesSecond⟩
  obtain ⟨base, name, names, only⟩ := isFirst.reaches
  obtain ⟨base', name', names', only'⟩ := isSecond.reaches
  obtain ⟨-, same⟩ := List.append_inj' ((only _ reachesFirst).symm.trans (only' _ reachesSecond)) rfl
  cases last_of_join proper plainFirst names
  cases last_of_join proper plainSecond names'
  exact differ (List.singleton_inj.mp same)

theorem sourceFile_eq_iff (program : Program) :
    program.sourceFile = program.className ++ ".json" ↔ program.extension = "json" := by
  rw [sourceFile, ← String.toList_inj, ← String.toList_inj]
  simp

/-! ## Saving -/

/-- What is left of a program that was saved at these paths. -/
structure Saved (program : Program) (files after : Files) (sourcePath : String)
    (dataPath : Option String) : Prop where
  /-- The paths are different, but for exported programs with the extension of the data. -/
  nodup_iff : (sourcePath :: dataPath.toList).Nodup ↔
    ¬ (program.packaging = .exported ∧ program.extension = "json")
  /-- There are data exactly if the program is exported. -/
  data_iff : dataPath.isSome ↔ program.packaging = .exported
  source : after.IsReadable sourcePath → (∀ path ∈ dataPath, ¬ after.Meet sourcePath path) →
    after.readText sourcePath = .ok program.source
  data : ∀ path ∈ dataPath, after.IsReadable path →
    ∃ text, program.data = some text ∧ after.readText path = .ok text
  /-- Where both paths lead to one file, the source is lost. -/
  meeting : ∀ path ∈ dataPath, after.Meet sourcePath path →
    after.readText sourcePath = after.readText path
  /-- Different paths lead to different files, if these have no other names. -/
  apart : ∀ path ∈ dataPath, path ≠ sourcePath → after.IsPlain sourcePath → after.IsPlain path →
    ¬ after.Meet sourcePath path
  /-- That is so for files that are new. -/
  fresh : files.mask.testBit 8 = false → ∀ path ∈ sourcePath :: dataPath.toList, ∀ location,
    after.IsEntry path location → files.get? location = none → after.IsPlain path
  /-- Nothing else has changed, but for directories that were made. -/
  frame : ∀ location, (∀ path ∈ sourcePath :: dataPath.toList, ¬ after.Reaches path location) →
    after.get? location = files.get? location ∨
      files.get? location = none ∧ after.get? location = some files.newDirectory

theorem generate_named {model : Model} {target : Target} {program : Program}
    (generated : generate model target = .ok program) :
    isClassName program.className = true ∧
      (program.data.isSome ↔ program.packaging = .exported) := by
  obtain ⟨-, checked, _, _, -, data_iff, rfl⟩ := Source.generate_parts generated
  exact ⟨(isClassName_iff _).mpr (Target.check_eq_ok.mp checked).2, data_iff⟩

theorem createDirectory_grows {files opened : Files} (tree : files.IsTree) {directory : String}
    {result : Except Failure Unit}
    (made : Program.createDirectory files directory = (result, opened)) :
    Grows files opened ∧ opened.IsTree := by
  have grows : Grows files opened := by
    have up := (createUpTo_grows tree.numbered (directory.length + 1) directory).1
    rw [Program.createDirectory, createDirectories] at made
    split at made <;> cases made <;> rename_i created <;> rw [created] at up <;> exact up
  exact ⟨grows, grows.proper tree.proper, grows.numbered, grows.flat tree.flat⟩

theorem fresh_of_written {files opened after : Files} {paths : List String} (tree : files.IsTree)
    (grows : Grows files opened) (written : Written opened after paths)
    (clear : files.mask.testBit 8 = false) {path : String} (member : path ∈ paths)
    {location : Location} (entry : after.IsEntry path location)
    (absent : files.get? location = none) : after.IsPlain path := by
  obtain ⟨base, name, names, rfl⟩ := entry
  obtain ⟨base', name', node, leads, found, noDirectory⟩ := written.stands path member
  have proper := grows.proper tree.proper
  have namesBefore := written.ways.symm.spot written.tree.proper names
  rcases grows.get? (base ++ [name]) with same | ⟨-, made, -⟩
  · have plain := written.fresh (grows.mask ▸ clear) path _ ⟨base, name, namesBefore, rfl⟩
      (same.trans absent)
    refine plain.resolve_left fun nothing => ?_
    cases (IsPlain.spot names fun node there => by cases nothing.symm.trans there).symm.trans leads
    cases nothing.symm.trans found
  · have there := written.ways.get?_of_isDirectory made rfl
    cases (spot_of_isDirectory names there rfl true).symm.trans leads
    cases there.symm.trans found
    cases noDirectory

theorem frame_of_written {files opened after : Files} {paths : List String}
    (grows : Grows files opened) (written : Written opened after paths) (location : Location)
    (beside : ∀ path ∈ paths, ¬ after.Reaches path location) :
    after.get? location = files.get? location ∨
      files.get? location = none ∧ after.get? location = some files.newDirectory := by
  rw [written.frame location beside]
  exact (grows.get? location).imp_right fun ⟨absent, made, _⟩ => ⟨absent, made⟩

theorem saved_of_save {model : Model} {target : Target} {program : Program}
    (generated : generate model target = .ok program) (flat : '/' ∉ program.extension.toList)
    {files after : Files} (tree : files.IsTree) {directory : String} {paths : List String}
    (saved : program.save directory files = (.ok paths, after)) :
    ∃ source data, paths = source :: data.toList ∧ program.Saved files after source data := by
  obtain ⟨named, data_iff⟩ := generate_named generated
  have plainSource := Run.plain_sourceFile named flat
  cases made : Program.createDirectory files directory with | mk result opened
  obtain ⟨grows, isTree⟩ := createDirectory_grows tree made
  rw [save, made] at saved
  -- Paths come only of a run in which every step succeeds.
  cases result with
  | error failure => cases saved
  | ok _ =>
    simp only at saved
    cases wroteSource : writeFile opened (Path.join directory program.sourceFile) program.source with
    | error failure =>
      rw [wroteSource] at saved
      cases saved
    | ok middle =>
      have first := (Written.nil isTree).snoc isTree wroteSource
      rw [wroteSource] at saved
      cases isData : program.data with
      | none =>
        rw [isData] at saved data_iff
        cases saved
        refine ⟨Path.join directory program.sourceFile, none, rfl, ?_⟩
        have packaging : program.packaging ≠ .exported := by simpa using data_iff
        refine ⟨by simp [packaging], by simp [packaging],
          fun readable _ => readText_of_writeFile isTree wroteSource readable, by simp, by simp,
          by simp, fun clear path member location => ?_, frame_of_written grows first⟩
        exact fresh_of_written tree grows first clear member
      | some text =>
        rw [isData] at saved data_iff
        simp only at saved
        cases wroteData :
          writeFile middle (Path.join directory (program.className ++ ".json")) text with
        | error failure =>
          rw [wroteData] at saved
          cases saved
        | ok last =>
          rw [wroteData] at saved
          cases saved
          have exported : program.packaging = .exported := data_iff.mp rfl
          have plainData : Run.Plain (program.className ++ ".json") :=
            Run.plain_of_className named (by simp [Run.className_flat named]) String.toList_append
          have both := first.snoc isTree wroteData
          refine ⟨Path.join directory program.sourceFile,
            some (Path.join directory (program.className ++ ".json")), rfl, ?_⟩
          refine ⟨?_, by simp [exported], fun readable apart => ?_, ?_, ?_, ?_,
            fun clear path member location => fresh_of_written tree grows both clear member,
            frame_of_written grows both⟩
          · simp only [Option.toList_some, List.nodup_cons, List.mem_singleton, List.not_mem_nil,
              not_false_eq_true, List.nodup_nil, and_true, exported, true_and, ← sourceFile_eq_iff]
            exact not_congr (join_eq_iff plainSource plainData)
          · -- The data went to another file, so the source is as it was right after its writing.
            obtain ⟨base, name, node, leads, -⟩ := first.stands _ (List.mem_singleton_self _)
            have same := lookup_of_earlier first.tree leads wroteData (apart _ rfl)
            rw [← readText_congr same]
            obtain ⟨node, found, isFile, allowed⟩ := readable
            exact readText_of_writeFile isTree wroteSource ⟨node, same.trans found, isFile, allowed⟩
          · rintro path ⟨⟩ readable
            exact ⟨text, isData, readText_of_writeFile first.tree wroteData readable⟩
          · rintro path ⟨⟩ meet
            exact meet.readText_eq
          · rintro path ⟨⟩ differ isSource isPath
            refine not_meet_of_plain both.tree.proper plainSource plainData (fun same => ?_)
              isSource isPath
            exact differ (by rw [same])

theorem Saved.read_back {program : Program} {files after : Files} {source : String}
    {data : Option String} (saved : program.Saved files after source data)
    (differ : (source :: data.toList).Nodup)
    (plain : ∀ path ∈ source :: data.toList, after.IsPlain path) :
    after.readText source = .ok program.source ∧
      ∀ path ∈ data, ∃ text, program.data = some text ∧ after.readText path = .ok text := by
  have plainSource := plain source List.mem_cons_self
  have among {path : String} (isData : path ∈ data) : path ∈ data.toList :=
    Option.mem_toList.mpr isData
  refine ⟨saved.source plainSource.isReadable fun path isData => ?_, fun path isData => ?_⟩
  · refine saved.apart path isData (fun same => ?_) plainSource
      (plain path (List.mem_cons_of_mem _ (among isData)))
    exact (List.nodup_cons.mp differ).1 (same ▸ among isData)
  · exact saved.data path isData (plain path (List.mem_cons_of_mem _ (among isData))).isReadable

/-- Saving keeps the source and the data apart, for every class name and every extension without a
slash, but for exported programs with the extension of the data: these have one path for both, and
the data stands there in place of the source. -/
theorem save_keeps_apart {model : Model} {target : Target} {program : Program}
    (generated : generate model target = .ok program) (flat : '/' ∉ program.extension.toList)
    {files after : Files} (tree : files.IsTree) {directory : String} {paths : List String}
    (saved : program.save directory files = (.ok paths, after)) :
    ∃ source data, paths = source :: data.toList ∧ program.Saved files after source data ∧
      (paths.Nodup → (∀ path ∈ paths, after.IsPlain path) →
        after.readText source = .ok program.source ∧
          ∀ path ∈ data, ∃ text, program.data = some text ∧ after.readText path = .ok text) := by
  obtain ⟨source, data, rfl, kept⟩ := saved_of_save generated flat tree saved
  exact ⟨source, data, rfl, kept, kept.read_back⟩

/-! ### One path for both -/

def jsonTarget : Target := ⟨.javaScript, .exported, .predict, "Stump", "json", .shortest⟩

theorem json_generated : ∃ source data,
    generate (.ofTree Source.stump) jsonTarget = .ok (jsonTarget.program source (some data)) := by
  have checked : jsonTarget.check (Model.kind (.ofTree Source.stump)) = .ok () :=
    Target.check_eq_ok.mpr ⟨rfl, (isClassName_iff _).mp (by decide)⟩
  obtain ⟨source, -, generated⟩ := @generate_checked (.ofTree Source.stump) jsonTarget
    Source.shortestText (fun _ => rfl) Source.stump_valid checked
  rw [if_pos (show jsonTarget.packaging = .exported from rfl),
    DataDocument.settle_of_holds] at generated
  · exact ⟨source, _, generated⟩
  · have finite : ∀ value ∈ DataDocument.numbers (.ofTree Source.stump), value.isFinite = true := by
      decide +kernel
    exact fun value member => (DataDocument.holds_shortest value).mpr (finite value member)

theorem writeFile_of_openToWrite {files opened : Files} {path : String} {number : Nat} {node : Node}
    (opens : files.openToWrite path = .ok (number, node, opened)) (isFile : node.isFile = true)
    (content : String) : ∃ later, writeFile files path content = .ok later := by
  rw [writeFile, writeText, write, opens, ok_bind]
  rw [Node.isFile] at isFile
  split at isFile
  · simp only [*]
    exact ⟨_, rfl⟩
  · cases isFile

theorem openToWrite_of_file {files : Files} {path : String} {base : Location} {name : String}
    {number : Nat} {node : Node} (leads : files.spot true path = .ok ⟨base, .named name, false⟩)
    (isNumber : files.number? (base ++ [name]) = some number)
    (found : files.get? (base ++ [name]) = some node) (isFile : node.isFile = true)
    (writable : node.allows .write = true) :
    files.openToWrite path = .ok (number, node, files) := by
  rw [Node.isFile] at isFile
  split at isFile
  · rename_i content kind
    have noDirectory : node.isDirectory = false := by rw [Node.isDirectory, kind]
    rw [openToWrite, leads, ok_bind]
    simp only [Spot.location, Bool.false_eq_true, if_false, isNumber, found, noDirectory, writable,
      kind, Bool.not_true, reduceCtorEq]
    rfl
  · cases isFile

theorem json_saved (source data : String) : ∃ after,
    (jsonTarget.program source (some data)).save "" Run.workshop =
      (.ok ["Stump.json", "Stump.json"], after) := by
  have sourcePath : Path.join "" (jsonTarget.program source (some data)).sourceFile = "Stump.json" :=
    show Path.join "" ("Stump" ++ "." ++ "json") = _ by decide
  have dataPath : Path.join "" ("Stump" ++ ".json") = "Stump.json" := by decide
  have opens : ((Run.workshop.openToWrite "Stump.json").toOption.any fun opened =>
      opened.2.1.isFile) = true := rfl
  have absent : Run.workshop.get? ["w", "Stump.json"] = none := rfl
  obtain ⟨middle, wroteSource⟩ :
      ∃ middle, writeFile Run.workshop "Stump.json" source = .ok middle := by
    cases opened : Run.workshop.openToWrite "Stump.json" with
    | error fault =>
      rw [opened] at opens
      cases opens
    | ok opening =>
      rw [opened] at opens
      exact writeFile_of_openToWrite opened opens source
  obtain ⟨base, name, leads, rewrites, fills⟩ := writeFile_eq_ok Run.workshop_isTree wroteSource
  have place : Run.workshop.spot true "Stump.json" = .ok ⟨["w"], .named "Stump.json", false⟩ := by
    have names : Path.names "Stump.json" = ["Stump.json"] := by decide
    have start : Run.workshop.start "Stump.json" = ["w"] := by decide
    have slash : Path.endsInSlash "Stump.json" = false := by decide
    rw [spot_eq_ok_iff, names, start, slash]
    refine ⟨⟨by decide, by decide, by decide⟩,
      .entry rfl ⟨by decide, by decide, by decide⟩ fun _ target => ?_⟩
    rw [kindAt, List.singleton_append, absent]
    simp
  cases place.symm.trans leads
  obtain ⟨node, found, isFile, allows⟩ := fills.fresh absent
  obtain ⟨number, isNumber, -⟩ := Option.bind_eq_some_iff.mp
    ((if_neg (List.cons_ne_nil _ _)).symm.trans found :
      (middle.number? ["w", "Stump.json"]).bind _ = _)
  have again : middle.openToWrite "Stump.json" = .ok (number, node, middle) := by
    refine openToWrite_of_file (rewrites.sameWays.spot Run.workshop_isTree.proper leads) isNumber
      found isFile ((allows .write).trans (by decide))
  obtain ⟨after, wroteData⟩ := writeFile_of_openToWrite again isFile data
  refine ⟨after, ?_⟩
  have made : createDirectory Run.workshop "" = (.ok (), Run.workshop) := rfl
  have isSource : (jsonTarget.program source (some data)).source = source := rfl
  have isData : (jsonTarget.program source (some data)).data = some data := rfl
  have isName : (jsonTarget.program source (some data)).className = "Stump" := rfl
  simp only [save, made, sourcePath, isSource, isData, isName, dataPath, wroteSource, wroteData]

/-- The data takes the place of the source. -/
theorem save_keeps_apart_json : ∃ program after,
    generate (.ofTree Source.stump) jsonTarget = .ok program ∧ '/' ∉ program.extension.toList ∧
      Run.workshop.IsTree ∧
      program.save "" Run.workshop = (.ok ["Stump.json", "Stump.json"], after) ∧
      (∃ source data, ["Stump.json", "Stump.json"] = source :: data.toList ∧
        program.Saved Run.workshop after source data) ∧
      ¬ ["Stump.json", "Stump.json"].Nodup := by
  obtain ⟨source, data, generated⟩ := json_generated
  obtain ⟨after, saved⟩ := json_saved source data
  have flat : '/' ∉ (jsonTarget.program source (some data)).extension.toList :=
    show '/' ∉ "json".toList by decide
  obtain ⟨_, _, same, kept, -⟩ := save_keeps_apart generated flat Run.workshop_isTree saved
  exact ⟨_, after, generated, flat, Run.workshop_isTree, saved, ⟨_, _, same, kept⟩, by decide⟩

end Program

end Modelsmith
