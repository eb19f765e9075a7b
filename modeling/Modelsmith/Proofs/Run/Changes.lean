import Modelsmith.Proofs.Run.Cleanup

/-! What a run changes before it cleans up.

From the open working directory on it changes no way: it writes files where its paths lead, and its
commands, if they are confined, only what the compiler is to write. So every path leads where it led
until files are removed.
-/

set_option autoImplicit false

namespace Modelsmith

/-! ## Places of paths -/

namespace Files

/-- The entry that a path names. -/
def IsEntry (files : Files) (path : String) (location : Location) : Prop :=
  ∃ base name, files.spot false path = .ok ⟨base, .named name, false⟩ ∧ location = base ++ [name]

/-- A name of the file that a path leads to, links followed. -/
def Reaches (files : Files) (path : String) (location : Location) : Prop :=
  ∃ base name, files.spot true path = .ok ⟨base, .named name, false⟩ ∧
    files.SameNode location (base ++ [name])

/-- A tree of files, with plain names. -/
structure IsTree (files : Files) : Prop where
  proper : files.Proper
  numbered : files.Numbered
  flat : files.Flat

/-- Nothing has changed but at these locations, and no way. -/
structure Touches (files later : Files) (changed : Location → Prop) : Prop where
  ways : SameWays files later
  tree : later.IsTree
  frame : ∀ location, ¬ changed location → later.get? location = files.get? location

namespace Touches

variable {files later last : Files} {changed more : Location → Prop}

theorem refl (tree : files.IsTree) : Touches files files changed :=
  ⟨.refl files, tree, fun _ _ => rfl⟩

theorem trans (first : Touches files later changed) (second : Touches later last more)
    (inside : ∀ location, more location → changed location) : Touches files last changed where
  ways := first.ways.trans second.ways
  tree := second.tree
  frame location beside := by
    rw [second.frame location (mt (inside location) beside), first.frame location beside]

theorem mono (touches : Touches files later changed)
    (inside : ∀ location, changed location → more location) : Touches files later more :=
  { touches with frame := fun location beside => touches.frame location (mt (inside location) beside) }

theorem isEntry (touches : Touches files later changed) {path : String} {location : Location}
    (entry : later.IsEntry path location) : files.IsEntry path location := by
  obtain ⟨base, name, leads, same⟩ := entry
  exact ⟨base, name, touches.ways.symm.spot touches.tree.proper leads, same⟩

end Touches

theorem Rewrites.touches {files later : Files} {location : Location}
    (rewrites : Rewrites files later location) (tree : files.IsTree) :
    Touches files later fun other => files.SameNode other location where
  ways := rewrites.sameWays
  tree := ⟨rewrites.proper tree.proper, rewrites.numbered, rewrites.flat tree.flat⟩
  frame := rewrites.frame

/-- A command leaves a tree in which nothing has changed but the entries that these paths name, and at
most files are there, before and after it. -/
structure Keeps (outputs : List String) (files after : Files) : Prop where
  tree : after.IsTree
  current : after.current = files.current
  get? : ∀ location, after.get? location = files.get? location ∨
    (∃ path ∈ outputs, files.IsEntry path location) ∧
      files.Blocked location ∧ after.Blocked location

theorem Keeps.touches {outputs : List String} {files after : Files}
    (keeps : Keeps outputs files after) :
    Touches files after fun location => ∃ path ∈ outputs, files.IsEntry path location where
  ways := ⟨keeps.current.symm, fun location => (keeps.get? location).imp Eq.symm And.right⟩
  tree := keeps.tree
  frame location beside := (keeps.get? location).resolve_right fun changed => beside changed.1

end Files

namespace Run

open Files

variable {State : Type}

/-! ## Changes of a run -/

/-- Writing changes what the written paths lead to, and joins no two files. -/
structure Writes (files later : Files) (tried : List (String × Bool)) : Prop where
  touches : Touches files later fun location => ∃ path, (path, true) ∈ tried ∧
    files.Reaches path location
  sameNode : ∀ {first second}, later.SameNode first second → files.SameNode first second

namespace Writes

variable {files later last : Files} {tried more : List (String × Bool)}

theorem refl (tree : files.IsTree) (tried : List (String × Bool)) : Writes files files tried :=
  ⟨.refl tree, id⟩

theorem one (tree : files.IsTree) {path : String} {content : Octets}
    (written : files.write path content = .ok later) : Writes files later [(path, true)] := by
  obtain ⟨base, name, leads, rewrites⟩ := write_rewrites tree.numbered written
  refine ⟨(rewrites.touches tree).mono fun location same => ?_, rewrites.sameNode⟩
  exact ⟨path, List.mem_singleton_self _, base, name, leads, same⟩

theorem append (first : Writes files later tried) (second : Writes later last more) :
    Writes files last (tried ++ more) := by
  refine ⟨.trans (first.touches.mono ?_) second.touches ?_, first.sameNode ∘ second.sameNode⟩
  · rintro location ⟨path, member, reaches⟩
    exact ⟨path, List.mem_append_left _ member, reaches⟩
  · rintro location ⟨path, member, base, name, leads, same⟩
    refine ⟨path, List.mem_append_right _ member, base, name, ?_, first.sameNode same⟩
    exact first.touches.ways.symm.spot first.touches.tree.proper leads

end Writes

/-- The commands of a run change nothing but what the compile command writes: the class files that are
there after it, or the binary. -/
structure Confined (shell : Shell State) (toolchain : Toolchain) (rows : List (List Double))
    (prepared : Except Failure (Placement × Option String)) : Prop where
  compile : ∀ placement command, prepared = .ok (placement, some command) → ∀ state files,
    files.IsTree →
    let after := (shell.run state files command).2.2
    Keeps (outputPaths toolchain placement after) files after
  run : ∀ placement compiler command, prepared = .ok (placement, compiler) →
    placement.runCommand toolchain = .ok command → ∀ row ∈ rows, ∀ state files, files.IsTree →
    Keeps [] files (shell.run state files (rowCommand command row)).2.2

theorem Asks.touches {shell : Shell State} {first second : World State} {heard : List Exchange}
    (asks : Asks shell first heard second)
    (quiet : ∀ exchange ∈ heard, ∀ state files, files.IsTree → Keeps [] files
      (shell.run state files exchange.1).2.2) (tree : first.files.IsTree) :
    Touches first.files second.files fun _ => False := by
  induction asks with
  | nil world => exact .refl tree
  | @cons world later command rest _ ih =>
    have once := (quiet _ List.mem_cons_self world.shell world.files tree).touches
    have others := ih (fun exchange member => quiet exchange (List.mem_cons_of_mem _ member)) once.tree
    exact (once.mono (by simp)).trans others fun _ => id

theorem Interleaves.mem_rows {options : Options} {command : String} {rows : List (List Double)}
    {trials : List Trial} {heard : List Exchange}
    {result : Except Failure (List (Option Prediction))}
    (interleaves : Interleaves command trials heard)
    (tried : Tried options command rows trials result) {exchange : Exchange}
    (asked : exchange ∈ heard) : ∃ row ∈ rows, exchange.1 = rowCommand command row := by
  obtain ⟨trial, member, inside⟩ := interleaves.mem_iff.mp asked
  obtain ⟨answer, -, rfl⟩ := List.mem_map.mp inside
  exact ⟨trial.features, tried.features ▸ List.mem_map_of_mem member, rfl⟩

theorem Course.touches {shell : Shell State} {host : Host} {options : Options} {toolchain : Toolchain}
    {rows : List (List Double)} {start ended : Session State}
    {prepared : Except Failure (Placement × Option String)} {heard : List Exchange}
    {result : Except Failure (List (Option Prediction))} {place : Placement}
    (course : Course shell host options toolchain rows start prepared heard ended result)
    (confined : Confined shell toolchain rows prepared)
    (placed : ∀ placement compiler, prepared = .ok (placement, compiler) →
      ∃ classPath, placement = { place with classPath })
    (tree : start.world.files.IsTree) :
    Touches start.world.files ended.world.files fun location => ∃ path ∈
      ((compiledFiles? shell (prepared, start)).map (outputPaths toolchain place)).getD [],
        start.world.files.IsEntry path location := by
  -- Only the compile command may touch anything, and it is asked first.
  have compiled {placement : Placement} {command : String} {answer : Answer} {world : World State}
      (isPrepared : prepared = .ok (placement, some command))
      (asked : ask shell start.world command = (answer, world)) :
      Touches start.world.files world.files fun location => ∃ path ∈
        ((compiledFiles? shell (prepared, start)).map (outputPaths toolchain place)).getD [],
          start.world.files.IsEntry path location := by
    obtain ⟨classPath, rfl⟩ := placed _ _ isPrepared
    have keeps := confined.compile _ _ isPrepared start.world.shell start.world.files tree
    have after : (shell.run start.world.shell start.world.files command).2.2 = world.files :=
      congrArg (fun answered => answered.2.files) asked
    simp only [after] at keeps
    simp only [isPrepared, compiledFiles?, asked]
    exact keeps.touches
  have compiles {placement : Placement} {compiler : Option String} {exchanges : List Exchange}
      {later : Session State} (isPrepared : prepared = .ok (placement, compiler))
      (compiling : Compiles shell toolchain placement start compiler exchanges later) :
      Touches start.world.files later.world.files fun location => ∃ path ∈
        ((compiledFiles? shell (prepared, start)).map (outputPaths toolchain place)).getD [],
          start.world.files.IsEntry path location := by
    cases compiling with
    | nothing => exact .refl tree
    | done asked _ => exact compiled isPrepared asked
  cases course with
  | unprepared => exact .refl tree
  | uncompiled asked _ => exact compiled rfl asked
  | unrendered compiling _ => exact compiles rfl compiling
  | ran compiling rendered asks interleaves _ tried =>
    have first := compiles rfl compiling
    refine first.trans (asks.touches (fun exchange inside state files isTree => ?_) first.tree)
      (by simp)
    obtain ⟨row, member, same⟩ := interleaves.mem_rows tried inside
    rw [same]
    exact confined.run _ _ _ rfl rendered row member state files isTree

end Run

end Modelsmith
