import Modelsmith.Proofs.Files.Removal
import Modelsmith.Proofs.Run.Course

/-! What a run takes away again: what lies under the paths that it traced, and nothing else. A path is
traced before it is written, so what could not be written is taken away too. -/

set_option autoImplicit false

namespace Modelsmith

/-! ## Traced paths -/

/-- These paths are traced, and no others; each of them once, however it is spelled. -/
structure Traces.Tracks (traces : Traces) (paths : List String) : Prop where
  once : traces.files.Pairwise fun first second => Path.same second first = false
  sound : ∀ path ∈ traces.files, path ∈ paths
  complete : ∀ path ∈ paths, traces.files.any (Path.same path) = true

theorem Path.same_iff {left right : String} : same left right = true ↔ parts left = parts right :=
  decide_eq_true_iff

theorem Path.same_refl (path : String) : same path path = true := Path.same_iff.mpr rfl

@[simp] theorem Traces.add_directories (traces : Traces) (path : String) :
    (traces.add path).directories = traces.directories := by
  rw [Traces.add]
  split <;> rfl

theorem Traces.foldl_add_directories (paths : List String) (traces : Traces) :
    (paths.foldl Traces.add traces).directories = traces.directories := by
  induction paths generalizing traces with
  | nil => rfl
  | cons path rest ih => rw [List.foldl_cons, ih, Traces.add_directories]

theorem Traces.addClassFiles_eq (traces : Traces) (files : Files) (directory className : String) :
    traces.addClassFiles files directory className =
      ((((files.names? directory).getD []).filter (isClassFile className)).map
        (Path.join directory)).foldl Traces.add traces := by
  rw [addClassFiles, List.foldl_map]
  cases files.names? directory <;> rfl

namespace Traces.Tracks

variable {traces : Traces} {paths : List String}

theorem nil : Tracks {} [] := ⟨.nil, nofun, nofun⟩

theorem add (tracks : Tracks traces paths) (path : String) :
    Tracks (traces.add path) (paths ++ [path]) := by
  rw [Traces.add]
  split
  · rename_i traced
    refine ⟨tracks.once, fun other member => ?_, fun other member => ?_⟩
    · exact List.mem_append_left _ (tracks.sound other member)
    · rcases List.mem_append.mp member with before | last
      · exact tracks.complete other before
      · rw [List.mem_singleton.mp last]
        exact traced
  · rename_i untraced
    rw [Bool.not_eq_true, List.any_eq_false] at untraced
    refine ⟨?_, fun other member => ?_, fun other member => ?_⟩
    · refine List.pairwise_append.mpr ⟨tracks.once, List.pairwise_singleton .., ?_⟩
      intro first member second last
      rw [List.mem_singleton.mp last]
      exact Bool.eq_false_iff.mpr (untraced first member)
    · rcases List.mem_append.mp member with before | last
      · exact List.mem_append_left _ (tracks.sound other before)
      · exact List.mem_append_right _ last
    · rw [List.any_append, Bool.or_eq_true]
      rcases List.mem_append.mp member with before | last
      · exact .inl (tracks.complete other before)
      · rw [List.mem_singleton.mp last]
        exact .inr (by simp [Path.same_refl])

theorem addAll (tracks : Tracks traces paths) (more : List String) :
    Tracks (more.foldl Traces.add traces) (paths ++ more) := by
  induction more generalizing traces paths with
  | nil => simpa using tracks
  | cons path rest ih =>
    have added := ih (tracks.add path)
    rwa [List.append_assoc, List.singleton_append] at added

theorem append_of_same {path other : String} (tracks : Tracks traces paths)
    (member : other ∈ paths) (same : Path.same path other = true) :
    Tracks traces (paths ++ [path]) := by
  refine ⟨tracks.once, fun found inside => List.mem_append_left _ (tracks.sound found inside), ?_⟩
  intro found inside
  rcases List.mem_append.mp inside with before | last
  · exact tracks.complete found before
  · rw [List.mem_singleton.mp last]
    obtain ⟨traced, listed, alike⟩ := List.any_eq_true.mp (tracks.complete other member)
    refine List.any_eq_true.mpr ⟨traced, listed, Path.same_iff.mpr ?_⟩
    exact (Path.same_iff.mp same).trans (Path.same_iff.mp alike)

end Traces.Tracks

namespace Run

variable {State : Type}

/-! ## Own paths -/

/-- The texts of a program and where they go. -/
def texts (program : Program) (placement : Placement) : List (String × Octets) :=
  (placement.source, Text.octets program.source) ::
    match program.data, placement.data with
    | some data, some path => [(path, Text.octets data)]
    | _, _ => []

/-- What a compiler was to write: the class files that are there, or the binary. -/
def outputPaths (toolchain : Toolchain) (placement : Placement) (files : Files) : List String :=
  if toolchain.language = .java then
    (((files.names? placement.directory).getD []).filter
      (Traces.isClassFile placement.className)).map (Path.join placement.directory)
  else [placement.binary]

/-- The files right after the compile command, if there was one. -/
def compiledFiles? (shell : Shell State)
    (prepared : Except Failure (Placement × Option String) × Session State) : Option Files :=
  match prepared.1 with
  | .ok (_, some command) => some (ask shell prepared.2.world command).2.files
  | _ => none

theorem compiledTraces_tracks (toolchain : Toolchain) {placement : Placement} (files : Files)
    {traces : Traces} {paths : List String} (tracks : traces.Tracks paths)
    (source : placement.source ∈ paths) :
    (compiledTraces toolchain placement files traces).directories = traces.directories ∧
      (compiledTraces toolchain placement files traces).Tracks
        (paths ++ outputPaths toolchain placement files) := by
  rw [compiledTraces, outputPaths]
  split
  · rw [Traces.addClassFiles_eq]
    exact ⟨Traces.foldl_add_directories .., tracks.addAll _⟩
  · split
    · exact ⟨Traces.add_directories .., tracks.add _⟩
    · rename_i same
      rw [Bool.not_eq_true', Bool.not_eq_false] at same
      exact ⟨rfl, tracks.append_of_same source same⟩

theorem Course.tracks {shell : Shell State} {host : Host} {options : Options}
    {toolchain : Toolchain} {batch : List (List Double)} {start ended : Session State}
    {prepared : Except Failure (Placement × Option String)} {heard : List Exchange}
    {result : Except Failure (List (Option Prediction))} {paths : List String} {place : Placement}
    (course : Course shell host options toolchain batch start prepared heard ended result)
    (tracks : start.traces.Tracks paths)
    (placed : ∀ placement compiler, prepared = .ok (placement, compiler) →
      placement.source ∈ paths ∧ ∃ classPath, placement = { place with classPath }) :
    ended.traces.directories = start.traces.directories ∧ ended.traces.Tracks (paths ++
      ((compiledFiles? shell (prepared, start)).map (outputPaths toolchain place)).getD []) := by
  have compiled {placement : Placement} {compiler : Option String} {heard : List Exchange}
      {later : Session State} (isPrepared : prepared = .ok (placement, compiler))
      (compiles : Compiles shell toolchain placement start compiler heard later) :
      later.traces.directories = start.traces.directories ∧ later.traces.Tracks (paths ++
        ((compiledFiles? shell (prepared, start)).map (outputPaths toolchain place)).getD []) := by
    obtain ⟨source, classPath, rfl⟩ := placed placement compiler isPrepared
    cases compiles with
    | nothing => exact ⟨rfl, by simpa [isPrepared, compiledFiles?] using tracks⟩
    | done asked _ =>
      simp only [isPrepared, compiledFiles?, asked]
      exact compiledTraces_tracks toolchain _ tracks source
  cases course with
  | unprepared => exact ⟨rfl, by simpa [compiledFiles?] using tracks⟩
  | uncompiled asked _ =>
    obtain ⟨source, classPath, rfl⟩ := placed _ _ rfl
    simp only [compiledFiles?, asked]
    exact compiledTraces_tracks toolchain _ tracks source
  | unrendered compiles _ => exact compiled rfl compiles
  | ran compiles _ _ _ _ _ =>
    have before := compiled rfl compiles
    exact before

/-- A program with data, for which a compiler may write several classes. -/
def nested : Program where
  className := "S"
  language := .java
  packaging := .exported
  method := .predict
  extension := "java"
  source := "class S \x7b\x7d"
  data := some "\x7b\x7d"

/-- A working directory with classes of the program and with one of another. -/
def classes : Files :=
  ["S.class", "S$Inner.class", "Same.class"].foldl
    (fun files name => files.put ["w", name] { kind := .file [], mode := 0o644 }) workshop

end Run

end Modelsmith
