import Modelsmith.Proofs.Run.Changes
import Modelsmith.Proofs.Run.Commands

/-! What is left when a run has cleaned up: the files as they were, without what stood under the names
of the run, and with the directories that were made above the working directory. A working directory
that was made goes with everything in it.
-/

set_option autoImplicit false

namespace Modelsmith

namespace Run

open Files

variable {State : Type}

/-! ## Own names -/

/-- A name without a slash that starts with a letter. -/
structure Plain (name : String) : Prop where
  flat : '/' ∉ name.toList
  starts : ∃ first rest, name.toList = first :: rest ∧ first.isAlpha = true

namespace Plain

variable {name : String}

theorem ne {other : String} (plain : Plain name)
    (odd : ∀ first rest, other.toList = first :: rest → first.isAlpha = false) : name ≠ other := by
  rintro rfl
  obtain ⟨first, rest, same, letter⟩ := plain.starts
  rw [odd first rest same] at letter
  cases letter

theorem ne_empty (plain : Plain name) : name ≠ "" := plain.ne (by simp)

theorem ne_dot (plain : Plain name) : name ≠ "." := plain.ne (by simp)

theorem ne_dots (plain : Plain name) : name ≠ ".." := plain.ne (by simp)

end Plain

section

variable {program : Program} (named : isClassName program.className = true)
include named

theorem plain_of_className {name : String} {rest : List Char} (flat : '/' ∉ name.toList)
    (starts : name.toList = program.className.toList ++ rest) : Plain name := by
  obtain ⟨first, others, className, letter, -⟩ := Placement.className_chars named
  exact ⟨flat, first, others ++ rest, by rw [starts, className]; rfl, letter⟩

theorem className_flat : '/' ∉ program.className.toList := by
  obtain ⟨first, rest, className, -, all⟩ := Placement.className_chars named
  rw [className]
  exact fun member => absurd (all '/' member) (by decide)

theorem plain_sourceFile (flat : '/' ∉ program.extension.toList) : Plain program.sourceFile := by
  have chars : program.sourceFile.toList =
      program.className.toList ++ '.' :: program.extension.toList := by
    simp [Program.sourceFile]
  refine plain_of_className named ?_ chars
  simp [chars, className_flat named, flat]

end

/-! ## The working directory -/

/-- A directory with nothing in it, at the end of a path. -/
structure EmptyAt (files : Files) (path : String) (base : Location) (name : String) (node : Node) :
    Prop where
  leads : ∃ slash, files.spot false path = .ok ⟨base, .named name, slash⟩
  found : files.get? (base ++ [name]) = some node
  isDirectory : node.isDirectory = true
  writable : files.requireWritable base = .ok ()
  empty : ∀ inner rest, files.get? (base ++ [name] ++ inner :: rest) = none

theorem EmptyAt.spot {files : Files} {path : String} {base : Location} {name : String} {node : Node}
    (empty : EmptyAt files path base name node) (last : Bool) :
    ∃ slash, files.spot last path = .ok ⟨base, .named name, slash⟩ := by
  obtain ⟨slash, leads⟩ := empty.leads
  exact ⟨slash, spot_of_isDirectory leads empty.found empty.isDirectory last⟩

theorem EmptyAt.find {files : Files} {path : String} {base : Location} {name : String} {node : Node}
    (empty : EmptyAt files path base name node) : files.find path = .ok (base ++ [name], node) := by
  obtain ⟨slash, leads⟩ := empty.spot true
  rw [Files.find, leads, ok_bind, atSpot]
  simp [Spot.location, empty.found, empty.isDirectory]

theorem workshop_isTree : workshop.IsTree := by
  have numbered : Files.Numbered { names := [], nodes := #[], current := ["w"] } := nofun
  have found (location : Location) : workshop.get? location =
      if location = ["w"] then some { kind := .directory, mode := 0o755 }
      else if location = [] then some root else none := by
    refine (get?_put numbered _ (by simp)).trans ?_
    split
    · rfl
    · rw [get?]
      rfl
  refine ⟨⟨fun {location name node} there => ?_, fun {location node} there => ?_, ?_⟩,
    numbered.put _ _, fun location name number member => ?_⟩
  · rw [found] at there
    split at there
    · rename_i same
      obtain ⟨rfl, -⟩ := @List.append_inj' _ location [name] [] ["w"] same rfl
      exact ⟨root, rfl, rfl⟩
    · rw [if_neg (by simp)] at there
      cases there
  · rw [found] at there
    split at there
    · cases there
      simp
    · split at there
      · cases there
        simp [root]
      · cases there
  · exact ⟨_, (found ["w"]).trans (if_pos rfl), rfl⟩
  · have same := (Prod.mk.inj (List.mem_singleton.mp member)).1
    obtain ⟨-, last⟩ := @List.append_inj' _ location [name] [] ["w"] same rfl
    cases last
    decide

/-- A shell whose compiler writes an empty file at a path where there is none. -/
def compiling (path : String) : Shell Unit where
  run _ files _ :=
    (.ok ⟨true, "", ""⟩, (),
      match files.newSpot path with
      | .ok location => files.create location (.file []) 0o777
      | .error _ => files)

/-- A program that is compiled. -/
def compiled : Program where
  className := "S"
  language := .c
  packaging := .combined
  method := .predict
  extension := "c"
  source := "int main;"
  data := none

/-- The same directory with a file of the user's under a name that the run takes. -/
def occupied : Files := workshop.put ["w", "S.c"] { kind := .file ['m'], mode := 0o644 }

/-- The same directory with a link of the user's under such a name. -/
def linked : Files :=
  (workshop.put ["w", "notes.txt"] { kind := .file ['m'], mode := 0o644 }).put ["w", "S.c"]
    { kind := .link "notes.txt", mode := 0o777 }

end Run

end Modelsmith
