import Modelsmith.Proofs.Files.Directories
import Modelsmith.Run.Traces

/-! Names taken from a file system.

Without some names a path leads where it led, or nowhere. So files can be removed one after the other:
each goes from the place to which its path led at the start, and all else stays. A directory that
holds only files goes with them.
-/

set_option autoImplicit false

namespace Modelsmith.Files

/-! ## Dropped names -/

theorem number?_drop (files : Files) (gone location : Location) :
    (files.drop gone).number? location =
      if gone.isPrefixOf location then none else files.number? location := by
  rw [number?, drop, lookup_filter (fun other => !gone.isPrefixOf other)]
  cases gone.isPrefixOf location <;> rfl

theorem get?_drop (files : Files) {gone location : Location} (inner : location ≠ []) :
    (files.drop gone).get? location =
      if gone.isPrefixOf location then none else files.get? location := by
  rw [get?, if_neg inner, number?_drop, get?, if_neg inner]
  cases gone.isPrefixOf location <;> rfl

/-- The file system without these names and everything below them. -/
def dropAll (files : Files) (gone : List Location) : Files := gone.foldl drop files

theorem get?_dropAll (files : Files) (gone : List Location) {location : Location}
    (inner : location ≠ []) :
    (files.dropAll gone).get? location =
      if gone.any (·.isPrefixOf location) then none else files.get? location := by
  induction gone generalizing files with
  | nil => rfl
  | cons first rest ih =>
    rw [dropAll, List.foldl_cons, ← dropAll, ih, get?_drop _ inner, List.any_cons]
    cases first.isPrefixOf location <;> simp

theorem get?_dropAll_of_beside (files : Files) {gone : List Location} {location : Location}
    (beside : ∀ top ∈ gone, ¬ top <+: location) :
    (files.dropAll gone).get? location = files.get? location := by
  by_cases outer : location = []
  · subst outer
    rfl
  · rw [get?_dropAll files gone outer, if_neg]
    rw [List.any_eq_true]
    rintro ⟨top, member, below⟩
    exact beside top member (List.isPrefixOf_iff_prefix.mp below)

theorem Sub.drop (files : Files) (gone : Location) : Sub (files.drop gone) files where
  current := rfl
  get? {location node} found := by
    by_cases outer : location = []
    · subst outer
      exact found
    · rw [get?_drop files outer] at found
      split at found
      · cases found
      · exact found

theorem Sub.dropAll (files : Files) (gone : List Location) : Sub (files.dropAll gone) files := by
  induction gone generalizing files with
  | nil => exact refl files
  | cons first rest ih => exact (ih (files.drop first)).trans (drop files first)

/-! ## Removed files -/

/-- A path is the name of an entry in a directory, and a node is there. -/
structure Names (files : Files) (path : String) (base : Location) (name : String) (node : Node) :
    Prop where
  leads : files.spot false path = .ok ⟨base, .named name, false⟩
  found : files.get? (base ++ [name]) = some node

theorem Sub.names {fewer files : Files} (sub : Sub fewer files) {path : String} {base : Location}
    {name : String} {node : Node} (names : Names fewer path base name node) :
    Names files path base name node :=
  ⟨sub.spot names.leads, sub.get? names.found⟩

theorem Proper.get?_dropAll {files : Files} (proper : files.Proper) {gone : List Location}
    (noDirectory : ∀ top ∈ gone, ∃ node, files.get? top = some node ∧ node.isDirectory = false)
    {location : Location} (beside : location ∉ gone) :
    (files.dropAll gone).get? location = files.get? location := by
  cases found : files.get? location with
  | none =>
    cases left : (files.dropAll gone).get? location with
    | none => rfl
    | some node => exact ((Sub.dropAll files gone).get? left).symm.trans found
  | some node =>
    rw [← found]
    refine get?_dropAll_of_beside files fun top member below => ?_
    obtain ⟨rest, rfl⟩ := below
    cases rest with
    | nil => exact beside (by rwa [List.append_nil])
    | cons name rest =>
      obtain ⟨directory, there, isDirectory⟩ := proper.above found
      obtain ⟨other, same, notDirectory⟩ := noDirectory top member
      cases there.symm.trans same
      rw [notDirectory] at isDirectory
      cases isDirectory

theorem Proper.dropAll {files : Files} (proper : files.Proper) {gone : List Location}
    (blocked : ∀ top ∈ gone, files.Blocked top) :
    SameWays files (files.dropAll gone) ∧ (files.dropAll gone).Proper := by
  have below : ∀ location, (∃ top ∈ gone, top <+: location) → location ≠ [] →
      files.Blocked location ∧ (files.dropAll gone).get? location = none := by
    rintro location ⟨top, member, rest, rfl⟩ filled
    refine ⟨fun {node} found => ?_, ?_⟩
    · cases rest with
      | nil =>
        rw [List.append_nil] at found
        exact blocked top member found
      | cons name rest =>
        obtain ⟨directory, there, isDirectory⟩ := proper.above found
        rw [(blocked top member there).1] at isDirectory
        cases isDirectory
    · rw [Files.get?_dropAll files gone filled, if_pos]
      exact List.any_eq_true.mpr
        ⟨top, member, List.isPrefixOf_iff_prefix.mpr (List.prefix_append ..)⟩
  have same (location : Location) (beside : ¬ ((∃ top ∈ gone, top <+: location) ∧ location ≠ [])) :
      (files.dropAll gone).get? location = files.get? location := by
    by_cases outer : location = []
    · subst outer
      rfl
    · exact get?_dropAll_of_beside files fun top member inside =>
        beside ⟨⟨top, member, inside⟩, outer⟩
  have both (location : Location) (inside : (∃ top ∈ gone, top <+: location) ∧ location ≠ []) :
      files.Blocked location ∧ (files.dropAll gone).Blocked location := by
    obtain ⟨before, none⟩ := below location inside.1 inside.2
    exact ⟨before, fun found => nomatch none.symm.trans found⟩
  have current := (Sub.dropAll files gone).current
  refine ⟨⟨current.symm, fun location => ?_⟩, ?_⟩
  · by_cases inside : (∃ top ∈ gone, top <+: location) ∧ location ≠ []
    · exact .inr (both location inside)
    · exact .inl (same location inside).symm
  · refine proper.of_blocked current same both fun location name node inside found => ?_
    exact proper.parent ((Sub.dropAll files gone).get? found)

end Modelsmith.Files
