import Modelsmith.Model.Fault

/-! The position that is chosen among values. It is one of theirs, and among numbers it is the first
of the largest one. -/

set_option autoImplicit false

namespace Modelsmith

theorem firstLargest_go_lt {α : Type} (above : α → α → Bool) (best : α) {bestIndex next : Nat}
    (inside : bestIndex < next) (rest : List α) :
    firstLargest.go above best bestIndex next rest < next + rest.length := by
  induction rest generalizing best bestIndex next with
  | nil => simpa [firstLargest.go] using inside
  | cons value rest ih =>
    rw [firstLargest.go, List.length_cons]
    split
    · have := ih value (Nat.lt_add_one next)
      omega
    · have := ih best (Nat.lt_add_one_of_lt inside)
      omega

theorem firstLargest_lt {α : Type} (above : α → α → Bool) {values : List α} (filled : values ≠ []) :
    firstLargest above values < values.length := by
  cases values with
  | nil => exact absurd rfl filled
  | cons first rest =>
    have := firstLargest_go_lt above first Nat.zero_lt_one rest
    rw [firstLargest, List.length_cons]
    omega

/-- The least position of a largest value. -/
structure LargestAt (values : List Nat) (position largest : Nat) : Prop where
  read : values[position]? = some largest
  most : ∀ value ∈ values, value ≤ largest
  least : ∀ other value, other < position → values[other]? = some value → value < largest

namespace LargestAt

variable {values : List Nat} {position largest value : Nat}

theorem lt (held : LargestAt values position largest) : position < values.length :=
  (List.getElem?_eq_some_iff.mp held.read).1

theorem overtaken (held : LargestAt values position largest) (above : largest < value) :
    LargestAt (values ++ [value]) values.length value where
  read := by simp
  most := by
    intro other member
    rcases List.mem_append.mp member with old | new
    · exact Nat.le_of_lt (Nat.lt_of_le_of_lt (held.most other old) above)
    · exact Nat.le_of_eq (List.mem_singleton.mp new)
  least := by
    intro other found before read
    rw [List.getElem?_append_left before] at read
    exact Nat.lt_of_le_of_lt (held.most found (List.mem_of_getElem? read)) above

theorem kept (held : LargestAt values position largest) (below : ¬ largest < value) :
    LargestAt (values ++ [value]) position largest where
  read := by rw [List.getElem?_append_left held.lt, held.read]
  most := by
    intro other member
    rcases List.mem_append.mp member with old | new
    · exact held.most other old
    · rw [List.mem_singleton.mp new]
      exact Nat.le_of_not_lt below
  least := by
    intro other found before read
    rw [List.getElem?_append_left (Nat.lt_trans before held.lt)] at read
    exact held.least other found before read

theorem go (held : LargestAt values position largest) (rest : List Nat) :
    ∃ final, LargestAt (values ++ rest)
      (firstLargest.go (fun count best => decide (best < count)) largest position values.length
        rest) final := by
  induction rest generalizing values position largest with
  | nil => exact ⟨largest, by simpa [firstLargest.go] using held⟩
  | cons value rest ih =>
    rw [firstLargest.go]
    split
    · rename_i above
      simpa using ih (held.overtaken (of_decide_eq_true above))
    · rename_i below
      simpa using ih (held.kept (by simpa using below))

end LargestAt

theorem largestAt_firstLargest {values : List Nat} (filled : values ≠ []) :
    ∃ largest, LargestAt values (firstLargest (fun count best => decide (best < count)) values)
      largest := by
  cases values with
  | nil => exact absurd rfl filled
  | cons first rest =>
    have start : LargestAt [first] 0 first := ⟨rfl, by simp, by simp⟩
    exact start.go rest

end Modelsmith
