import Modelsmith.Text.Blank

/-! Letters, texts cut at the first character that fails a test or after a given start, and what
trimming keeps of them. -/

set_option autoImplicit false

namespace Modelsmith

def IsLetter (c : Char) : Prop := ('a' ≤ c ∧ c ≤ 'z') ∨ ('A' ≤ c ∧ c ≤ 'Z')

theorem isAlpha_iff (c : Char) : c.isAlpha = true ↔ IsLetter c := by
  have split : c.isAlpha = (decide ('A'.val ≤ c.val ∧ c.val ≤ 'Z'.val) ||
      (decide ('a'.val ≤ c.val) && decide (c.val ≤ 'z'.val))) := rfl
  simp only [split, IsLetter, Char.le_def, Bool.or_eq_true, Bool.and_eq_true, decide_eq_true_eq]
  exact or_comm

namespace Text

section
variable {test : Char → Bool} {text rest : List Char} (all : ∀ c ∈ text, test c = true)
  (stop : ∀ c, rest.head? = some c → test c = false)
include all stop

theorem takeWhile_append : (text ++ rest).takeWhile test = text := by
  rw [List.takeWhile_append_of_pos all]
  cases rest with
  | nil => simp
  | cons c rest => simp [stop c rfl]

theorem dropWhile_append : (text ++ rest).dropWhile test = rest := by
  rw [List.dropWhile_append_of_pos all]
  cases rest with
  | nil => rfl
  | cons c rest => simp [stop c rfl]

end

def after? : (start text : List Char) → Option (List Char)
  | [], text => some text
  | _ :: _, [] => none
  | c :: start, d :: text => if c = d then after? start text else none

@[simp] theorem after?_append (start rest : List Char) : after? start (start ++ rest) = some rest := by
  induction start with
  | nil => cases rest <;> rfl
  | cons c start ih => simp [after?, ih]

theorem after?_of_head {start text : List Char} (filled : start ≠ [])
    (apart : start.head? ≠ text.head?) : after? start text = none := by
  cases start with
  | nil => exact absurd rfl filled
  | cons c start =>
    cases text with
    | nil => rfl
    | cons d text =>
      have different : c ≠ d := by simpa using apart
      simp [after?, different]

theorem mem_trimStart {c : Char} {text : List Char} (member : c ∈ text)
    (solid : isBlank c = false) : c ∈ trimStart text := by
  rw [← List.takeWhile_append_dropWhile (p := isBlank) (l := text)] at member
  rcases List.mem_append.mp member with blank | kept
  · have := List.all_eq_true.mp List.all_takeWhile c blank
    rw [solid] at this
    cases this
  · exact kept

theorem mem_trim {c : Char} {text : List Char} (member : c ∈ text)
    (solid : isBlank c = false) : c ∈ trim text := by
  have kept := mem_trimStart (List.mem_reverse.mpr (mem_trimStart member solid)) solid
  simpa [trim, trimEnd, trimStart] using kept

end Text

end Modelsmith
