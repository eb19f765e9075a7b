import Mathlib.Tactic.IntervalCases
import Modelsmith.Text.Utf8

/-! A text is read back from its octets. Behind the octets of a character nothing is open, so the
octets of a text are those of its characters, one after another. -/

set_option autoImplicit false

namespace Modelsmith.Text.Utf8

theorem toNat_ofNat {code : Nat} (small : code < 256) : (Char.ofNat code).toNat = code := by
  have valid : code.isValidChar := .inl (Nat.lt_trans small (by decide))
  rw [Char.ofNat, dif_pos valid]
  rfl

theorem encode_of_small {text : List Char} (small : ∀ c ∈ text, c.toNat < 128) :
    encode text = text := by
  induction text with
  | nil => rfl
  | cons c rest ih =>
    have alone : encodeChar c = [c] := by
      simp only [encodeChar, if_pos (small c (by simp)), List.map_cons, List.map_nil,
        Char.ofNat_toNat]
    rw [encode, List.flatMap_cons, alone, ← encode, ih fun d member => small d (by simp [member])]
    rfl

theorem pending?_two {lead : Nat} (least : 2 ≤ lead) (most : lead < 32) :
    pending? (0xC0 + lead) = some ⟨1, 0x80, 0xBF, lead⟩ := by
  rw [pending?, if_pos (by omega), show (0xC0 + lead) % 32 = lead by omega]

theorem pending?_three {lead : Nat} (most : lead < 16) :
    pending? (0xE0 + lead) =
      some ⟨2, if lead = 0 then 0xA0 else 0x80, if lead = 13 then 0x9F else 0xBF, lead⟩ := by
  rw [pending?, if_neg (by omega)]
  by_cases first : lead = 0
  · subst first
    rfl
  rw [if_neg (by omega), if_neg first]
  by_cases surrogates : lead = 13
  · subst surrogates
    rfl
  rw [if_neg (by omega), if_pos (by omega), if_neg surrogates,
    show (0xE0 + lead) % 16 = lead by omega]

theorem pending?_four {lead : Nat} (most : lead < 5) :
    pending? (0xF0 + lead) =
      some ⟨3, if lead = 0 then 0x90 else 0x80, if lead = 4 then 0x8F else 0xBF, lead⟩ := by
  interval_cases lead <;> rfl

theorem step_lead {octet : Nat} {pending : Pending} (high : 0x80 ≤ octet)
    (begins : pending? octet = some pending) : step none octet = ([], some pending) := by
  rw [step, start, if_neg (by omega), begins]

theorem step_tail {needed low high bits tail : Nat} (small : tail < 64) (least : low ≤ 0x80 + tail)
    (most : 0x80 + tail ≤ high) :
    step (some ⟨needed + 2, low, high, bits⟩) (0x80 + tail) =
      ([], some ⟨needed + 1, 0x80, 0xBF, bits * 64 + tail⟩) := by
  simp only [step, if_pos (And.intro least most)]
  rw [show (0x80 + tail) % 64 = tail by omega]
  simp

theorem step_last {low high bits tail : Nat} (small : tail < 64) (least : low ≤ 0x80 + tail)
    (most : 0x80 + tail ≤ high) :
    step (some ⟨1, low, high, bits⟩) (0x80 + tail) = ([Char.ofNat (bits * 64 + tail)], none) := by
  simp only [step, if_pos (And.intro least most)]
  rw [show (0x80 + tail) % 64 = tail by omega]
  simp

theorem decodeFrom_cons (chars : List Char) (state : Option Pending) {octet : Nat}
    (small : octet < 256) (rest : Octets) :
    decodeFrom chars state (Char.ofNat octet :: rest) =
      decodeFrom ((step state octet).1.reverse ++ chars) (step state octet).2 rest := by
  rw [decodeFrom, toNat_ofNat small]

theorem decodeFrom_encodeChar (chars : List Char) (c : Char) (rest : Octets) :
    decodeFrom chars none (encodeChar c ++ rest) = decodeFrom (c :: chars) none rest := by
  have valid : c.toNat < 0xD800 ∨ 0xDFFF < c.toNat ∧ c.toNat < 0x110000 := c.valid
  have back {bits : Nat} (same : bits = c.toNat) : Char.ofNat bits = c := by
    rw [same, Char.ofNat_toNat]
  rw [encodeChar]
  simp only [Nat.pow_zero, Nat.div_one]
  split
  · rw [List.map_singleton, List.singleton_append, decodeFrom_cons _ _ (by omega), step, start,
      if_pos ‹_›, back rfl]
    rfl
  split
  · simp only [List.map_cons, List.map_nil, List.cons_append, List.nil_append]
    rw [decodeFrom_cons _ _ (by omega),
      step_lead (by omega) (pending?_two (by omega) (by omega)), decodeFrom_cons _ _ (by omega),
      step_last (by omega) (by omega) (by omega), back (by omega)]
    rfl
  split
  · simp only [List.map_cons, List.map_nil, List.cons_append, List.nil_append]
    rw [decodeFrom_cons _ _ (by omega), step_lead (by omega) (pending?_three (by omega)),
      decodeFrom_cons _ _ (by omega), step_tail (by omega) (by split <;> omega)
        (by split <;> omega), decodeFrom_cons _ _ (by omega),
      step_last (by omega) (by omega) (by omega), back (by omega)]
    rfl
  · simp only [List.map_cons, List.map_nil, List.cons_append, List.nil_append]
    rw [decodeFrom_cons _ _ (by omega), step_lead (by omega) (pending?_four (by omega)),
      decodeFrom_cons _ _ (by omega), step_tail (by omega) (by split <;> omega)
        (by split <;> omega), decodeFrom_cons _ _ (by omega),
      step_tail (by omega) (by omega) (by omega), decodeFrom_cons _ _ (by omega),
      step_last (by omega) (by omega) (by omega), back (by omega)]
    rfl

theorem decodeFrom_encode (chars text : List Char) :
    decodeFrom chars none (encode text) = chars.reverse ++ text := by
  induction text generalizing chars with
  | nil => simp [encode, decodeFrom]
  | cons c text ih =>
    rw [encode, List.flatMap_cons, ← encode, decodeFrom_encodeChar, ih, List.reverse_cons,
      List.append_assoc, List.singleton_append]

theorem decode?_encode (text : List Char) : decode? (encode text) = some text := by
  have same : decode (encode text) = text := decodeFrom_encode [] text
  rw [decode?, same, if_pos rfl]

end Modelsmith.Text.Utf8
