import Modelsmith.Shell.Basic

/-! Words of a command line.

A line is divided at blanks. Inside of single quotes every character stands for itself; outside, a
backslash takes the next one. All other characters that mean something to a shell are refused there,
so a line that can be divided is a plain list of words.
-/

set_option autoImplicit false

namespace Modelsmith.Shell.Words

def isBlank (c : Char) : Bool := c = ' ' || c = '\t'

def special : List Char := " \t\n'\"\\|&;<>()$*?[]#~!\x7b\x7d\x60".toList

def isPlain (c : Char) : Bool := !special.contains c

def extend (c : Char) (read : List Char × List Char) : List Char × List Char := (c :: read.1, read.2)

/-- The word at the front of a line, and what follows it. -/
def word? : (quoted : Bool) → List Char → Option (List Char × List Char)
  | true, [] => none
  | false, [] => some ([], [])
  | true, c :: rest => if c = '\x27' then word? false rest else (word? true rest).map (extend c)
  | false, '\\' :: c :: rest => if c = '\n' then none else (word? false rest).map (extend c)
  | false, c :: rest =>
    if isBlank c then some ([], c :: rest)
    else if c = '\x27' then word? true rest
    else if isPlain c then (word? false rest).map (extend c)
    else none

def words? : (fuel : Nat) → List Char → Option (List (List Char))
  | 0, _ => none
  | fuel + 1, line =>
    match line.dropWhile isBlank with
    | [] => some []
    | c :: rest => do
      let (word, rest) ← word? false (c :: rest)
      return word :: (← words? fuel rest)

def split? (line : String) : Option (List String) :=
  (words? (line.toList.length + 1) line.toList).map (·.map String.ofList)

theorem isBlank_of_isPlain {c : Char} (plain : isPlain c = true) : isBlank c = false := by
  cases blank : isBlank c with
  | false => rfl
  | true =>
    simp only [isBlank, Bool.or_eq_true, decide_eq_true_eq] at blank
    rcases blank with rfl | rfl
    · exact absurd plain (by decide)
    · exact absurd plain (by decide)

theorem isPlain_of_isAlphanum {c : Char} (letter : c.isAlphanum = true) : isPlain c = true := by
  have others : (special.all fun c => !c.isAlphanum) = true := by decide
  cases found : special.contains c with
  | false => simp only [isPlain, found, Bool.not_false]
  | true =>
    have other := List.all_eq_true.mp others c (List.contains_iff_mem.mp found)
    rw [letter] at other
    cases other

/-! ## One word -/

def Ends (rest : List Char) : Prop := ∀ c, rest.head? = some c → isBlank c = true

theorem ends_nil : Ends [] := by
  intro c head
  cases head

theorem ends_blank {c : Char} (blank : isBlank c = true) (rest : List Char) : Ends (c :: rest) := by
  intro d head
  exact Option.some.inj head ▸ blank

theorem word?_open (rest : List Char) : word? false ('\x27' :: rest) = word? true rest := by
  simp [word?, isBlank]

theorem word?_of_ends {rest : List Char} (ends : Ends rest) : word? false rest = some ([], rest) := by
  cases rest with
  | nil => rfl
  | cons c rest =>
    have blank := ends c rfl
    rw [word?, if_pos blank]
    rintro next tail rfl
    exact absurd blank (by decide)

theorem word?_quoteChars (text rest : List Char) :
    word? true (quoteChars text ++ '\x27' :: rest) =
      (word? false rest).map fun read => (text ++ read.1, read.2) := by
  induction text with
  | nil => simp [quoteChars, word?]
  | cons c text ih =>
    rw [quoteChars]
    split
    · rename_i quote
      subst quote
      -- The quotes are closed, a quote follows a backslash, and they are opened again.
      calc word? true ('\x27' :: '\\' :: '\x27' :: '\x27' :: (quoteChars text ++ '\x27' :: rest))
          = (word? false ('\x27' :: (quoteChars text ++ '\x27' :: rest))).map (extend '\x27') := by
            simp [word?]
        _ = (word? false rest).map fun read => ('\x27' :: text ++ read.1, read.2) := by
            rw [word?_open, ih, Option.map_map]
            rfl
    · rename_i other
      rw [List.cons_append, word?, if_neg other, ih, Option.map_map]
      rfl

theorem word?_quote (text : String) {rest : List Char} (ends : Ends rest) :
    word? false ((quote text).toList ++ rest) = some (text.toList, rest) := by
  rw [quote, String.toList_ofList, List.cons_append, List.append_assoc, List.singleton_append,
    word?_open, word?_quoteChars, word?_of_ends ends]
  simp

theorem word?_plain {text rest : List Char} (plain : ∀ c ∈ text, isPlain c = true)
    (ends : Ends rest) : word? false (text ++ rest) = some (text, rest) := by
  induction text with
  | nil => exact word?_of_ends ends
  | cons c text ih =>
    have here := plain c List.mem_cons_self
    have blank := isBlank_of_isPlain here
    have quote : c ≠ '\x27' := by
      rintro rfl
      exact absurd here (by decide)
    rw [List.cons_append, word?, if_neg (by simp [blank]), if_neg quote, if_pos here,
      ih fun other member => plain other (List.mem_cons_of_mem _ member)]
    · rfl
    · rintro next tail rfl
      exact absurd here (by decide)

/-! ## Lines -/

/-- A text that is read as these words, whatever comes behind it. -/
structure Writes (text : List Char) (words : List (List Char)) : Prop where
  read : ∀ rest, Ends rest → ∀ fuel,
    words? (fuel + words.length) (text ++ rest) = (words? fuel rest).map (words ++ ·)
  enough : words.length ≤ text.length

theorem words?_blank (fuel : Nat) {c : Char} (blank : isBlank c = true) (line : List Char) :
    words? fuel (c :: line) = words? fuel line := by
  cases fuel with
  | zero => rfl
  | succ fuel => rw [words?, words?, List.dropWhile_cons_of_pos blank]

theorem writes_word {c : Char} {text word : List Char} (starts : isBlank c = false)
    (reads : ∀ rest, Ends rest → word? false (c :: text ++ rest) = some (word, rest)) :
    Writes (c :: text) [word] where
  read := by
    intro rest ends fuel
    have kept : (c :: text ++ rest).dropWhile isBlank = c :: (text ++ rest) :=
      List.dropWhile_cons_of_neg (by simp [starts])
    rw [List.length_singleton, words?, kept]
    simp only [← List.cons_append, reads rest ends, Option.bind_eq_bind, Option.bind_some]
    cases words? fuel rest <;> rfl
  enough := by simp

theorem writes_quote (text : String) : Writes (quote text).toList [text.toList] := by
  have reads (rest : List Char) := @word?_quote text rest
  rw [quote, String.toList_ofList] at reads ⊢
  exact writes_word (by decide) reads

theorem writes_plain {text : List Char} (filled : text ≠ []) (plain : ∀ c ∈ text, isPlain c = true) :
    Writes text [text] := by
  cases text with
  | nil => exact absurd rfl filled
  | cons c text =>
    have starts := isBlank_of_isPlain (plain c List.mem_cons_self)
    exact writes_word starts fun rest ends => word?_plain plain ends

theorem Writes.blank {c : Char} {text : List Char} {words : List (List Char)}
    (blank : isBlank c = true) (writes : Writes text words) : Writes (c :: text) words where
  read := by
    intro rest ends fuel
    rw [List.cons_append, words?_blank _ blank, writes.read rest ends]
  enough := Nat.le_succ_of_le writes.enough

theorem Writes.followed {first second : List Char} {words others : List (List Char)}
    (left : Writes first words) (ends : Ends second) (right : Writes second others) :
    Writes (first ++ second) (words ++ others) where
  read := by
    intro rest restEnds fuel
    have behind : Ends (second ++ rest) := by
      cases second with
      | nil => exact restEnds
      | cons c second => exact ends
    rw [List.append_assoc, List.length_append, Nat.add_comm words.length, ← Nat.add_assoc,
      left.read _ behind, right.read rest restEnds, Option.map_map]
    congr 1
    funext tail
    exact (List.append_assoc ..).symm
  enough := by
    have := left.enough
    have := right.enough
    simp only [List.length_append]
    omega

theorem Writes.append {first second : List Char} {words others : List (List Char)}
    (left : Writes first words) (right : Writes second others) :
    Writes (first ++ ' ' :: second) (words ++ others) :=
  left.followed (ends_blank rfl second) (right.blank rfl)

theorem Writes.split {text : List Char} {words : List (List Char)} (writes : Writes text words) :
    split? (String.ofList text) = some (words.map String.ofList) := by
  have more := writes.read [] ends_nil (text.length - words.length + 1)
  have enough := writes.enough
  rw [split?, String.toList_ofList,
    show text.length + 1 = text.length - words.length + 1 + words.length by omega]
  simp only [List.append_nil] at more
  rw [more]
  simp [words?]

/-- A line of texts in quotes, with blanks between them and around. -/
inductive Spaced : List String → List Char → Prop where
  | nil {gap : List Char} (blank : ∀ c ∈ gap, isBlank c = true) : Spaced [] gap
  | cons (text : String) {texts : List String} {gap rest : List Char}
      (blank : ∀ c ∈ gap, isBlank c = true) (ends : Ends rest) (others : Spaced texts rest) :
      Spaced (text :: texts) (gap ++ ((quote text).toList ++ rest))

theorem Writes.spaced {gap text : List Char} {words : List (List Char)}
    (blank : ∀ c ∈ gap, isBlank c = true) (writes : Writes text words) :
    Writes (gap ++ text) words := by
  induction gap with
  | nil => exact writes
  | cons c gap ih =>
    exact (ih fun d member => blank d (List.mem_cons_of_mem _ member)).blank
      (blank c List.mem_cons_self)

theorem Spaced.writes {texts : List String} {line : List Char} (spaced : Spaced texts line) :
    Writes line (texts.map String.toList) := by
  induction spaced with
  | @nil gap blank =>
    have nothing : Writes [] [] := ⟨fun rest _ fuel => by simp, Nat.le_refl 0⟩
    simpa using nothing.spaced blank
  | cons text blank ends _ ih => exact ((writes_quote text).followed ends ih).spaced blank

theorem Spaced.blank {c : Char} {texts : List String} {line : List Char}
    (blank : isBlank c = true) (spaced : Spaced texts line) : Spaced texts (c :: line) := by
  cases spaced with
  | nil all => exact .nil (List.forall_mem_cons.mpr ⟨blank, all⟩)
  | cons text all ends others =>
    exact Spaced.cons text (List.forall_mem_cons.mpr ⟨blank, all⟩) ends others

theorem spaced_intercalate (texts : List String) :
    Spaced texts (" ".intercalate (texts.map quote)).toList := by
  have nothing : ∀ c ∈ ([] : List Char), isBlank c = true := by simp
  induction texts with
  | nil => exact .nil nothing
  | cons text texts ih =>
    cases texts with
    | nil => simpa using Spaced.cons text nothing ends_nil (.nil nothing)
    | cons next texts =>
      have line := Spaced.cons text nothing (ends_blank rfl _) (ih.blank (c := ' ') rfl)
      simpa [String.intercalate_cons_cons] using line

end Modelsmith.Shell.Words
