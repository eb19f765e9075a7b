import Mathlib.Data.List.Forall2
import Modelsmith.Proofs.Shell.Words
import Modelsmith.Proofs.Text
import Modelsmith.Proofs.Text.Utf8
import Modelsmith.Shell.Interpreter

/-! Quoting is exact.

The rules for words are one reader of quoted texts. The other is the shell's own: it takes octets,
knows the whole command language, and leaves the words to expansion. For both a text in quotes is
one word wherever it stands, and a line of them is a command with these texts as its arguments.
-/

set_option autoImplicit false

namespace Modelsmith.Shell

open Text.Utf8

/-! ## Octets of quoted texts -/

theorem quoteChars_quote (text : List Char) :
    quoteChars ('\x27' :: text) = '\x27' :: '\\' :: '\x27' :: '\x27' :: quoteChars text := rfl

theorem quoteChars_other {c : Char} (other : c ≠ '\x27') (text : List Char) :
    quoteChars (c :: text) = c :: quoteChars text := if_neg other

theorem quoteChars_append {front : List Char} (free : '\x27' ∉ front) (text : List Char) :
    quoteChars (front ++ text) = front ++ quoteChars text := by
  induction front with
  | nil => rfl
  | cons c front ih =>
    simp only [List.mem_cons, not_or] at free
    rw [List.cons_append, quoteChars_other (Ne.symm free.1), ih free.2, List.cons_append]

theorem quote_notMem_encodeChar {c : Char} (other : c ≠ '\x27') : '\x27' ∉ encodeChar c := by
  have high {code : Nat} (least : 0x80 ≤ code) (most : code < 256) : Char.ofNat code ≠ '\x27' := by
    intro same
    have codes : code = 39 := toNat_ofNat most ▸ congrArg Char.toNat same
    omega
  have valid : c.toNat < 0xD800 ∨ 0xDFFF < c.toNat ∧ c.toNat < 0x110000 := c.valid
  intro member
  simp only [encodeChar, List.mem_map] at member
  obtain ⟨code, among, same⟩ := member
  split at among
  · obtain rfl := List.mem_singleton.mp among
    exact other (by rw [← same, Char.ofNat_toNat])
  · refine high ?_ ?_ same
    all_goals
      repeat' split at among
      all_goals
        simp at among
        omega

theorem encode_quoteChars (text : List Char) :
    encode (quoteChars text) = quoteChars (encode text) := by
  induction text with
  | nil => rfl
  | cons c text ih =>
    rw [encode.eq_1 (c :: text), List.flatMap_cons, ← encode]
    by_cases quote : c = '\x27'
    · subst quote
      change _ = quoteChars ('\x27' :: encode text)
      rw [quoteChars_quote, quoteChars_quote, ← ih]
      rfl
    · rw [quoteChars_other quote, quoteChars_append (quote_notMem_encodeChar quote), ← ih]
      rfl

theorem octets_quote (text : String) :
    Text.octets (quote text) = '\x27' :: (quoteChars (Text.octets text) ++ ['\x27']) := by
  rw [Text.octets, quote, String.toList_ofList, encode, List.flatMap_cons, List.flatMap_append,
    ← encode, encode_quoteChars]
  rfl

theorem encode_gap {gap : List Char} (blank : ∀ c ∈ gap, Words.isBlank c = true) :
    encode gap = gap := by
  refine encode_of_small fun c member => ?_
  have isBlank := blank c member
  simp only [Words.isBlank, Bool.or_eq_true, decide_eq_true_eq] at isBlank
  rcases isBlank with rfl | rfl <;> decide

theorem encode_spaced {gap : List Char} (blank : ∀ c ∈ gap, Words.isBlank c = true) (text : String)
    (rest : List Char) :
    encode (gap ++ ((quote text).toList ++ rest)) =
      gap ++ '\x27' :: (quoteChars (Text.octets text) ++ '\x27' :: encode rest) := by
  have quoted : encode (quote text).toList = _ := octets_quote text
  rw [encode, List.flatMap_append, List.flatMap_append, ← encode, ← encode, ← encode,
    encode_gap blank, quoted]
  simp

/-! ## Words that are texts -/

/-- A word that stands for a text, with nothing to expand in it. -/
structure Verbatim (word : Word) (text : Octets) : Prop where
  quoted : ∃ first rest, word = .literal true first :: rest
  inert : Expansion.inert? word = some text

namespace Verbatim

variable {word : Word} {text : Octets}

theorem single (text : Octets) : Verbatim [.literal true text] text :=
  ⟨⟨text, [], rfl⟩, by simp [Expansion.inert?]⟩

theorem cons (verbatim : Verbatim word text) (front : Octets) :
    Verbatim (.literal true front :: word) (front ++ text) :=
  ⟨⟨front, word, rfl⟩, by simp [Expansion.inert?, verbatim.inert]⟩

theorem plain?_eq (verbatim : Verbatim word text) : word.plain? = none := by
  obtain ⟨first, rest, rfl⟩ := verbatim.quoted
  rfl

theorem assignment?_eq (verbatim : Verbatim word text) : assignment? word = none := by
  obtain ⟨first, rest, rfl⟩ := verbatim.quoted
  rfl

theorem wordFields_eq (verbatim : Verbatim word text) (substitute : Expansion.Substitute) :
    Expansion.wordFields substitute word = pure [text] := by
  rw [Expansion.wordFields, verbatim.inert]

theorem firstFields_eq (verbatim : Verbatim word text) (substitute : Expansion.Substitute)
    (others : List Word) :
    Interpreter.firstFields substitute (word :: others) = pure ([text], others) := by
  rw [Interpreter.firstFields, verbatim.wordFields_eq, pure_bind]

theorem otherFields_eq {words : List Word} {texts : List Octets}
    (verbatim : List.Forall₂ Verbatim words texts) (substitute : Expansion.Substitute)
    (declaration : Bool) :
    Interpreter.otherFields substitute declaration words = pure texts := by
  induction verbatim with
  | nil => rfl
  | cons first _ ih =>
    rw [Interpreter.otherFields, first.assignment?_eq, ite_self, first.wordFields_eq, ih]
    rfl

end Verbatim

namespace Reading

def Ends (rest : Octets) : Prop := ∀ c, rest.head? = some c → endsWord c = true

theorem ends_encode {rest : List Char} (ends : Words.Ends rest) : Ends (encode rest) := by
  cases rest with
  | nil =>
    intro c head
    cases head
  | cons c rest =>
    have isBlank := ends c rfl
    simp only [Words.isBlank, Bool.or_eq_true, decide_eq_true_eq] at isBlank
    intro d head
    rcases isBlank with rfl | rfl
    all_goals
      obtain rfl := Option.some.inj head
      rfl

theorem Ends.whole {rest : Octets} (ends : Ends rest) (tail : Octets) :
    rest ≠ '\\' :: '\n' :: tail := by
  rintro rfl
  exact absurd (ends _ rfl) (by decide)

/-! ## Pieces of a word -/

theorem run_bind {α β : Type} {first : Reading α} {next : α → Reading β} {value : α}
    {source after : Source} (reads : first.run source = .ok (value, after)) :
    (first >>= next).run source = (next value).run after := by
  rw [StateT.run_bind, reads]
  rfl

variable {delimiter : Bool} {look : Look} {source between after : Source} {word : Word}
  {text rest gap : Octets} {fuel : Nat}

theorem run_peek (here : source.rest = rest) (whole : ∀ tail, rest ≠ '\\' :: '\n' :: tail) :
    peek.run source = .ok (rest.head?, source) := by
  subst here
  rw [peek, run_bind (StateT.run_get _)]
  split
  · rename_i same
    exact absurd same (whole _)
  · rfl

theorem run_skip {c : Char} (here : source.rest = c :: rest) (sameLine : c ≠ '\n') :
    skip.run source = .ok ((), { source with rest }) := by
  rw [skip, StateT.run_modify, here]
  split
  · rename_i same
    exact absurd (List.cons.inj same).1 sameLine
  · rename_i same
    obtain ⟨-, rfl⟩ := List.cons.inj same
    rfl
  · rename_i same
    cases same

theorem run_singleQuoted (free : '\x27' ∉ text) (here : source.rest = text ++ '\x27' :: rest) :
    singleQuoted.run source =
      .ok (text, { source with rest, line := source.line + text.count '\n' }) := by
  have kept : (text ++ '\x27' :: rest).takeWhile (fun c => !decide (c = '\x27')) = text := by
    refine Text.takeWhile_append ?_ (by simp)
    intro c member
    simpa using ne_of_mem_of_not_mem member free
  have taken : (chunk (· = '\x27')).run source = .ok (text, { source with
      rest := '\x27' :: rest, line := source.line + text.count '\n' }) := by
    rw [chunk, run_bind (StateT.run_get _)]
    dsimp only
    rw [here, kept, List.drop_left]
    rfl
  rw [singleQuoted, run_bind taken]
  rfl

theorem run_active_quoted (free : '\x27' ∉ text)
    (here : source.rest = '\x27' :: (text ++ '\x27' :: rest)) :
    (active (fuel + 1)).run source =
      .ok ([.literal true text], { source with rest, line := source.line + text.count '\n' }) := by
  rw [active, run_bind (run_peek here (by simp))]
  refine (run_bind (run_skip here (by decide))).trans ?_
  exact run_bind (run_singleQuoted free rfl)

theorem run_active_escaped (here : source.rest = '\\' :: '\x27' :: rest) :
    (active (fuel + 1)).run source = .ok ([.literal true ['\x27']], { source with rest }) := by
  rw [active, run_bind (run_peek here (by simp))]
  exact run_bind (run_skip here (by decide))

theorem run_wordText_ends (ends : Ends source.rest) :
    (wordText delimiter (fuel + 1)).run source = .ok ([], source) := by
  rw [wordText, run_bind (run_peek rfl ends.whole)]
  cases next : source.rest.head? with
  | none => rfl
  | some c =>
    simp only [ends c next]
    rfl

theorem run_wordText_active {piece : Piece} {c : Char} (begins : c = '\x27' ∨ c = '\\')
    (here : source.rest = c :: rest) (whole : ∀ tail, c :: rest ≠ '\\' :: '\n' :: tail)
    (first : (active fuel).run source = .ok ([piece], between))
    (others : (wordText delimiter fuel).run between = .ok (word, after)) :
    (wordText delimiter (fuel + 1)).run source = .ok (piece :: word, after) := by
  rw [wordText, run_bind (run_peek here whole)]
  rcases begins with rfl | rfl
  all_goals
    cases delimiter
    all_goals
      refine (run_bind first).trans ?_
      exact run_bind others

/-- The reader stands before an open quote, and the front has no other. It is what the quotes hold
so far; each quote of the text closes them and opens new ones, with nothing in front. -/
theorem run_wordText_quoteChars (ends : Ends rest) (text : Octets) {front : Octets}
    {source : Source} {fuel : Nat} (free : '\x27' ∉ front)
    (here : source.rest = '\x27' :: (front ++ (quoteChars text ++ '\x27' :: rest)))
    (enough : front.length + (quoteChars text).length + 2 ≤ fuel) :
    ∃ word, (wordText delimiter fuel).run source =
        .ok (word, { source with rest, line := source.line + (front ++ text).count '\n' }) ∧
      Verbatim word (front ++ text) := by
  induction text generalizing front source fuel with
  | nil =>
    obtain ⟨fuel, rfl⟩ : ∃ less, fuel = less + 2 := ⟨fuel - 2, by omega⟩
    rw [List.append_nil]
    refine ⟨[.literal true front], ?_, .single front⟩
    exact run_wordText_active (.inl rfl) here (by simp) (run_active_quoted free here)
      (run_wordText_ends ends)
  | cons c text ih =>
    by_cases quote : c = '\x27'
    · subst quote
      -- Three pieces: what the quotes held, the escaped quote, and new quotes with nothing in front.
      simp only [quoteChars_quote, List.length_cons] at here enough
      obtain ⟨fuel, rfl⟩ : ∃ less, fuel = less + 4 := ⟨fuel - 4, by omega⟩
      obtain ⟨word, reads, verbatim⟩ := @ih []
        { source with
          rest := '\x27' :: (quoteChars text ++ '\x27' :: rest)
          line := source.line + front.count '\n' }
        (fuel + 2) (by simp) rfl (by simp; omega)
      refine ⟨.literal true front :: .literal true ['\x27'] :: word, ?_, (verbatim.cons _).cons _⟩
      refine run_wordText_active (.inl rfl) here (by simp) (run_active_quoted free here) ?_
      refine run_wordText_active (.inr rfl) rfl (by simp) (run_active_escaped rfl) ?_
      simpa [Nat.add_assoc] using reads
    · simp only [quoteChars_other quote, List.length_cons] at here enough
      have grown := @ih (front ++ [c]) source fuel (by simp [free, Ne.symm quote]) (by simp [here])
        (by simp; omega)
      simpa using grown

/-! ## Tokens -/

theorem run_rawToken_gap (quiet : source.again = false)
    (blank : ∀ c ∈ gap, Words.isBlank c = true) (here : source.rest = gap ++ rest) :
    (rawToken delimiter (fuel + gap.length)).run source =
      (rawToken delimiter fuel).run { source with rest } := by
  induction gap generalizing source with
  | nil =>
    obtain rfl : source.rest = rest := here
    rfl
  | cons c gap ih =>
    have isBlank := blank c List.mem_cons_self
    simp only [Words.isBlank, Bool.or_eq_true, decide_eq_true_eq] at isBlank
    have kept := @ih { source with rest := gap ++ rest } quiet
      (fun d member => blank d (List.mem_cons_of_mem _ member)) rfl
    rw [List.length_cons, ← Nat.add_assoc, rawToken, run_bind (StateT.run_get _),
      if_neg (by simp [quiet])]
    rcases isBlank with rfl | rfl
    all_goals
      refine (run_bind (run_peek here (by simp))).trans ?_
      exact (run_bind (run_skip here (by decide))).trans kept

theorem run_rawToken_word (reads : (wordText delimiter fuel).run source = .ok (word, after))
    (quiet : source.again = false) (here : source.rest = '\x27' :: rest) (ends : Ends after.rest)
    (verbatim : Verbatim word text) :
    (rawToken delimiter (fuel + 1)).run source =
      .ok (.word word, { after with latest := .word word, again := false }) := by
  rw [rawToken, run_bind (StateT.run_get _), if_neg (by simp [quiet])]
  refine (run_bind (run_peek here (by simp))).trans ?_
  refine (run_bind reads).trans ?_
  refine (run_bind (run_peek rfl ends.whole)).trans ?_
  rw [verbatim.plain?_eq]
  rfl

/-- A token for which nothing is looked up. -/
def Settled (token : Token) : Prop :=
  token = .finish ∨ ∃ word text, token = .word word ∧ Verbatim word text

theorem run_token {found : Token} (settled : Settled found)
    (reads : (rawToken false fuel).run source = .ok (found, after)) :
    (token look (fuel + 1)).run source = .ok (found, after) := by
  rw [token, run_bind reads]
  rcases settled with rfl | ⟨word, text, rfl, verbatim⟩
  · rfl
  · simp only [verbatim.plain?_eq]
    rfl

theorem run_token_gap (quiet : source.again = false)
    (blank : ∀ c ∈ gap, Words.isBlank c = true) (here : source.rest = gap)
    (enough : gap.length + 2 ≤ fuel) :
    (token look fuel).run source =
      .ok (.finish, { source with rest := [], latest := .finish, again := false }) := by
  obtain ⟨fuel, rfl⟩ : ∃ less, fuel = less + 1 + gap.length + 1 := ⟨fuel - gap.length - 2, by omega⟩
  refine run_token (.inl rfl) ?_
  rw [run_rawToken_gap quiet blank (here.trans (List.append_nil gap).symm), rawToken,
    run_bind (StateT.run_get _), if_neg (by simp [quiet])]
  rfl

theorem run_token_quote (quiet : source.again = false)
    (blank : ∀ c ∈ gap, Words.isBlank c = true) (ends : Ends rest)
    (here : source.rest = gap ++ '\x27' :: (quoteChars text ++ '\x27' :: rest))
    (enough : gap.length + (quoteChars text).length + 4 ≤ fuel) :
    ∃ word, (token look fuel).run source = .ok (.word word, { source with
        rest, line := source.line + text.count '\n', latest := .word word, again := false }) ∧
      Verbatim word text := by
  obtain ⟨fuel, rfl⟩ : ∃ less, fuel = less + 1 + gap.length + 1 := ⟨fuel - gap.length - 2, by omega⟩
  obtain ⟨word, reads, verbatim⟩ := @run_wordText_quoteChars false rest ends text []
    { source with rest := '\x27' :: (quoteChars text ++ '\x27' :: rest) } fuel (by simp) rfl
    (by simp; omega)
  refine ⟨word, run_token (.inr ⟨word, text, rfl, verbatim⟩) ?_, verbatim⟩
  rw [run_rawToken_gap quiet blank here]
  exact run_rawToken_word reads quiet rfl ends verbatim

/-- The token has been read and is to be read again. -/
structure Held (source : Source) (token : Token) : Prop where
  again : source.again = true
  latest : source.latest = token
  settled : Settled token

namespace Held

variable {held : Token}

theorem run_token (holds : Held source held) :
    (token look (fuel + 2)).run source = .ok (held, { source with again := false }) := by
  refine Reading.run_token holds.settled ?_
  rw [rawToken, run_bind (StateT.run_get _), if_pos holds.again, ← holds.latest]
  rfl

theorem run_pushBack (holds : Held source held) :
    pushBack.run { source with again := false } = .ok ((), source) := by
  rw [pushBack, StateT.run_modify, ← holds.again]
  rfl

end Held

/-! ## Lines -/

theorem run_simpleParts_word {number : Nat} {words : List Word} {command : Command}
    (verbatim : Verbatim word text)
    (reads : (token (if words.isEmpty then .named else .nothing) fuel).run source =
      .ok (.word word, between))
    (others : (simpleParts number [] (words ++ [word]) [] fuel).run between =
      .ok (command, after)) :
    (simpleParts number [] words [] (fuel + 1)).run source = .ok (command, after) := by
  unfold simpleParts
  rw [run_bind reads]
  simp only [verbatim.assignment?_eq, Option.isSome_none, Bool.and_false]
  exact others

theorem run_simpleParts_spaced {texts : List String} {line : List Char}
    (spaced : Words.Spaced texts line) (number : Nat) {words : List Word}
    (quiet : source.again = false) (here : source.rest = encode line)
    (enough : source.rest.length + 4 ≤ fuel) :
    ∃ more after, (simpleParts number [] words [] fuel).run source =
        .ok (.simple number [] (words ++ more) [], after) ∧
      List.Forall₂ Verbatim more (texts.map Text.octets) ∧
      Held after .finish ∧ after.rest = [] ∧ after.waiting = source.waiting := by
  obtain ⟨fuel, rfl⟩ : ∃ less, fuel = less + 1 := ⟨fuel - 1, by omega⟩
  induction spaced generalizing source fuel words with
  | @nil gap blank =>
    rw [encode_gap blank] at here
    refine ⟨[], { source with rest := [], latest := .finish, again := true }, ?_, .nil,
      ⟨rfl, rfl, .inl rfl⟩, rfl, rfl⟩
    rw [List.append_nil]
    unfold simpleParts
    exact run_bind (run_token_gap quiet blank here (by rw [here] at enough; omega))
  | @cons text texts gap rest blank ends _ ih =>
    rw [encode_spaced blank] at here
    simp only [here, List.length_append, List.length_cons] at enough
    obtain ⟨fuel, rfl⟩ : ∃ less, fuel = less + 1 := ⟨fuel - 1, by omega⟩
    obtain ⟨word, reads, verbatim⟩ := run_token_quote quiet blank (ends_encode ends) here
      (show _ ≤ fuel + 1 by omega)
    obtain ⟨more, after, others, all, ended, nothing, stays⟩ := @ih
      { source with
        rest := encode rest
        line := source.line + (Text.octets text).count '\n'
        latest := .word word
        again := false }
      (words ++ [word]) rfl rfl fuel (by simp only; omega)
    refine ⟨word :: more, after, ?_, .cons verbatim all, ended, nothing, stays⟩
    rw [run_simpleParts_word verbatim reads others, List.append_assoc]
    rfl

theorem run_list {number : Nat} {words : List Word} (begun : Held source (.word word))
    (ended : Held after .finish) (idle : after.waiting = [])
    (reads : (simpleParts source.line [] [] [] (fuel + 2)).run source =
      .ok (.simple number [] words [], after)) :
    (list .command false (fuel + 7)).run source = .ok (.simple number [] words [], after) := by
  -- Each level finds the first word held and, behind the command, the end held: it reads no more.
  have first : (command .nothing (fuel + 4)).run source =
      .ok (.simple number [] words [], after) := by
    rw [command, run_bind (StateT.run_get _)]
    refine (run_bind begun.run_token).trans ?_
    refine (run_bind begun.run_pushBack).trans ?_
    rw [simple]
    exact (run_bind (StateT.run_get _)).trans reads
  have others : (stages (fuel + 4)).run after = .ok ([], after) := by
    rw [stages, run_bind ended.run_token]
    exact run_bind ended.run_pushBack
  have piped : (pipeline .nothing (fuel + 5)).run source =
      .ok (.simple number [] words [], after) := by
    rw [pipeline, run_bind begun.run_token]
    refine (run_bind begun.run_pushBack).trans ?_
    refine (run_bind first).trans ?_
    exact run_bind others
  have whole : (andOr (fuel + 6)).run source = .ok (.simple number [] words [], after) := by
    rw [andOr, run_bind piped, andOrAfter, run_bind ended.run_token]
    exact run_bind ended.run_pushBack
  have nothing : (list .command true (fuel + 6)).run after = .ok (.nothing, after) := by
    rw [list, run_bind ended.run_token]
    have none : (documents (fuel + 5)).run { after with again := false } =
        .ok ((), { after with again := false }) := by
      rw [documents, run_bind (StateT.run_get _)]
      dsimp only
      rw [idle]
      rfl
    refine (run_bind none).trans ?_
    refine (run_bind (show (take .finish).run _ = _ from rfl)).trans ?_
    rw [← ended.latest]
    exact run_bind ended.run_pushBack
  rw [list, run_bind begun.run_token]
  refine (run_bind begun.run_pushBack).trans ?_
  refine (run_bind whole).trans ?_
  refine (run_bind ended.run_token).trans ?_
  refine (run_bind ended.run_pushBack).trans ?_
  exact run_bind nothing

theorem run_list_spaced {texts : List String} {line : List Char}
    (spaced : Words.Spaced texts line) (verbatim : Verbatim word text)
    (begun : Held source (.word word)) (idle : source.waiting = [])
    (here : source.rest = encode line) (enough : source.rest.length + 10 ≤ fuel) :
    ∃ words after, (list .command false fuel).run source =
        .ok (.simple source.line [] (word :: words) [], after) ∧
      List.Forall₂ Verbatim words (texts.map Text.octets) ∧ after.rest = [] := by
  obtain ⟨fuel, rfl⟩ : ∃ less, fuel = less + 8 := ⟨fuel - 8, by omega⟩
  obtain ⟨words, after, others, all, ended, nothing, stays⟩ :=
    @run_simpleParts_spaced { source with again := false } (fuel + 2) texts line spaced source.line
      [word] rfl here (by simp only; omega)
  have reads : (simpleParts source.line [] [] [] (fuel + 3)).run source =
      .ok (.simple source.line [] (word :: words) [], after) :=
    run_simpleParts_word verbatim begun.run_token others
  exact ⟨words, after, run_list begun ended (stays.trans idle) reads, all, nothing⟩

theorem run_line?_spaced {text : String} {texts : List String} {line : List Char}
    (spaced : Words.Spaced (text :: texts) line) (quiet : source.again = false)
    (idle : source.waiting = []) (here : source.rest = encode line) :
    ∃ number word words after,
      line?.run source = .ok (some (.simple number [] (word :: words) []), after) ∧
      after.rest = [] ∧ Verbatim word (Text.octets text) ∧
      List.Forall₂ Verbatim words (texts.map Text.octets) := by
  cases spaced with
  | @cons _ _ gap rest blank ends others =>
    rw [encode_spaced blank] at here
    have length := congrArg List.length here
    simp only [List.length_append, List.length_cons] at length
    -- The fuel gets a name, so that nothing below computes with its size.
    obtain ⟨fuel, isFuel, enough⟩ : ∃ fuel, fuel = 64 * (source.rest.length +
        (source.aliases.map fun named => named.2.length).sum + 16) ∧
          source.rest.length + 10 ≤ fuel := ⟨_, rfl, by omega⟩
    obtain ⟨word, first, verbatim⟩ := run_token_quote quiet blank (ends_encode ends) here
      (show _ ≤ fuel by omega)
    have begun : Held { source with
        rest := encode rest
        line := source.line + (Text.octets text).count '\n'
        latest := .word word
        again := true } (.word word) := ⟨rfl, rfl, .inr ⟨word, _, rfl, verbatim⟩⟩
    obtain ⟨words, after, reads, all, nothing⟩ := run_list_spaced others verbatim begun idle rfl
      (show _ ≤ fuel by simp only; omega)
    refine ⟨source.line + (Text.octets text).count '\n', word, words, after, ?_, nothing, verbatim,
      all⟩
    subst isFuel
    rw [line?]
    refine (run_bind (StateT.run_get _)).trans ?_
    refine (run_bind first).trans ?_
    refine (run_bind (show pushBack.run _ = _ from rfl)).trans ?_
    exact run_bind reads

end Reading

/-! ## Quoting -/

/-- A text in quotes is one word, and all that follows is left: by the rules for words, and for the
shell, which neither divides nor expands it. So different texts have different quoted forms, and a
line of quoted texts with blanks between them is divided into these texts again: the shell reads one
command from it, and they are its arguments. -/
theorem quoting_is_exact :
    (∀ (text : String) (rest : List Char), Words.Ends rest →
      Words.word? false ((quote text).toList ++ rest) = some (text.toList, rest)) ∧
    (∀ (text : String) (rest : Octets) (delimiter : Bool) (source : Source) (fuel : Nat),
      Reading.Ends rest → source.rest = Text.octets (quote text) ++ rest →
      (Text.octets (quote text)).length ≤ fuel →
      ∃ word,
        (Reading.wordText delimiter fuel).run source = .ok (word, { source with
          rest, line := source.line + (Text.octets text).count '\n' }) ∧
        ∀ substitute, Expansion.wordFields substitute word = pure [Text.octets text]) ∧
    Function.Injective quote ∧
    (∀ texts : List String, Words.Spaced texts (" ".intercalate (texts.map quote)).toList) ∧
    (∀ (texts : List String) (line : List Char), Words.Spaced texts line →
      Words.split? (String.ofList line) = some texts) ∧
    (∀ (text : String) (texts : List String) (line : List Char) (source : Source),
      Words.Spaced (text :: texts) line → source.again = false → source.waiting = [] →
      source.rest = encode line →
      ∃ number word words after,
        Reading.line?.run source = .ok (some (.simple number [] (word :: words) []), after) ∧
        after.rest = [] ∧
        ∀ substitute,
          Interpreter.firstFields substitute (word :: words) = pure ([Text.octets text], words) ∧
          ∀ declaration, Interpreter.otherFields substitute declaration words =
            pure (texts.map Text.octets)) := by
  refine ⟨fun text rest ends => Words.word?_quote text ends, ?_, ?_, Words.spaced_intercalate, ?_,
    ?_⟩
  · intro text rest delimiter source fuel ends here enough
    rw [octets_quote] at here enough
    simp only [List.length_cons, List.length_append, List.length_nil] at enough
    obtain ⟨word, reads, verbatim⟩ := @Reading.run_wordText_quoteChars delimiter rest ends
      (Text.octets text) [] source fuel List.not_mem_nil (by simp [here])
      (by rw [List.length_nil]; omega)
    exact ⟨word, reads, verbatim.wordFields_eq⟩
  · intro text other same
    have first := Words.word?_quote text Words.ends_nil
    rw [same, Words.word?_quote other Words.ends_nil] at first
    simpa [String.toList_inj, eq_comm] using first
  · intro texts line spaced
    simpa using spaced.writes.split
  · intro text texts line source spaced quiet idle here
    obtain ⟨number, word, words, after, reads, nothing, verbatim, all⟩ :=
      Reading.run_line?_spaced spaced quiet idle here
    refine ⟨number, word, words, after, reads, nothing, fun substitute => ⟨?_, ?_⟩⟩
    · exact verbatim.firstFields_eq substitute words
    · exact Verbatim.otherFields_eq all substitute

/-- Quotes at both ends and in a row, a backslash, blanks, a line end and a variable. -/
def oddText : String := "''it's\\'\n $HOME '"

def oddLine : List Char := (" ".intercalate ([oddText, "", "'"].map quote)).toList

theorem quoting_is_exact_odd :
    Words.word? false ((quote oddText).toList ++ [' ', '\x27']) =
      some (oddText.toList, [' ', '\x27']) ∧
    (∃ word after, after.rest = [';', '&'] ∧
      (Reading.wordText true (Text.octets (quote oddText)).length).run
        { rest := Text.octets (quote oddText) ++ [';', '&'] } = .ok (word, after)) ∧
    Words.split? (String.ofList oddLine) = some [oddText, "", "'"] ∧
    ∃ command after, Reading.line?.run { rest := encode oddLine } = .ok (some command, after) := by
  obtain ⟨one, own, -, spaced, split, line⟩ := quoting_is_exact
  have gaps : Words.Spaced [oddText, "", "'"] oddLine := spaced _
  obtain ⟨word, reads, -⟩ := own oddText [';', '&'] true { rest := _ } _
    (fun c head => by obtain rfl := Option.some.inj head; rfl) rfl le_rfl
  obtain ⟨number, first, words, after, command, -⟩ :=
    line oddText ["", "'"] oddLine { rest := encode oddLine } gaps rfl rfl rfl
  exact ⟨one _ _ (Words.ends_blank rfl _), ⟨word, _, rfl, reads⟩, split _ _ gaps, _, after, command⟩

end Modelsmith.Shell
