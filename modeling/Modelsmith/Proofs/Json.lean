import Modelsmith.Proofs.Failing
import Modelsmith.Proofs.Numeral
import Modelsmith.Json.Reader
import Modelsmith.Json.Writer

/-! JSON texts read back.

A value whose numerals follow the grammar is read from its own text as itself, whatever its strings
hold: what has to be escaped is unescaped, and nothing that follows a value is taken for a part of
it.
-/

set_option autoImplicit false

namespace Modelsmith.Json

/-! ## Strings -/

theorem hexText_read : ∀ code < 32, (hexText code).length = 4 ∧
    hexValue? (hexText code) = some code := by
  decide

theorem readUnits_hex {code : Nat} (small : code < 32) {rest after : List Char}
    {units : List Unit16} (read : readUnits rest = some (units, after)) :
    readUnits ('\\' :: 'u' :: (hexText code ++ rest)) =
      some (.char (Char.ofNat code) :: units, after) := by
  obtain ⟨length, value⟩ := hexText_read code small
  have plain : unit16 code = .char (Char.ofNat code) := by
    rw [unit16, if_neg (by omega)]
  match digits : hexText code, length with
  | [a, b, c, d], _ =>
    rw [digits] at value
    simp [readUnits, value, read, plain]

theorem readUnits_letter {letter c : Char} (stands : escaped? letter = some c) (short : letter ≠ 'u')
    {rest after : List Char} {units : List Unit16} (read : readUnits rest = some (units, after)) :
    readUnits ('\\' :: letter :: rest) = some (.char c :: units, after) := by
  rw [readUnits]
  · simp [stands, read]
  · rintro _ _ _ _ _ ⟨⟩
    exact absurd rfl short

theorem readUnits_escape (c : Char) {rest after : List Char} {units : List Unit16}
    (read : readUnits rest = some (units, after)) :
    readUnits (escape c ++ rest) = some (.char c :: units, after) := by
  have ofCode : ∀ {code : Nat}, c.toNat = code → c = Char.ofNat code := by
    rintro _ rfl
    exact (Char.ofNat_toNat c).symm
  by_cases quote : c = '"'
  · subst quote
    exact readUnits_letter rfl (by decide) read
  by_cases backslash : c = '\\'
  · subst backslash
    exact readUnits_letter rfl (by decide) read
  by_cases newline : c = '\n'
  · subst newline
    exact readUnits_letter rfl (by decide) read
  by_cases carriage : c = '\r'
  · subst carriage
    exact readUnits_letter rfl (by decide) read
  by_cases tab : c = '\t'
  · subst tab
    exact readUnits_letter rfl (by decide) read
  by_cases backspace : c.toNat = 8
  · rw [ofCode backspace]
    exact readUnits_letter rfl (by decide) read
  by_cases feed : c.toNat = 12
  · rw [ofCode feed]
    exact readUnits_letter rfl (by decide) read
  rw [escape, if_neg quote, if_neg backslash, if_neg newline, if_neg carriage, if_neg tab,
    if_neg backspace, if_neg feed]
  by_cases small : c.toNat < 0x20
  · rw [if_pos small]
    have hex := readUnits_hex small read
    rwa [Char.ofNat_toNat] at hex
  · rw [if_neg small, List.singleton_append, readUnits]
    · simp [small, backslash, read]
    all_goals simp [quote, backslash]

theorem readUnits_quoted (text rest : List Char) :
    readUnits (text.flatMap escape ++ '"' :: rest) = some (text.map .char, rest) := by
  induction text with
  | nil => rfl
  | cons c text ih =>
    rw [List.flatMap_cons, List.append_assoc, List.map_cons]
    exact readUnits_escape c ih

theorem joinUnits?_chars (text : List Char) : joinUnits? (text.map .char) = some text := by
  induction text with
  | nil => rfl
  | cons c text ih => simp [joinUnits?, ih]

theorem readString_quoted (text : String) (rest : List Char) :
    readString (text.toList.flatMap escape ++ '"' :: rest) = some (some text, rest) := by
  simp [readString, readUnits_quoted, joinUnits?_chars]

/-! ## Values -/

mutual
/-- Numerals follow the grammar, and every string is a text. -/
def WellFormed : Json → Prop
  | .null => True
  | .bool _ => True
  | .number numeral => numeral.WellFormed
  | .string _ => True
  | .garbled => False
  | .array items => ItemsWellFormed items
  | .object members => MembersWellFormed members

def ItemsWellFormed : List Json → Prop
  | [] => True
  | item :: rest => item.WellFormed ∧ ItemsWellFormed rest

def MembersWellFormed : List (String × Json) → Prop
  | [] => True
  | (_, value) :: rest => value.WellFormed ∧ MembersWellFormed rest
end

theorem numeral_head {numeral : Numeral} (wellFormed : numeral.WellFormed) :
    ∃ first rest, numeral.text = first :: rest ∧ (first = '-' ∨ first.isDigit = true) := by
  obtain ⟨filled, digits⟩ := wellFormed.whole.1
  rw [Numeral.text_eq]
  cases numeral.negative with
  | true => exact ⟨'-', _, rfl, .inl rfl⟩
  | false =>
    cases whole : numeral.whole with
    | nil => exact absurd whole filled
    | cons first rest =>
      exact ⟨first, _, rfl, .inr (digits first (by simp [whole]))⟩

theorem text_head {value : Json} (wellFormed : value.WellFormed) :
    ∃ first rest, value.text = first :: rest ∧ isSpace first = false ∧ first ≠ ']' ∧ first ≠ '}' := by
  cases value with
  | null => exact ⟨'n', _, rfl, by decide⟩
  | bool value => cases value <;> exact ⟨_, _, rfl, by decide⟩
  | number numeral =>
    obtain ⟨first, rest, same, sign | digit⟩ := numeral_head wellFormed
    · exact ⟨first, rest, by rw [text, same], by rw [sign]; decide⟩
    · refine ⟨first, rest, by rw [text, same], ?_, ?_, ?_⟩
      · cases space : isSpace first with
        | false => rfl
        | true =>
          simp only [isSpace, Bool.or_eq_true, decide_eq_true_eq] at space
          rcases space with ((rfl | rfl) | rfl) | rfl <;> exact absurd digit (by decide)
      all_goals
        rintro rfl
        exact absurd digit (by decide)
  | string content => exact ⟨'"', _, by rw [text, quoted], by decide⟩
  | garbled => exact absurd wellFormed (by simp [WellFormed])
  | array items => exact ⟨'[', _, by rw [text], by decide⟩
  | object members => exact ⟨'{', _, by rw [text], by decide⟩

theorem skipSpace_text {value : Json} (wellFormed : value.WellFormed) (rest : List Char) :
    skipSpace (value.text ++ rest) = value.text ++ rest := by
  obtain ⟨first, more, same, solid, -⟩ := text_head wellFormed
  simp [skipSpace, same, solid]

theorem skipSpace_cons {c : Char} (solid : isSpace c = false) (rest : List Char) :
    skipSpace (c :: rest) = c :: rest := by
  simp [skipSpace, solid]

theorem ends_cons (c : Char) (stops : c.isDigit = false ∧ c ≠ '.' ∧ c ≠ 'e' ∧ c ≠ 'E')
    (rest : List Char) : Numeral.Ends (c :: rest) := by
  rintro d ⟨⟩
  exact stops

theorem readValue_number {numeral : Numeral} (wellFormed : numeral.WellFormed) {rest : List Char}
    (ends : Numeral.Ends rest) (fuel : Nat) :
    readValue (fuel + 1) (numeral.text ++ rest) = some (.number numeral, rest) := by
  have space := @skipSpace_text (.number numeral) wellFormed rest
  obtain ⟨first, more, same, start⟩ := numeral_head wellFormed
  have apart : ∀ c ∈ ['n', 't', 'f', '"', '[', '{'], first ≠ c := by
    rintro c member rfl
    rcases start with rfl | digit
    · exact absurd member (by decide)
    · simp only [List.mem_cons, List.not_mem_nil, or_false] at member
      rcases member with rfl | rfl | rfl | rfl | rfl | rfl <;> exact absurd digit (by decide)
  simp only [List.mem_cons, List.not_mem_nil, or_false, forall_eq_or_imp, forall_eq] at apart
  have read := Numeral.read?_text_append wellFormed ends
  rw [text] at space
  rw [readValue, space]
  rw [same, List.cons_append] at read ⊢
  simp [apart, read]

theorem itemsText_head {item : Json} {items : List Json} (wellFormed : item.WellFormed) :
    ∃ first rest, itemsText (item :: items) = first :: rest ∧ isSpace first = false ∧ first ≠ ']' := by
  obtain ⟨first, rest, same, solid, open_, -⟩ := text_head wellFormed
  cases items with
  | nil => exact ⟨first, rest, by rw [itemsText, same], solid, open_⟩
  | cons next items => exact ⟨first, _, by rw [itemsText, same, List.cons_append], solid, open_⟩

theorem readValue_array {fuel : Nat} {inner rest : List Char} {items : List Json}
    (head : ∃ first more, inner = first :: more ∧ isSpace first = false ∧ first ≠ ']')
    (read : readItems fuel inner = some (items, rest)) :
    readValue (fuel + 1) ('[' :: inner) = some (.array items, rest) := by
  obtain ⟨first, more, rfl, solid, open_⟩ := head
  simp [readValue, skipSpace_cons solid, skipSpace_cons (show isSpace '[' = false by decide), open_,
    read]

theorem readValue_object {fuel : Nat} {inner rest : List Char} {members : List (Option String × Json)}
    (head : ∃ more, inner = '"' :: more)
    (read : readMembers fuel inner = some (members, rest)) :
    readValue (fuel + 1) ('{' :: inner) = some (ofMembers members, rest) := by
  obtain ⟨more, rfl⟩ := head
  simp [readValue, skipSpace_cons (show isSpace '"' = false by decide),
    skipSpace_cons (show isSpace '{' = false by decide), read]

theorem ofMembers_texts (members : List (String × Json)) :
    ofMembers (members.map fun member => (some member.1, member.2)) = .object members := by
  rw [ofMembers, List.mapM_map, mapM_eq_pure (g := id) fun member _ => by rfl, List.map_id]
  rfl

theorem quoted_append (key : String) (after : List Char) :
    quoted key ++ ':' :: after = '"' :: (key.toList.flatMap escape ++ '"' :: ':' :: after) := by
  simp [quoted]

theorem readMembers_last {fuel : Nat} {value : Json} {rest : List Char} (key : String)
    (read : readValue fuel (value.text ++ '}' :: rest) = some (value, '}' :: rest)) :
    readMembers (fuel + 1) (quoted key ++ ':' :: (value.text ++ '}' :: rest)) =
      some ([(some key, value)], rest) := by
  rw [quoted_append, readMembers, skipSpace_cons (show isSpace '"' = false by decide)]
  simp only [readString_quoted, skipSpace_cons (show isSpace ':' = false by decide), read,
    skipSpace_cons (show isSpace '}' = false by decide)]

theorem readMembers_more {fuel : Nat} {value : Json} {rest after : List Char} (key : String)
    {members : List (Option String × Json)}
    (read : readValue fuel (value.text ++ ',' :: rest) = some (value, ',' :: rest))
    (others : readMembers fuel rest = some (members, after)) :
    readMembers (fuel + 1) (quoted key ++ ':' :: (value.text ++ ',' :: rest)) =
      some ((some key, value) :: members, after) := by
  rw [quoted_append, readMembers, skipSpace_cons (show isSpace '"' = false by decide)]
  simp only [readString_quoted, skipSpace_cons (show isSpace ':' = false by decide), read,
    skipSpace_cons (show isSpace ',' = false by decide), others, Option.map_some]

mutual

theorem readValue_text (value : Json) (wellFormed : value.WellFormed) {fuel : Nat}
    {rest : List Char} (enough : value.text.length < fuel) (ends : Numeral.Ends rest) :
    readValue fuel (value.text ++ rest) = some (value, rest) := by
  match fuel with
  | 0 => omega
  | fuel + 1 =>
    match value with
    | .null => simp [text, readValue, skipSpace, isSpace, readWord?]
    | .bool true => simp [text, readValue, skipSpace, isSpace, readWord?]
    | .bool false => simp [text, readValue, skipSpace, isSpace, readWord?]
    | .number numeral =>
      rw [text]
      exact readValue_number wellFormed ends fuel
    | .string content =>
      simp [text, readValue, skipSpace, isSpace, quoted, readString_quoted]
    | .garbled => exact absurd wellFormed (by simp [WellFormed])
    | .array [] => simp [text, itemsText, readValue, skipSpace, isSpace]
    | .array (item :: items) =>
      simp only [text, List.length_cons, List.length_append, List.length_nil] at enough
      have read := readItems_text item items wellFormed rest (show _ < fuel by omega)
      rw [text, List.cons_append, List.append_assoc]
      refine readValue_array ?_ read
      obtain ⟨first, more, same, solid, open_⟩ := @itemsText_head item items wellFormed.1
      exact ⟨first, _, by rw [same, List.cons_append], solid, open_⟩
    | .object [] => simp [text, membersText, readValue, skipSpace, isSpace]
    | .object ((key, value) :: members) =>
      simp only [text, List.length_cons, List.length_append, List.length_nil] at enough
      have read := readMembers_text key value members wellFormed rest (show _ < fuel by omega)
      rw [text, List.cons_append, List.append_assoc, List.singleton_append,
        readValue_object ?_ read, ofMembers_texts]
      cases members <;> exact ⟨_, by rw [membersText, quoted]; rfl⟩

theorem readItems_text (item : Json) (items : List Json)
    (wellFormed : ItemsWellFormed (item :: items)) {fuel : Nat} (rest : List Char)
    (enough : (itemsText (item :: items)).length + 1 < fuel) :
    readItems fuel (itemsText (item :: items) ++ ']' :: rest) = some (item :: items, rest) := by
  match fuel with
  | 0 => omega
  | fuel + 1 =>
    match items with
    | [] =>
      simp only [itemsText] at enough ⊢
      have read := readValue_text item wellFormed.1 (show _ < fuel by omega)
        (ends_cons ']' (by decide) rest)
      simp only [readItems, read, skipSpace_cons (show isSpace ']' = false by decide)]
    | next :: more =>
      simp only [itemsText, List.length_append, List.length_cons] at enough
      have read := readValue_text item wellFormed.1 (show _ < fuel by omega)
        (ends_cons ',' (by decide) (itemsText (next :: more) ++ ']' :: rest))
      have others := readItems_text next more wellFormed.2 rest (show _ < fuel by omega)
      rw [itemsText, List.append_assoc, List.cons_append]
      simp only [readItems, read, skipSpace_cons (show isSpace ',' = false by decide), others,
        Option.map_some]

theorem readMembers_text (key : String) (value : Json) (members : List (String × Json))
    (wellFormed : MembersWellFormed ((key, value) :: members)) {fuel : Nat} (rest : List Char)
    (enough : (membersText ((key, value) :: members)).length + 1 < fuel) :
    readMembers fuel (membersText ((key, value) :: members) ++ '}' :: rest) =
      some (((key, value) :: members).map fun member => (some member.1, member.2), rest) := by
  match fuel with
  | 0 => omega
  | fuel + 1 =>
    match members with
    | [] =>
      simp only [membersText, List.length_append, List.length_cons] at enough
      have read := readValue_text value wellFormed.1 (show _ < fuel by omega)
        (ends_cons '}' (by decide) rest)
      rw [membersText, List.append_assoc, List.cons_append, readMembers_last key read]
      rfl
    | (nextKey, nextValue) :: more =>
      simp only [membersText, List.length_append, List.length_cons] at enough
      have read := readValue_text value wellFormed.1 (show _ < fuel by omega)
        (ends_cons ',' (by decide) (membersText ((nextKey, nextValue) :: more) ++ '}' :: rest))
      have others := readMembers_text nextKey nextValue more wellFormed.2 rest
        (show _ < fuel by omega)
      rw [membersText]
      simp only [List.append_assoc, List.cons_append]
      rw [readMembers_more key read others]
      rfl

end

theorem read?_text {value : Json} (wellFormed : value.WellFormed) :
    read? value.text = some value := by
  have read := readValue_text value wellFormed (Nat.lt_succ_self _) Numeral.ends_nil
  rw [List.append_nil] at read
  rw [read?, read]
  rfl

end Modelsmith.Json
