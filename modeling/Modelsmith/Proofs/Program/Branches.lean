import Modelsmith.Proofs.Double.Layout
import Modelsmith.Proofs.Tree.Branches
import Modelsmith.Dialect
import Modelsmith.Program.Branches

/-! Branch code read back line by line.

A language is read by the words around the parts of its lines, told here without its templates.
What is written for a tree is read as the lines of its branches, each threshold replaced by what
its numeral reads as, so the text does what the lines do.
-/

set_option autoImplicit false

namespace Modelsmith

/-! ## Converters -/

namespace Converter

/-- Every finite double is written as a numeral with a known reading. -/
def Reads (converter : Converter) (reading : Double → Double) : Prop :=
  ∀ value : Double, value.isFinite = true → ∃ numeral : Numeral, numeral.WellFormed ∧
    numeral.value = reading value ∧ converter value = .ok (String.ofList numeral.text)

theorem shortest_reads : Converter.shortest.Reads id := by
  intro value finite
  refine ⟨Double.Layout.exact.numeral value, Double.Layout.numeral_wellFormed _ finite,
    Double.Layout.value_numeral _ finite, ?_⟩
  rw [shortest, Double.Layout.render_of_finite _ finite]

theorem fixed_reads {places : Nat} (few : places ≤ placesLimit) :
    (Converter.fixed places).Reads (Double.atPlaces places) := by
  intro value finite
  refine ⟨value.fixedNumeral places, Double.fixedNumeral_wellFormed places value,
    Double.value_fixedNumeral places value, ?_⟩
  simp [fixed, Double.fixed, few, finite]

def spell (converter : Converter) (value : Double) : List Char :=
  match converter value with
  | .ok text => text.toList
  | .error _ => []

theorem Reads.spell {converter : Converter} {reading : Double → Double}
    (reads : converter.Reads reading) {value : Double} (finite : value.isFinite = true) :
    converter value = .ok (String.ofList (converter.spell value)) ∧
      ∃ numeral : Numeral, numeral.WellFormed ∧ numeral.value = reading value ∧
        converter.spell value = numeral.text := by
  obtain ⟨numeral, wellFormed, same, written⟩ := reads value finite
  have spelled : converter.spell value = numeral.text := by
    simp [Converter.spell, written]
  exact ⟨spelled ▸ written, numeral, wellFormed, same, spelled⟩

end Converter

theorem Numeral.WellFormed.newline_not_mem {numeral : Numeral} (wellFormed : numeral.WellFormed) :
    '\n' ∉ numeral.text := fun member =>
  absurd (wellFormed.isPart_of_mem member) (by decide)

namespace Branches

open Modelsmith.Tree (Line Relation)

/-! ## Words of a language -/

/-- What stands around the index, the threshold and the count of a line. -/
structure Wording where
  testOpen : String
  testClose : String
  otherwise : String
  close : String
  assignOpen : String
  assignClose : String

def wording : Language → Wording
  | .c | .java | .javaScript =>
    ⟨"if (features[", ") \x7b", "\x7d else \x7b", "\x7d", "classes[", ";"⟩
  | .go => ⟨"if features[", " \x7b", "\x7d else \x7b", "\x7d", "classes[", ""⟩
  | .php => ⟨"if ($features[", ") \x7b", "\x7d else \x7b", "\x7d", "$classes[", ";"⟩
  | .ruby => ⟨"if features[", "", "else", "end", "classes[", ""⟩

def Wording.line (words : Wording) (spell : Double → List Char) : Line → List Char
  | .test feature relation threshold =>
    words.testOpen.toList ++ ((Literal.intText feature).toList ++ ("] ".toList ++
      (relation.operator.toList ++ (" ".toList ++ (spell threshold ++ words.testClose.toList)))))
  | .otherwise => words.otherwise.toList
  | .close => words.close.toList
  | .assign class_ count =>
    words.assignOpen.toList ++ ((Literal.intText class_).toList ++ ("] = ".toList ++
      ((Literal.intText count).toList ++ words.assignClose.toList)))

theorem render_if (language : Language) (index operator threshold : String) :
    language.dialect.render "if" [("features", language.dialect.sigil ++ "features"),
        ("index", index), ("op", operator), ("threshold", threshold)] =
      .ok (String.ofList ((wording language).testOpen.toList ++ (index.toList ++ ("] ".toList ++
        (operator.toList ++ (" ".toList ++ (threshold.toList ++
          (wording language).testClose.toList))))))) := by
  cases language <;> rfl

theorem render_assign (language : Language) (index value : String) :
    language.dialect.render "assign" [("classes", language.dialect.sigil ++ "classes"),
        ("index", index), ("value", value)] =
      .ok (String.ofList ((wording language).assignOpen.toList ++ (index.toList ++ ("] = ".toList ++
        value.toList)))) := by
  rw [← List.append_nil value.toList]
  cases language <;> rfl

theorem text_words (language : Language) :
    language.dialect.text "else" = .ok (wording language).otherwise ∧
      language.dialect.text "endif" = .ok (wording language).close ∧
      language.dialect.text "join" = .ok (wording language).assignClose := by
  cases language <;> exact ⟨rfl, rfl, rfl⟩

theorem line_text (language : Language) (converter : Converter) (spell : Double → List Char)
    (line : Line) (spelled : ∀ feature relation threshold, line = .test feature relation threshold →
      converter threshold = .ok (String.ofList (spell threshold))) :
    line.text language.dialect converter =
      .ok (String.ofList ((wording language).line spell line)) := by
  cases line with
  | test feature relation threshold =>
    simp only [Line.text, spelled feature relation threshold rfl, ok_bind, render_if,
      String.toList_ofList, Wording.line]
  | otherwise => simp only [Line.text, text_words, Wording.line, String.ofList_toList]
  | close => simp only [Line.text, text_words, Wording.line, String.ofList_toList]
  | assign class_ count =>
    simp only [Line.text, render_assign, ok_bind, text_words, Wording.line, pure, Except.pure]
    rw [← String.ofList_toList (s := _ ++ _)]
    simp

/-! ## Reading -/

def splitLines : List Char → List (List Char)
  | [] => []
  | c :: rest =>
    if c = '\n' then [] :: splitLines rest
    else
      match splitLines rest with
      | [] => [[c]]
      | line :: more => (c :: line) :: more

def readInt? (text : List Char) : Option (Int × List Char) := do
  let (numeral, rest) ← Numeral.read? text
  return (← numeral.integer?, rest)

def readNat? (text : List Char) : Option (Nat × List Char) := do
  let (value, rest) ← readInt? text
  if 0 ≤ value then some (value.toNat, rest) else none

def readRelation? (text : List Char) : Option (Relation × List Char) :=
  match Text.after? "<= ".toList text with
  | some rest => some (.atMost, rest)
  | none => (Text.after? "> ".toList text).map (.above, ·)

namespace Wording

variable (words : Wording)

def readTest? (text : List Char) : Option Line := do
  let rest ← Text.after? words.testOpen.toList text
  let (feature, rest) ← readInt? rest
  let rest ← Text.after? "] ".toList rest
  let (relation, rest) ← readRelation? rest
  let (threshold, rest) ← Numeral.read? rest
  if rest = words.testClose.toList then some (.test feature relation threshold.value) else none

def readAssign? (text : List Char) : Option Line := do
  let rest ← Text.after? words.assignOpen.toList text
  let (class_, rest) ← readNat? rest
  let rest ← Text.after? "] = ".toList rest
  let (count, rest) ← readNat? rest
  if rest = words.assignClose.toList then some (.assign class_ count) else none

def isIndent (c : Char) : Bool := c = ' ' || c = '\t'

def readLine? (text : List Char) : Option Line :=
  let text := text.dropWhile isIndent
  if text = words.otherwise.toList then some .otherwise
  else if text = words.close.toList then some .close
  else (words.readTest? text).or (words.readAssign? text)

end Wording

/-- The lines of branch code; none when one of them is none of the language. -/
def read? (language : Language) (text : String) : Option (List Line) :=
  (splitLines text.toList).mapM (wording language).readLine?

theorem readInt?_append (value : Int) {rest : List Char} (ends : Numeral.Ends rest) :
    readInt? ((Literal.intText value).toList ++ rest) = some (value, rest) := by
  simp [readInt?, Literal.intText, Numeral.read?_text_append (Numeral.ofInt_wellFormed value) ends]

theorem readNat?_append (value : Nat) {rest : List Char} (ends : Numeral.Ends rest) :
    readNat? ((Literal.intText value).toList ++ rest) = some (value, rest) := by
  simp [readNat?, readInt?_append _ ends]

theorem readRelation?_append (relation : Relation) (rest : List Char) :
    readRelation? (relation.operator.toList ++ (" ".toList ++ rest)) = some (relation, rest) := by
  cases relation with
  | atMost => rfl
  | above => rfl

theorem ends_bracket (start : String) (rest : List Char) (bracket : start.toList.head? = some ']') :
    Numeral.Ends (start.toList ++ rest) := by
  intro c head
  rw [List.head?_append, bracket] at head
  cases head
  decide

/-! ## One line -/

/-- Words whose lines can be told apart by how they begin. -/
structure Wording.Lawful (words : Wording) : Prop where
  test_apart : ∀ other ∈ [words.otherwise, words.close, words.assignOpen],
    words.testOpen.toList.head? ≠ other.toList.head?
  assign_apart : ∀ other ∈ [words.otherwise, words.close],
    words.assignOpen.toList.head? ≠ other.toList.head?
  otherwise_close : words.otherwise.toList ≠ words.close.toList
  starts : ∀ start ∈ [words.testOpen, words.otherwise, words.close, words.assignOpen],
    ∃ c rest, start.toList = c :: rest ∧ Text.isBlank c = false
  testEnds : Numeral.Ends words.testClose.toList
  assignEnds : Numeral.Ends words.assignClose.toList
  oneLine : ∀ part ∈ [words.testOpen, words.testClose, words.otherwise, words.close,
    words.assignOpen, words.assignClose], '\n' ∉ part.toList

theorem wording_lawful (language : Language) : (wording language).Lawful := by
  cases language <;>
    exact {
      test_apart := by decide
      assign_apart := by decide
      otherwise_close := by decide
      starts := by simp [wording, Text.isBlank]
      testEnds := by simp [wording, Numeral.Ends, Char.isDigit]
      assignEnds := by simp [wording, Numeral.Ends, Char.isDigit]
      oneLine := by decide }

theorem isBlank_of_isIndent {c : Char} (indent : Wording.isIndent c = true) :
    Text.isBlank c = true := by
  rcases Bool.or_eq_true _ _ ▸ indent with space | tab
  · obtain rfl := of_decide_eq_true space
    rfl
  · obtain rfl := of_decide_eq_true tab
    rfl

section
variable {words : Wording} (lawful : words.Lawful) (spell : Double → List Char) (line : Line)
include lawful

theorem line_starts : ∃ c rest, words.line spell line = c :: rest ∧ Text.isBlank c = false := by
  have extend : ∀ {start rest : List Char},
      (∃ c more, start = c :: more ∧ Text.isBlank c = false) →
      ∃ c more, start ++ rest = c :: more ∧ Text.isBlank c = false := by
    rintro _ rest ⟨c, more, rfl, solid⟩
    exact ⟨c, more ++ rest, rfl, solid⟩
  cases line with
  | test => exact extend (lawful.starts _ (by simp))
  | otherwise => exact lawful.starts _ (by simp)
  | close => exact lawful.starts _ (by simp)
  | assign => exact extend (lawful.starts _ (by simp))

variable (free : ∀ feature relation threshold, line = .test feature relation threshold →
  '\n' ∉ spell threshold)
include free

theorem line_oneLine : '\n' ∉ words.line spell line := by
  have ints : ∀ value : Int, '\n' ∉ (Literal.intText value).toList := by
    intro value
    rw [Literal.intText, String.toList_ofList]
    exact (Numeral.ofInt_wellFormed value).newline_not_mem
  have word : ∀ part ∈ [words.testOpen, words.testClose, words.otherwise, words.close,
    words.assignOpen, words.assignClose], '\n' ∉ part.toList := lawful.oneLine
  simp only [List.mem_cons, List.not_mem_nil, or_false, forall_eq_or_imp, forall_eq] at word
  cases line with
  | test feature relation threshold =>
    have operator : '\n' ∉ relation.operator.toList := by cases relation <;> decide
    simp [Wording.line, free feature relation threshold rfl, ints, word, operator]
  | otherwise => exact word.2.2.1
  | close => exact word.2.2.2.1
  | assign class_ count => simp [Wording.line, ints, word]

end

section
variable {words : Wording} (lawful : words.Lawful)
include lawful

theorem head?_append (start : String)
    (member : start ∈ [words.testOpen, words.otherwise, words.close, words.assignOpen])
    (rest : List Char) : (start.toList ++ rest).head? = start.toList.head? := by
  obtain ⟨c, more, same, -⟩ := lawful.starts start member
  simp [same]

theorem readTest?_test (feature : Int) (relation : Relation) {numeral : Numeral}
    (wellFormed : numeral.WellFormed) :
    words.readTest? (words.testOpen.toList ++ ((Literal.intText feature).toList ++ ("] ".toList ++
      (relation.operator.toList ++ (" ".toList ++ (numeral.text ++ words.testClose.toList)))))) =
      some (.test feature relation numeral.value) := by
  simp only [Wording.readTest?, Text.after?_append, readInt?_append feature (ends_bracket "] " _ rfl),
    readRelation?_append, Numeral.read?_text_append wellFormed lawful.testEnds,
    bind, Option.bind_some, if_true]

theorem readAssign?_assign (class_ count : Nat) :
    words.readAssign? (words.assignOpen.toList ++ ((Literal.intText class_).toList ++
      ("] = ".toList ++ ((Literal.intText count).toList ++ words.assignClose.toList)))) =
      some (.assign class_ count) := by
  simp only [Wording.readAssign?, Text.after?_append, readNat?_append class_ (ends_bracket "] = " _ rfl),
    readNat?_append count lawful.assignEnds, bind, Option.bind_some, if_true]

theorem readTest?_assign (rest : List Char) :
    words.readTest? (words.assignOpen.toList ++ rest) = none := by
  have apart := lawful.test_apart words.assignOpen (by simp)
  rw [← head?_append lawful words.assignOpen (by simp) rest] at apart
  have filled : words.testOpen.toList ≠ [] := by
    obtain ⟨c, more, same, -⟩ := lawful.starts words.testOpen (by simp)
    simp [same]
  simp [Wording.readTest?, Text.after?_of_head filled apart]

theorem readLine?_line {spell : Double → List Char} {reading : Double → Double} {line : Line}
    (spelled : ∀ feature relation threshold, line = .test feature relation threshold →
      ∃ numeral : Numeral, numeral.WellFormed ∧ numeral.value = reading threshold ∧
        spell threshold = numeral.text)
    {indent : List Char} (blank : ∀ c ∈ indent, Wording.isIndent c = true) :
    words.readLine? (indent ++ words.line spell line) = some (line.withReading reading) := by
  have stripped : (indent ++ words.line spell line).dropWhile Wording.isIndent =
      words.line spell line := by
    obtain ⟨c, rest, same, solid⟩ := line_starts lawful spell line
    refine Text.dropWhile_append blank fun d head => ?_
    obtain rfl : c = d := by simpa [same] using head
    cases indented : Wording.isIndent c with
    | false => rfl
    | true => exact absurd (isBlank_of_isIndent indented) (by simp [solid])
  have apart : ∀ {start other : String} {rest : List Char},
      start ∈ [words.testOpen, words.otherwise, words.close, words.assignOpen] →
      start.toList.head? ≠ other.toList.head? → start.toList ++ rest ≠ other.toList := by
    intro start other rest member different same
    exact different (head?_append lawful start member rest ▸ congrArg List.head? same)
  unfold Wording.readLine?
  rw [stripped]
  cases line with
  | test feature relation threshold =>
    obtain ⟨numeral, wellFormed, value, same⟩ := spelled feature relation threshold rfl
    rw [Wording.line, if_neg (apart (by simp) (lawful.test_apart _ (by simp))),
      if_neg (apart (by simp) (lawful.test_apart _ (by simp))), same,
      readTest?_test lawful feature relation wellFormed, value]
    rfl
  | otherwise => rw [Wording.line, if_pos rfl]; rfl
  | close => rw [Wording.line, if_neg lawful.otherwise_close.symm, if_pos rfl]; rfl
  | assign class_ count =>
    rw [Wording.line, if_neg (apart (by simp) (lawful.assign_apart _ (by simp))),
      if_neg (apart (by simp) (lawful.assign_apart _ (by simp))),
      readTest?_assign lawful, readAssign?_assign lawful]
    rfl

end

/-! ## All lines -/

theorem splitLines_append {line : List Char} (oneLine : '\n' ∉ line) (rest : List Char) :
    splitLines (line ++ '\n' :: rest) = line :: splitLines rest := by
  induction line with
  | nil => simp [splitLines]
  | cons c line ih =>
    simp only [List.mem_cons, not_or] at oneLine
    have other : c ≠ '\n' := fun same => oneLine.1 same.symm
    simp [splitLines, other, ih oneLine.2]

theorem splitLines_single {line : List Char} (oneLine : '\n' ∉ line) (filled : line ≠ []) :
    splitLines line = [line] := by
  induction line with
  | nil => exact absurd rfl filled
  | cons c line ih =>
    simp only [List.mem_cons, not_or] at oneLine
    have other : c ≠ '\n' := fun same => oneLine.1 same.symm
    cases line with
    | nil => simp [splitLines, other]
    | cons d line => rw [splitLines, if_neg other, ih oneLine.2 (by simp)]

theorem splitLines_join {first : List Char} {lines : List (List Char)}
    (each : ∀ line ∈ first :: lines, '\n' ∉ line ∧ line ≠ []) :
    splitLines (first ++ lines.flatMap ('\n' :: ·)) = first :: lines := by
  induction lines generalizing first with
  | nil =>
    obtain ⟨oneLine, filled⟩ := each first (by simp)
    simpa using splitLines_single oneLine filled
  | cons line lines ih =>
    obtain ⟨oneLine, -⟩ := each first (by simp)
    rw [List.flatMap_cons, List.cons_append, splitLines_append oneLine,
      ih fun other member => each other (by simp [member])]

def indent (language : Language) (depth : Nat) : List Char :=
  match language with
  | .c | .go => []
  | _ => (List.replicate (2 + depth) "    ".toList).flatten

theorem indentation_eq (language : Language) (depth : Nat) :
    indentation language.dialect depth = .ok (indent language depth) := by
  cases language <;> rfl

theorem isIndent_of_mem_indent {language : Language} {depth : Nat} {c : Char}
    (member : c ∈ indent language depth) : Wording.isIndent c = true := by
  have blank : ∀ c ∈ (List.replicate (2 + depth) "    ".toList).flatten,
      Wording.isIndent c = true := by
    intro c member
    obtain ⟨step, isStep, inside⟩ := List.mem_flatten.mp member
    rw [List.eq_of_mem_replicate isStep] at inside
    have spaces : "    ".toList.all Wording.isIndent = true := by decide
    exact List.all_eq_true.mp spaces c inside
  cases language with
  | c | go => cases member
  | java | javaScript | php | ruby => exact blank c member

theorem layout_eq (language : Language) (converter : Converter) (spell : Double → List Char)
    {lines : List (Nat × Line)}
    (spelled : ∀ depth feature relation threshold,
      (depth, .test feature relation threshold) ∈ lines →
        converter threshold = .ok (String.ofList (spell threshold))) :
    layout language.dialect converter lines =
      .ok ((lines.map fun entry => indent language entry.1 ++
        (wording language).line spell entry.2).flatMap ('\n' :: ·)) := by
  induction lines with
  | nil => rfl
  | cons entry lines ih =>
    obtain ⟨depth, line⟩ := entry
    rw [layout, line_text language converter spell line, indentation_eq, ih]
    · simp [pure, Except.pure]
    · intro depth feature relation threshold member
      exact spelled depth feature relation threshold (by simp [member])
    · rintro feature relation threshold rfl
      exact spelled depth feature relation threshold (by simp)

theorem splitLines_trimStart {before first : List Char} {lines : List (List Char)}
    (blank : ∀ c ∈ before, Wording.isIndent c = true)
    (solid : ∃ c rest, first = c :: rest ∧ Text.isBlank c = false)
    (each : ∀ line ∈ first :: lines, '\n' ∉ line ∧ line ≠ []) :
    splitLines (Text.trimStart (((before ++ first) :: lines).flatMap ('\n' :: ·))) =
      first :: lines := by
  have blanks : ∀ c ∈ '\n' :: before, Text.isBlank c = true := by
    intro c member
    rcases List.mem_cons.mp member with rfl | inside
    · rfl
    · exact isBlank_of_isIndent (blank c inside)
  have stop : ∀ d, (first ++ lines.flatMap ('\n' :: ·)).head? = some d →
      Text.isBlank d = false := by
    obtain ⟨c, rest, rfl, notBlank⟩ := solid
    rintro d ⟨⟩
    exact notBlank
  have trimmed : Text.trimStart (((before ++ first) :: lines).flatMap ('\n' :: ·)) =
      first ++ lines.flatMap ('\n' :: ·) := by
    rw [Text.trimStart, List.flatMap_cons, List.cons_append, List.append_assoc,
      ← List.cons_append]
    exact Text.dropWhile_append blanks stop
  rw [trimmed, splitLines_join each]

/-- The lines of a text, each behind the indentation for its depth except the first. -/
def written (language : Language) (spell : Double → List Char) :
    List (Nat × Line) → List (List Char)
  | [] => []
  | first :: rest => (wording language).line spell first.2 ::
    rest.map fun entry => indent language entry.1 ++ (wording language).line spell entry.2

theorem splitLines_layout {language : Language} {spell : Double → List Char}
    {lines : List (Nat × Line)}
    (free : ∀ depth feature relation threshold,
      (depth, .test feature relation threshold) ∈ lines → '\n' ∉ spell threshold) :
    splitLines (Text.trimStart ((lines.map fun entry => indent language entry.1 ++
        (wording language).line spell entry.2).flatMap ('\n' :: ·))) =
      written language spell lines := by
  have lawful := wording_lawful language
  have oneLine : ∀ entry ∈ lines, '\n' ∉ (wording language).line spell entry.2 := by
    rintro ⟨depth, line⟩ member
    refine line_oneLine lawful spell line ?_
    rintro feature relation threshold rfl
    exact free depth feature relation threshold member
  have solid := fun entry : Nat × Line => line_starts lawful spell entry.2
  cases lines with
  | nil => rfl
  | cons entry lines =>
    rw [List.map_cons, splitLines_trimStart (fun c => isIndent_of_mem_indent) (solid entry)]
    · rfl
    · intro written member
      rcases List.mem_cons.mp member with rfl | inside
      · obtain ⟨c, rest, same, -⟩ := solid entry
        exact ⟨oneLine entry (by simp), by simp [same]⟩
      · obtain ⟨other, listed, rfl⟩ := List.mem_map.mp inside
        obtain ⟨c, rest, same, -⟩ := solid other
        refine ⟨?_, by simp [same]⟩
        have indentFree : '\n' ∉ indent language other.1 := fun newline =>
          absurd (isIndent_of_mem_indent newline) (by decide)
        simp [indentFree, oneLine other (by simp [listed])]

theorem text_eq_layout {dialect : Dialect} {converter : Converter} {tree : Tree}
    (converts : ∀ threshold ∈ tree.thresholdsFrom tree.size 0, Succeeds (converter threshold)) :
    text dialect converter tree = (layout dialect converter tree.branchLines).map fun lines =>
      String.ofList (Text.trimStart lines) := by
  obtain ⟨texts, converted⟩ := Succeeds.mapM converts
  rw [text, converted, ok_bind]
  cases layout dialect converter tree.branchLines <;> rfl

section
variable {converter : Converter} {reading : Double → Double} (reads : converter.Reads reading)
include reads

theorem readLines_layout {language : Language} {lines : List (Nat × Line)}
    (finite : ∀ depth feature relation threshold,
      (depth, .test feature relation threshold) ∈ lines → threshold.isFinite = true) :
    (splitLines (Text.trimStart ((lines.map fun entry => indent language entry.1 ++
        (wording language).line converter.spell entry.2).flatMap ('\n' :: ·)))).mapM
      (wording language).readLine? = some (lines.map fun entry => entry.2.withReading reading) := by
  have lawful := wording_lawful language
  have spelled : ∀ entry ∈ lines, ∀ feature relation threshold,
      entry.2 = .test feature relation threshold → ∃ numeral : Numeral, numeral.WellFormed ∧
        numeral.value = reading threshold ∧ converter.spell threshold = numeral.text := by
    rintro ⟨depth, line⟩ member feature relation threshold rfl
    exact (reads.spell (finite depth feature relation threshold member)).2
  have read : ∀ entry ∈ lines, ∀ before : List Char, (∀ c ∈ before, Wording.isIndent c = true) →
      (wording language).readLine? (before ++ (wording language).line converter.spell entry.2) =
        some (entry.2.withReading reading) :=
    fun entry member before blank => readLine?_line lawful (spelled entry member) blank
  rw [splitLines_layout fun depth feature relation threshold member => by
    obtain ⟨numeral, wellFormed, -, same⟩ := spelled _ member feature relation threshold rfl
    exact same ▸ wellFormed.newline_not_mem]
  cases lines with
  | nil => rfl
  | cons entry lines =>
    have first := read entry (by simp) [] (by simp)
    have rest : lines.mapM ((wording language).readLine? ∘ fun entry => indent language entry.1 ++
        (wording language).line converter.spell entry.2) =
          some (lines.map fun entry => entry.2.withReading reading) :=
      mapM_eq_pure fun other member => read other (by simp [member]) (indent language other.1)
        fun c => isIndent_of_mem_indent
    rw [written, List.mapM_cons, List.mapM_map, rest, ← List.nil_append (Wording.line ..), first]
    rfl

theorem text_reads (language : Language) {tree : Tree}
    (finite : ∀ threshold ∈ tree.thresholds, threshold.isFinite = true) :
    ∃ text, Branches.text language.dialect converter tree = .ok text ∧
      read? language text = some (tree.readLines reading tree.size 0 0) := by
  have tested : ∀ depth feature relation threshold,
      (depth, .test feature relation threshold) ∈ tree.branchLines → threshold.isFinite = true :=
    fun depth feature relation threshold member => finite threshold (Tree.threshold_mem member rfl)
  have written := layout_eq language converter converter.spell fun depth feature relation threshold
    member => (reads.spell (tested depth feature relation threshold member)).1
  have converts : ∀ threshold ∈ tree.thresholdsFrom tree.size 0, Succeeds (converter threshold) :=
    fun threshold member => ⟨_, (reads.spell (finite threshold (Tree.mem_thresholds member))).1⟩
  refine ⟨_, by rw [text_eq_layout converts, written]; rfl, ?_⟩
  rw [read?, String.toList_ofList]
  exact readLines_layout reads tested

end

/-- Branch code in any language, carried out line by line on zeros, ends with the counts of the leaf
that the row falls into, and with zeros when it falls into none. -/
theorem text_computes_leaf (language : Language) {tree : Tree} (valid : tree.validate = .ok ())
    (finite : ∀ threshold ∈ tree.thresholds, threshold.isFinite = true) {row : List Double}
    (numbers : ∀ value ∈ row, value.isNaN = false) {count : Nat}
    (counted : tree.CountsFeatures count) (wide : count ≤ row.length) :
    ∃ text lines counts result,
      Branches.text language.dialect .shortest tree = .ok text ∧
      read? language text = some lines ∧
      Tree.execute row tree.classCount lines = some counts ∧
      tree.leaf row = .ok result ∧
      match result with
      | some node => tree.classes[node]? = some counts
      | none => counts = List.replicate tree.classCount 0 := by
  have wellFormed := Tree.validate_eq_ok_iff_wellFormed.mp valid
  obtain ⟨text, written, read⟩ := text_reads Converter.shortest_reads language finite
  obtain ⟨result, walked, executed⟩ := Tree.execute_readLines wellFormed id
    (fun threshold member => Double.isNaN_of_isFinite (finite threshold member)) numbers
    (counted.hasFeatures wellFormed wide)
  refine ⟨text, _, _, result, written, read, executed, ?_, ?_⟩
  · rw [Tree.leaf, Tree.leafFrom_eq_walkFrom, walked]
  · cases result with
    | none => rfl
    | some node => exact Tree.classes_of_walkFrom walked

/-- A root with two splits below it: one with a right child only, and one without children. -/
def oneSided : Tree where
  lefts := [1, -1, -1, -1]
  rights := [2, 3, -1, -1]
  thresholds :=
    [Double.ofDecimal false 5 (-1), Double.ofDecimal true 1 0, Double.zero, Tree.leafMark]
  indices := [0, 1, 0, 0]
  classes := [[0, 0], [0, 0], [0, 0], [0, 7]]
  width := none

/-- A row of zeros falls into the only leaf, and Ruby code finds its counts. -/
theorem text_computes_leaf_oneSided :
    oneSided.validate = .ok () ∧
      (∀ threshold ∈ oneSided.thresholds, threshold.isFinite = true) ∧
      (∀ value ∈ [Double.zero, Double.zero], value.isNaN = false) ∧ oneSided.CountsFeatures 2 ∧
      ∃ text lines, Branches.text Dialect.ruby .shortest oneSided = .ok text ∧
        read? .ruby text = some lines ∧
        Tree.execute [Double.zero, Double.zero] 2 lines = some [0, 7] := by
  have valid : oneSided.validate = .ok () := eq_ok_of_toOption (by decide +kernel)
  have finite : ∀ threshold ∈ oneSided.thresholds, threshold.isFinite = true := by decide +kernel
  have numbers : ∀ value ∈ [Double.zero, Double.zero], value.isNaN = false := by decide +kernel
  have width : oneSided.featureCount = 2 := by decide +kernel
  have counted : oneSided.CountsFeatures 2 :=
    width ▸ (Tree.validate_eq_ok_iff_wellFormed.mp valid).sameLengths.countsFeatures
  refine ⟨valid, finite, numbers, counted, ?_⟩
  obtain ⟨text, lines, counts, result, written, read, executed, fell, ends⟩ :=
    text_computes_leaf .ruby valid finite numbers counted (Nat.le_refl 2)
  have leaf : oneSided.leaf [Double.zero, Double.zero] = .ok (some 3) :=
    eq_ok_of_toOption (by decide +kernel)
  cases leaf.symm.trans fell
  cases ends
  exact ⟨text, lines, written, read, executed⟩

end Branches

end Modelsmith
