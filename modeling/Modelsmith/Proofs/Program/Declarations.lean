import Modelsmith.Proofs.Program.Literal
import Modelsmith.Proofs.Template
import Modelsmith.Program.Generation

/-! Arrays of a program read back from its source.

Every array of a model stands in the source of a program that carries its data. What declares it is
told language by language, and behind that stands a literal which reads as the array.
-/

set_option autoImplicit false

namespace Modelsmith.Literal

/-! ## Declarations -/

def typeWord : Language → Scalar → String
  | .c, .int | .java, .int | .go, .int => "int"
  | .c, .double | .java, .double => "double"
  | .go, .double => "float64"
  | .javaScript, _ => "number"
  | .php, .int => "int"
  | .php, .double => "float"
  | .ruby, .int => "Integer"
  | .ruby, .double => "Float"

def variableWord : Language → String → List Char
  | .php, name => '$' :: name.toList
  | _, name => name.toList

/-- What stands before the literal of an array, in front of the rest of the declaration. C spells
out the sizes; Go and Java only how many there are. -/
def declared (language : Language) (type name : List Char) (sizes : List (List Char))
    (rest : List Char) : List Char :=
  match language with
  | .c =>
    type ++ (" ".toList ++ (name ++ sizes.foldr (fun size rest => "[".toList ++ (size ++
      ("]".toList ++ rest))) (" = ".toList ++ rest)))
  | .go =>
    "var ".toList ++ (name ++ (" = ".toList ++
      sizes.foldr (fun _ rest => "[]".toList ++ rest) (type ++ rest)))
  | .java =>
    type ++ sizes.foldr (fun _ rest => "[]".toList ++ rest)
      (" ".toList ++ (name ++ (" = ".toList ++ rest)))
  | .javaScript => "const ".toList ++ (name ++ (" = ".toList ++ rest))
  | .php | .ruby => name ++ (" = ".toList ++ rest)

def terminator : Language → List Char
  | .c | .java | .javaScript | .php => [';']
  | .go | .ruby => []

theorem text_scalar (language : Language) (scalar : Scalar) :
    language.dialect.text scalar.template = .ok (typeWord language scalar) := by
  cases language <;> cases scalar <;> rfl

theorem toList_sigil (language : Language) (name : String) :
    (language.dialect.sigil ++ name).toList = variableWord language name := by
  rw [String.toList_append]
  cases language <;> rfl

section
variable (language : Language) (type name values rows columns : String)

theorem render_vector :
    language.dialect.render "arr[]" [("type", type), ("name", name), ("values", values),
        ("n", rows), ("m", columns)] =
      .ok (String.ofList (declared language type.toList name.toList [rows.toList]
        (values.toList ++ terminator language))) := by
  cases language <;> rfl

theorem render_matrix :
    language.dialect.render "arr[][]" [("type", type), ("name", name), ("values", values),
        ("n", rows), ("m", columns)] =
      .ok (String.ofList (declared language type.toList name.toList [rows.toList, columns.toList]
        (values.toList ++ terminator language))) := by
  cases language <;> rfl

theorem render_cube {declaration : String}
    (written : language.dialect.render "arr[][][]" [("type", type), ("name", name),
        ("values", values), ("n", rows), ("m", columns)] = .ok declaration) :
    declaration = String.ofList (declared language type.toList name.toList [[], [], []]
      (values.toList ++ terminator language)) := by
  cases language with
  | java | javaScript =>
    cases written
    rfl
  | c | go | php | ruby => cases written

end

/-! ## Declarations read back -/

/-- What stands before the first opening bracket, and the value of the literal that starts there. -/
def decode? (language : Language) (declaration : String) : Option (List Char × Nested) :=
  let opens (c : Char) := c ≠ (brackets language).opening
  let literal := declaration.toList.dropWhile opens
  match value? (brackets language) literal.length literal with
  | some (value, rest) =>
    if rest = terminator language then some (declaration.toList.takeWhile opens, value) else none
  | none => none

def header (language : Language) (scalar : Scalar) (name : String) (sizes : List Nat) : List Char :=
  declared language (typeWord language scalar).toList (variableWord language name)
    (sizes.map fun size => (toString size).toList) []

/-- A text that declares an array with its sizes: in C these are the sizes of the literal, and
elsewhere there are as many as the literal is deep. -/
def Declares (language : Language) (scalar : Scalar) (name : String) (value : Nested)
    (declaration : String) : Prop :=
  ∃ sizes, decode? language declaration = some (header language scalar name sizes, value) ∧
    value.HasRank sizes.length ∧ (language = .c → value.HasSizes sizes)

theorem foldr_append {step : List Char → List Char → List Char}
    (keeps : ∀ size first rest, step size (first ++ rest) = step size first ++ rest)
    (sizes : List (List Char)) (first rest : List Char) :
    sizes.foldr step (first ++ rest) = sizes.foldr step first ++ rest := by
  induction sizes with
  | nil => rfl
  | cons size sizes ih => rw [List.foldr_cons, List.foldr_cons, ih, keeps]

theorem declared_append (language : Language) (type name : List Char) (sizes : List (List Char))
    (rest : List Char) :
    declared language type name sizes rest = declared language type name sizes [] ++ rest := by
  unfold declared
  -- Which words stand around the parts does not matter, and unfolding them is slow.
  generalize " ".toList = space
  generalize " = ".toList = equals
  generalize "[".toList = opening
  generalize "]".toList = closing
  generalize "[]".toList = dimension
  generalize "var ".toList = var
  generalize "const ".toList = const
  cases language with
  | c =>
    simp only [List.append_assoc, List.append_nil]
    rw [foldr_append (by simp)]
  | go =>
    simp only [List.append_assoc, List.append_nil]
    rw [foldr_append (by simp)]
  | java =>
    simp only [List.append_assoc, List.append_nil]
    rw [← foldr_append (by simp)]
    simp only [List.append_assoc]
  | javaScript | php | ruby => simp only [List.append_assoc, List.append_nil]

theorem not_mem_foldr {c : Char} {step : List Char → List Char → List Char}
    (keeps : ∀ size rest, c ∉ size → c ∉ rest → c ∉ step size rest) {sizes : List (List Char)}
    (each : ∀ size ∈ sizes, c ∉ size) {rest : List Char} (free : c ∉ rest) :
    c ∉ sizes.foldr step rest := by
  induction sizes with
  | nil => exact free
  | cons size sizes ih =>
    exact keeps _ _ (each size (by simp)) (ih fun other member => each other (by simp [member]))

theorem isPlain_toString (value : Int) : IsPlain (toString value).toList := by
  rw [← intText_eq, intText, String.toList_ofList]
  exact isPlain_text (Numeral.ofInt_wellFormed value)

theorem opening_not_mem_header (language : Language) (scalar : Scalar) {name : String}
    (plain : (brackets language).opening ∉ name.toList) (sizes : List Nat) :
    (brackets language).opening ∉ header language scalar name sizes := by
  have digits : ∀ size ∈ sizes.map fun size => (toString size).toList,
      (brackets language).opening ∉ size := by
    intro size member inside
    obtain ⟨count, -, rfl⟩ := List.mem_map.mp member
    have apart := ((isPlain_toString count).2 _ inside).1
    cases language <;> simp [brackets] at apart
  have type : (brackets language).opening ∉ (typeWord language scalar).toList := by
    cases language <;> cases scalar <;> decide
  have named : (brackets language).opening ∉ variableWord language name := by
    cases language with
    | php => exact fun inside => (List.mem_cons.mp inside).elim (by decide) plain
    | c | go | java | javaScript | ruby => exact plain
  unfold header declared
  cases language with
  | c =>
    refine List.not_mem_append type (List.not_mem_append (by decide)
      (List.not_mem_append named (not_mem_foldr ?_ digits (by decide))))
    intro size rest sizeFree restFree
    exact List.not_mem_append (by decide)
      (List.not_mem_append sizeFree (List.not_mem_append (by decide) restFree))
  | go =>
    refine List.not_mem_append (by decide) (List.not_mem_append named
      (List.not_mem_append (by decide) (not_mem_foldr ?_ digits (by rwa [List.append_nil]))))
    intro size rest _ restFree
    exact List.not_mem_append (by decide) restFree
  | java =>
    refine List.not_mem_append type (not_mem_foldr ?_ digits (List.not_mem_append (by decide)
      (List.not_mem_append named (by decide))))
    intro size rest _ restFree
    exact List.not_mem_append (by decide) restFree
  | javaScript => exact List.not_mem_append (by decide) (List.not_mem_append named (by decide))
  | php | ruby => exact List.not_mem_append named (by decide)

theorem decode?_declared {language : Language} {scalar : Scalar} {name : String} {sizes : List Nat}
    {values declaration : String} {value : Nested}
    (plain : (brackets language).opening ∉ name.toList)
    (written : declaration.toList = header language scalar name sizes ++
      (values.toList ++ terminator language))
    (reads : ReadsList (brackets language) values.toList value) :
    decode? language declaration = some (header language scalar name sizes, value) := by
  have free := opening_not_mem_header language scalar plain sizes
  have all : ∀ c ∈ header language scalar name sizes,
      decide (c ≠ (brackets language).opening) = true := by
    intro c member
    exact decide_eq_true fun same => free (same ▸ member)
  have stop : ∀ c, (values.toList ++ terminator language).head? = some c →
      decide (c ≠ (brackets language).opening) = false := by
    obtain ⟨rest, same⟩ := reads.opens
    intro c head
    rw [same] at head
    cases head
    simp
  have read := reads.reads (values.toList ++ terminator language).length (terminator language)
    (by simp)
  simp only [decode?, written, Text.dropWhile_append all stop, Text.takeWhile_append all stop, read,
    if_true]

theorem declare_vector (language : Language) (scalar : Scalar) (name values : String) (size : Nat) :
    ∃ declaration, declare language.dialect scalar name values (.vector size) = .ok declaration :=
  ⟨_, by rw [declare, text_scalar, ok_bind]; exact render_vector ..⟩

theorem declare_matrix (language : Language) (scalar : Scalar) (name values : String)
    (rows columns : Nat) :
    ∃ declaration,
      declare language.dialect scalar name values (.matrix rows columns) = .ok declaration :=
  ⟨_, by rw [declare, text_scalar, ok_bind]; exact render_matrix ..⟩

def Shape.sizes : Shape → List Nat
  | .vector size => [size]
  | .matrix rows columns => [rows, columns]
  | .cube => [0, 0, 0]

theorem declare_eq {language : Language} {scalar : Scalar} {name values declaration : String}
    {shape : Shape}
    (written : declare language.dialect scalar name values shape = .ok declaration) :
    declaration.toList = header language scalar name shape.sizes ++
      (values.toList ++ terminator language) := by
  rw [declare, text_scalar, ok_bind] at written
  rw [header, ← declared_append, ← toList_sigil]
  cases shape with
  | vector size =>
    cases (render_vector ..).symm.trans written
    rw [String.toList_ofList, intText_eq]
    rfl
  | matrix rows columns =>
    cases (render_matrix ..).symm.trans written
    rw [String.toList_ofList, intText_eq, intText_eq]
    rfl
  | cube =>
    rw [render_cube language _ _ _ _ _ written, String.toList_ofList]
    cases language with
    | c | go | php | ruby => cases written
    | java | javaScript => rfl

theorem declares_of_declare {language : Language} {scalar : Scalar} {name values declaration : String}
    {shape : Shape} {value : Nested} (plain : (brackets language).opening ∉ name.toList)
    (written : declare language.dialect scalar name values shape = .ok declaration)
    (reads : ReadsList (brackets language) values.toList value)
    (rank : value.HasRank shape.sizes.length) (sized : language = .c → value.HasSizes shape.sizes) :
    Declares language scalar name value declaration :=
  ⟨shape.sizes, decode?_declared plain (declare_eq written) reads, rank, sized⟩

end Modelsmith.Literal
