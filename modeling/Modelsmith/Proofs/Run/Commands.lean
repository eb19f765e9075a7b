import Modelsmith.Proofs.Double.Layout
import Modelsmith.Proofs.Shell.Words
import Modelsmith.Proofs.Template
import Modelsmith.Run.Basic

/-! The commands that compile and run a program, word by word.

A command of a built-in toolchain is a line of parts: fixed words, and slots for paths in quotes.
Values are put into a line that has been cut into its parts before, so a path is one word of the
command whatever its characters.
-/

set_option autoImplicit false

namespace Modelsmith

/-! ## Paths of a program -/

namespace Path

def base (directory : String) : List Char :=
  if directory = "" then []
  else if directory.toList.getLast? = some '/' then directory.toList
  else directory.toList ++ ['/']

theorem toList_join {directory name : String} (relative : isAbsolute name = false) :
    (join directory name).toList = base directory ++ name.toList := by
  simp only [join, relative, Bool.false_or, base]
  by_cases empty : directory = ""
  · simp [empty]
  · by_cases slash : directory.toList.getLast? = some '/'
    · simp [empty, slash]
    · simp [empty, slash]

theorem base_reverse (directory : String) :
    ∀ c, (base directory).reverse.head? = some c → c = '/' := by
  intro c head
  rw [List.head?_reverse] at head
  unfold base at head
  split at head
  · cases head
  · split at head
    · rename_i slash
      exact Option.some.inj (head.symm.trans slash)
    · simpa using head.symm

theorem trimmed_below {path name : List Char} (long : 2 ≤ name.length) (flat : '/' ∉ name) :
    trimmed (path ++ name) = path ++ name := by
  have kept : dropTrailing (path ++ name).reverse = (path ++ name).reverse := by
    rw [List.reverse_append]
    have free : ∀ c ∈ name.reverse, c ≠ '/' := by
      rintro c member rfl
      exact flat (List.mem_reverse.mp member)
    rcases reversed : name.reverse with _ | ⟨first, _ | ⟨second, rest⟩⟩
    · simp_all
    · have := congrArg List.length reversed
      simp at this
      omega
    · rw [reversed] at free
      unfold dropTrailing
      split
      · simp_all
      · simp_all
      · rfl
  rw [trimmed, kept, List.reverse_reverse]

theorem splitLast_below {directory : String} {name : List Char} (flat : '/' ∉ name) :
    splitLast (base directory ++ name) = (base directory, name) := by
  have found : (base directory ++ name).reverse.takeWhile (· ≠ '/') = name.reverse := by
    rw [List.reverse_append]
    apply Text.takeWhile_append
    · intro c member
      have : c ≠ '/' := ne_of_mem_of_not_mem (List.mem_reverse.mp member) flat
      simpa using this
    · intro c head
      simp [base_reverse directory c head]
  simp only [splitLast, found, List.reverse_reverse, List.length_append, Nat.add_sub_cancel,
    List.take_left]

theorem withoutExtension_below {directory : String} {stem ending : List Char} (filled : stem ≠ [])
    (last : '.' ∉ ending) (flat : '/' ∉ stem ++ '.' :: ending)
    (other : stem ++ '.' :: ending ≠ ['.', '.']) :
    withoutExtension (String.ofList (base directory ++ (stem ++ '.' :: ending))) =
      String.ofList (base directory ++ stem) := by
  have long : 2 ≤ (stem ++ '.' :: ending).length := by
    have := List.length_pos_iff.mpr filled
    simp only [List.length_append, List.length_cons]
    omega
  have cut : ((stem ++ '.' :: ending).reverse.dropWhile (· ≠ '.')).drop 1 = stem.reverse := by
    rw [List.reverse_append, List.reverse_cons, List.append_assoc, List.singleton_append,
      Text.dropWhile_append]
    · rfl
    · intro c member
      have : c ≠ '.' := ne_of_mem_of_not_mem (List.mem_reverse.mp member) last
      simpa using this
    · simp
  simp only [withoutExtension, String.toList_ofList, trimmed_below long flat, splitLast_below flat,
    cut, List.reverse_reverse, if_neg filled]
  rw [if_neg (by simp [other])]

end Path

/-! ## Parts of a command -/

namespace Placement

open Shell.Words

/-- A part of a command of a toolchain. -/
inductive Item where
  | literal (text : String)
  | source
  | binary
  | directory
  | className
  | classPath
  deriving DecidableEq

namespace Item

def pieces : Item → List Template.Piece
  | .literal text => text.toList.map .char
  | .source => [.slot "src_path"]
  | .binary => [.slot "dest_path"]
  | .directory => [.slot "dest_dir"]
  | .className => [.slot "class_name"]
  | .classPath => [.slot "class_path"]

def line : List Item → List Template.Piece
  | [] => []
  | [item] => item.pieces
  | item :: next :: rest => item.pieces ++ .char ' ' :: line (next :: rest)

/-- The words that a part stands for. -/
def words (placement : Placement) : Item → List String
  | .literal text => [text]
  | .source => [placement.source]
  | .binary => [placement.binary]
  | .directory => [placement.directory]
  | .className => [placement.className]
  | .classPath => ["-cp", ":".intercalate placement.classPath]

def isWord : Item → Bool
  | .literal text => !text.isEmpty && text.toList.all isPlain
  | _ => true

end Item

def compileItems : Language → Option (List Item)
  | .c => some [.literal "gcc", .source, .literal "-std=c99", .literal "-lm", .literal "-o", .binary]
  | .go => some [.literal "go", .literal "build", .literal "-o", .binary, .source]
  | .java => some [.literal "javac", .classPath, .literal "-d", .directory, .source]
  | .javaScript | .php | .ruby => none

def executeItems : Language → List Item
  | .c | .go => [.binary]
  | .java => [.literal "java", .classPath, .className]
  | .javaScript => [.literal "node", .source]
  | .php => [.literal "php", .source]
  | .ruby => [.literal "ruby", .source]

theorem compile_pieces (language : Language) :
    (Toolchain.builtin language).compile.map (fun command => Template.pieces command.toList) =
      (compileItems language).map Item.line := by
  cases language <;> decide +kernel

theorem execute_pieces (language : Language) :
    Template.pieces (Toolchain.builtin language).execute.toList =
      Item.line (executeItems language) := by
  cases language <;> decide +kernel

/-! ## Commands -/

def bindings (placement : Placement) (argument : String) : Template.Bindings := [
  ("src_path", Shell.quote placement.source),
  ("dest_path", Shell.quote placement.binary),
  ("dest_dir", Shell.quote placement.directory),
  ("class_name", placement.className),
  ("class_path", argument)]

variable {placement : Placement} {argument : String}

theorem render_of_expand {command : String} {filled : List Char}
    (found : placement.classPathArgument = .ok argument)
    (expanded : Template.expand (placement.bindings argument) (Template.pieces command.toList) =
      .ok filled) :
    placement.render command = .ok (String.ofList filled) := by
  have filling : Template.fill command (placement.bindings argument) =
      .ok (String.ofList filled) := by
    rw [Template.fill, expanded, Except.map]
  unfold bindings at filling
  rw [render, found, ok_bind]
  dsimp only
  rw [filling]
  rfl

theorem className_chars {name : String} (named : isClassName name = true) :
    ∃ first rest, name.toList = first :: rest ∧ first.isAlpha = true ∧
      ∀ c ∈ first :: rest, c.isAlphanum = true ∨ c = '_' := by
  unfold isClassName at named
  split at named
  · cases named
  · rename_i first rest same
    simp only [Bool.and_eq_true, List.all_eq_true, Bool.or_eq_true, decide_eq_true_eq] at named
    refine ⟨first, rest, same, named.1, fun c member => ?_⟩
    rcases List.mem_cons.mp member with rfl | inside
    · simp [Char.isAlphanum, named.1]
    · exact named.2 c inside

theorem writes_className {name : String} (named : isClassName name = true) :
    Writes name.toList [name.toList] := by
  obtain ⟨first, rest, same, -, all⟩ := className_chars named
  rw [same]
  refine writes_plain (List.cons_ne_nil first rest) fun c member => ?_
  rcases all c member with letter | rfl
  · exact isPlain_of_isAlphanum letter
  · decide

theorem render_writes (value : Double) :
    Writes (Double.Layout.exact.render value) [Double.Layout.exact.render value] := by
  unfold Double.Layout.render
  split
  · exact writes_plain (by decide) (List.all_eq_true.mp (by decide))
  · split
    · cases value.negative
      · exact writes_plain (by decide) (List.all_eq_true.mp (by decide))
      · exact writes_plain (by decide) (List.all_eq_true.mp (by decide))
    · rename_i finite
      have wellFormed : (Double.Layout.exact.numeral value).WellFormed :=
        Double.Layout.numeral_wellFormed _ (by simpa using finite)
      refine writes_plain ?_ fun c member => ?_
      · rw [Numeral.text_eq]
        simp [wellFormed.whole.1.1]
      · have part := wellFormed.isPart_of_mem member
        simp only [Numeral.isPart, Bool.or_eq_true, decide_eq_true_eq] at part
        rcases part with ((((digit | rfl) | rfl) | rfl) | rfl) | rfl
        · exact isPlain_of_isAlphanum (by simp [Char.isAlphanum, digit])
        all_goals decide

theorem classPathArgument_eq (filled : placement.classPath ≠ [])
    (colonless : ∀ entry ∈ placement.classPath, ':' ∉ entry.toList) :
    placement.classPathArgument = .ok ("-cp " ++ Shell.quote (":".intercalate placement.classPath)) := by
  rw [classPathArgument, if_neg (by simpa using filled), if_neg]
  simpa using colonless

theorem item_writes (found : placement.classPathArgument = .ok argument)
    (named : isClassName placement.className = true) {item : Item} (isWord : item.isWord = true)
    (needed : item = .classPath → placement.classPath ≠ []) :
    ∃ text, Template.expand (placement.bindings argument) item.pieces = .ok text ∧
      Writes text ((item.words placement).map String.toList) := by
  cases item with
  | literal text =>
    simp only [Item.isWord, Bool.and_eq_true, List.all_eq_true] at isWord
    refine ⟨text.toList, Template.expand_chars .., writes_plain ?_ isWord.2⟩
    simpa using isWord.1
  | source => exact ⟨_, Template.expand_slot (by simp [bindings]), writes_quote _⟩
  | binary => exact ⟨_, Template.expand_slot rfl, writes_quote _⟩
  | directory => exact ⟨_, Template.expand_slot rfl, writes_quote _⟩
  | className =>
    exact ⟨_, Template.expand_slot rfl, writes_className named⟩
  | classPath =>
    have filled := needed rfl
    refine ⟨argument.toList, Template.expand_slot rfl, ?_⟩
    have colonless : ∀ entry ∈ placement.classPath, ':' ∉ entry.toList := by
      simp only [classPathArgument, List.isEmpty_iff, filled, if_false] at found
      split at found
      · cases found
      · rename_i free
        simpa using free
    obtain rfl := Except.ok.inj (found.symm.trans (classPathArgument_eq filled colonless))
    rw [String.toList_append]
    exact (writes_plain (show "-cp".toList ≠ [] by decide)
      (List.all_eq_true.mp (by decide))).append (writes_quote _)

theorem line_writes (found : placement.classPathArgument = .ok argument)
    (named : isClassName placement.className = true) {items : List Item} (filled : items ≠ [])
    (areWords : ∀ item ∈ items, item.isWord = true)
    (needed : .classPath ∈ items → placement.classPath ≠ []) :
    ∃ text, Template.expand (placement.bindings argument) (Item.line items) = .ok text ∧
      Writes text ((items.flatMap (Item.words placement)).map String.toList) := by
  induction items with
  | nil => exact absurd rfl filled
  | cons item rest ih =>
    obtain ⟨text, expanded, writes⟩ := item_writes found named (areWords item List.mem_cons_self)
      fun same => needed (same ▸ List.mem_cons_self)
    cases rest with
    | nil => exact ⟨text, expanded, by simpa using writes⟩
    | cons next rest =>
      obtain ⟨tail, expandedTail, writesTail⟩ := ih (List.cons_ne_nil _ _)
        (fun item member => areWords item (List.mem_cons_of_mem _ member))
        fun member => needed (List.mem_cons_of_mem _ member)
      refine ⟨text ++ ' ' :: tail, ?_, ?_⟩
      · refine Template.expand_append expanded ?_
        rw [Template.expand, expandedTail, Except.map]
      · rw [List.flatMap_cons, List.map_append]
        exact writes.append writesTail

theorem rowCommand_writes {command : String} {words : List (List Char)}
    (writes : Writes command.toList words) (row : List Double) :
    Writes (Run.rowCommand command row).toList (words ++ row.map Double.Layout.exact.render) := by
  induction row generalizing command words with
  | nil => simpa [Run.rowCommand] using writes
  | cons value row ih =>
    have longer : Writes (command ++ " " ++ String.ofList (Double.Layout.exact.render value)).toList
        (words ++ [Double.Layout.exact.render value]) := by
      simp only [String.toList_append, String.toList_ofList, List.append_assoc]
      exact writes.append (render_writes value)
    have rest := ih longer
    rw [List.append_assoc] at rest
    exact rest

/-! ## Arguments -/

/-- With what a program is compiled. -/
def compileArguments (placement : Placement) : Language → Option (List String)
  | .c => some ["gcc", placement.source, "-std=c99", "-lm", "-o", placement.binary]
  | .go => some ["go", "build", "-o", placement.binary, placement.source]
  | .java => some ["javac", "-cp", ":".intercalate placement.classPath, "-d", placement.directory,
      placement.source]
  | .javaScript | .php | .ruby => none

/-- With what a program is run, before its data and the features of a row. -/
def runArguments (placement : Placement) : Language → List String
  | .c | .go => [placement.binary]
  | .java => ["java", "-cp", ":".intercalate placement.classPath, placement.className]
  | .javaScript => ["node", placement.source]
  | .php => ["php", placement.source]
  | .ruby => ["ruby", placement.source]

theorem compileArguments_eq (placement : Placement) (language : Language) :
    placement.compileArguments language =
      (compileItems language).map (·.flatMap (Item.words placement)) := by
  cases language <;> rfl

theorem runArguments_eq (placement : Placement) (language : Language) :
    placement.runArguments language = (executeItems language).flatMap (Item.words placement) := by
  cases language <;> rfl

theorem classPath_cases {host : Host} {language : Language} {packaging : Packaging} {files : Files}
    {directory : String} {entries : List String}
    (located : Run.classPath host (Toolchain.builtin language) packaging files directory =
      .ok entries) :
    (entries = [] ∧ compileItems language = none) ∨
    (entries = [directory] ∧ compileItems language ≠ none ∧
      ¬ (language = .java ∧ packaging = .exported)) ∨
    ∃ library, language = .java ∧ packaging = .exported ∧ entries = [directory, library] ∧
      Run.locateLibrary host Library.gson files directory = .ok library := by
  cases language with
  | java =>
    cases packaging with
    | exported =>
      obtain ⟨library, found, rfl⟩ := map_eq_ok.mp located
      exact .inr (.inr ⟨library, rfl, rfl, rfl, found⟩)
    | attached | combined =>
      cases located
      exact .inr (.inl ⟨rfl, by decide, by decide⟩)
  | c | go =>
    cases packaging <;> cases located <;> exact .inr (.inl ⟨rfl, by decide, by decide⟩)
  | javaScript | php | ruby =>
    cases located
    exact .inl ⟨rfl, rfl⟩

theorem binary_eq {program : Program} (directory : String) (entries : List String)
    (named : isClassName program.className = true) (flat : '/' ∉ program.extension.toList) :
    ∃ stem ending, program.sourceFile = stem ++ "." ++ ending ∧ '.' ∉ ending.toList ∧
      { ofProgram program directory with classPath := entries }.binary =
        Path.join directory stem := by
  obtain ⟨first, rest, className, letter, all⟩ := className_chars named
  have written : program.sourceFile.toList = first :: (rest ++ '.' :: program.extension.toList) := by
    rw [Program.sourceFile, String.toList_append, String.toList_append, className, List.append_assoc]
    rfl
  have flatName : '/' ∉ program.sourceFile.toList := by
    have flatClass : '/' ∉ first :: rest := fun member => absurd (all '/' member) (by decide)
    simp only [List.mem_cons, not_or] at flatClass
    simp [written, flatClass, flat]
  -- The last dot of the name; there is one behind the class name.
  obtain ⟨after, before, reversed, last⟩ :=
    List.eq_append_cons_of_mem (List.mem_reverse.mpr
      (show '.' ∈ program.sourceFile.toList by simp [written]))
  have parted : program.sourceFile.toList = before.reverse ++ '.' :: after.reverse := by
    rw [← List.reverse_reverse program.sourceFile.toList, reversed]
    simp
  have filled : before.reverse ≠ [] := by
    intro empty
    rw [empty, written] at parted
    obtain ⟨rfl, -⟩ := List.cons.inj parted
    exact absurd letter (by decide)
  have relative : ∀ text tail : List Char, text ≠ [] → text ++ tail = program.sourceFile.toList →
      Path.isAbsolute (String.ofList text) = false := by
    intro text tail filled same
    cases text with
    | nil => exact absurd rfl filled
    | cons c text =>
      have head : c ∈ program.sourceFile.toList := same ▸ List.mem_cons_self
      have other := ne_of_mem_of_not_mem head flatName
      simp [Path.isAbsolute, other]
  refine ⟨String.ofList before.reverse, String.ofList after.reverse, ?_, by simpa using last, ?_⟩
  · rw [← String.toList_inj]
    simp [parted]
  · have joined : Path.join directory program.sourceFile =
        String.ofList (Path.base directory ++ (before.reverse ++ '.' :: after.reverse)) := by
      have := relative program.sourceFile.toList [] (by simp [written]) (by simp)
      rw [String.ofList_toList] at this
      rw [← String.toList_inj, Path.toList_join this, String.toList_ofList, ← parted]
    rw [binary, ofProgram, joined, Path.withoutExtension_below filled (by simpa using last)
      (parted ▸ flatName), ← String.toList_inj, Path.toList_join (relative _ _ filled parted.symm)]
    · simp
    · rw [← parted, written]
      intro same
      obtain ⟨rfl, -⟩ := List.cons.inj same
      exact absurd letter (by decide)

theorem render_writes_items {command : String} {items : List Item}
    (cut : Template.pieces command.toList = Item.line items)
    (found : placement.classPathArgument = .ok argument)
    (named : isClassName placement.className = true) (filled : items ≠ [])
    (areWords : ∀ item ∈ items, item.isWord = true)
    (needed : .classPath ∈ items → placement.classPath ≠ []) :
    ∃ text, placement.render command = .ok text ∧
      Writes text.toList ((items.flatMap (Item.words placement)).map String.toList) := by
  obtain ⟨text, expanded, writes⟩ := line_writes found named filled areWords needed
  exact ⟨String.ofList text, render_of_expand found (cut ▸ expanded), by simpa using writes⟩

theorem compileItems_words {language : Language} {items : List Item}
    (compiled : compileItems language = some items) :
    items ≠ [] ∧ ∀ item ∈ items, item.isWord = true := by
  cases language <;> cases compiled <;> decide

theorem executeItems_words (language : Language) :
    executeItems language ≠ [] ∧ (∀ item ∈ executeItems language, item.isWord = true) ∧
      (.classPath ∈ executeItems language → compileItems language ≠ none) := by
  cases language <;> decide

theorem classPathArgument_succeeds
    (colonless : ∀ entry ∈ placement.classPath, ':' ∉ entry.toList) :
    ∃ argument, placement.classPathArgument = .ok argument := by
  by_cases filled : placement.classPath = []
  · exact ⟨"", by simp [classPathArgument, filled]⟩
  · exact ⟨_, classPathArgument_eq filled colonless⟩

theorem render_of_colon (colon : ∃ entry ∈ placement.classPath, ':' ∈ entry.toList)
    (command : String) : placement.render command = .error (.input .classPath) := by
  obtain ⟨entry, member, inside⟩ := colon
  have refused : placement.classPathArgument = .error (.input .classPath) := by
    rw [classPathArgument, if_neg (by simpa using List.ne_nil_of_mem member), if_pos]
    simpa using ⟨entry, member, inside⟩
  rw [render, refused]
  rfl

theorem runCommand_writes {toolchain : Toolchain} {command : String} {words : List (List Char)}
    (rendered : placement.render toolchain.execute = .ok command)
    (writes : Writes command.toList words) :
    ∃ whole, placement.runCommand toolchain = .ok whole ∧
      Writes whole.toList (words ++ (placement.data.map String.toList).toList) := by
  rw [runCommand, rendered, ok_bind]
  cases placement.data with
  | none => exact ⟨command, rfl, by simpa using writes⟩
  | some path =>
    refine ⟨command ++ " " ++ Shell.quote path, rfl, ?_⟩
    simp only [String.toList_append, List.append_assoc]
    exact writes.append (writes_quote path)

/-- The commands of a built-in toolchain carry their arguments and nothing else, whatever the
characters of the directory, of a library's path and of the extension. A colon in an entry of the
class path is refused before anything runs. -/
theorem commands_carry_arguments (language : Language) (program : Program) (directory : String)
    (host : Host) (files : Files) (entries : List String)
    (named : isClassName program.className = true) (flat : '/' ∉ program.extension.toList)
    (located : Run.classPath host (Toolchain.builtin language) program.packaging files directory =
      .ok entries) :
    let placement := { ofProgram program directory with classPath := entries }
    (∃ stem ending, program.sourceFile = stem ++ "." ++ ending ∧ '.' ∉ ending.toList ∧
      placement.binary = Path.join directory stem) ∧
    ((entries = [] ∧ (Toolchain.builtin language).compile = none) ∨ entries = [directory] ∨
      ∃ library, language = .java ∧ program.packaging = .exported ∧
        entries = [directory, library] ∧
        Run.locateLibrary host Library.gson files directory = .ok library) ∧
    ((∃ entry ∈ entries, ':' ∈ entry.toList) →
      ∀ template, placement.render template = .error (.input .classPath)) ∧
    ((∀ entry ∈ entries, ':' ∉ entry.toList) →
      (∀ template, (Toolchain.builtin language).compile = some template →
        ∃ command words, placement.render template = .ok command ∧
          placement.compileArguments language = some words ∧ split? command = some words) ∧
      ∃ command, placement.runCommand (Toolchain.builtin language) = .ok command ∧
        ∀ row : List Double,
          split? (Run.rowCommand command row) =
            some (placement.runArguments language ++
              (program.dataFile.map (Path.join directory)).toList ++
              row.map fun value => String.ofList (Double.Layout.exact.render value)) ∧
          ∀ value ∈ row, value.isFinite = true →
            Double.ofText? (Double.Layout.exact.render value) = some value) := by
  intro placement
  have cases := classPath_cases located
  have compiled : compileItems language ≠ none → placement.classPath ≠ [] := by
    intro compiles empty
    rcases cases with ⟨-, none⟩ | ⟨same, -⟩ | ⟨library, -, -, same, -⟩
    · exact compiles none
    · exact absurd (same.symm.trans empty) (by simp)
    · exact absurd (same.symm.trans empty) (by simp)
  have cutCompile := compile_pieces language
  refine ⟨binary_eq directory entries named flat, ?_, fun colon => render_of_colon colon, ?_⟩
  · rcases cases with ⟨empty, none⟩ | ⟨same, -⟩ | library
    · refine .inl ⟨empty, ?_⟩
      rw [none] at cutCompile
      simpa using cutCompile
    · exact .inr (.inl same)
    · exact .inr (.inr library)
  · intro colonless
    obtain ⟨argument, found⟩ := @classPathArgument_succeeds placement colonless
    refine ⟨?_, ?_⟩
    · intro template isTemplate
      rw [isTemplate, Option.map_some] at cutCompile
      obtain ⟨items, isItems, cut⟩ := Option.map_eq_some_iff.mp cutCompile.symm
      obtain ⟨filled, areWords⟩ := compileItems_words isItems
      obtain ⟨command, rendered, writes⟩ := render_writes_items cut.symm found named filled areWords
        fun _ => compiled (by simp [isItems])
      refine ⟨command, items.flatMap (Item.words placement), rendered, ?_, ?_⟩
      · rw [compileArguments_eq, isItems, Option.map_some]
      · simpa using writes.split
    · obtain ⟨filled, areWords, needed⟩ := executeItems_words language
      obtain ⟨start, rendered, writes⟩ := render_writes_items (execute_pieces language) found named
        filled areWords fun member => compiled (needed member)
      obtain ⟨command, ready, writes⟩ := runCommand_writes rendered writes
      refine ⟨command, ready, fun row => ⟨?_, fun value _ finite => ?_⟩⟩
      · have words := (rowCommand_writes writes row).split
        rw [String.ofList_toList] at words
        have data : placement.data = program.dataFile.map (Path.join directory) := rfl
        rw [words, runArguments_eq, data]
        cases program.dataFile <;> simp [Function.comp_def]
      · exact Double.Layout.ofText?_render _ finite

/-- A directory with a quote, blanks, a dollar sign and what looks like a slot. -/
def oddDirectory : String := "it's $\x7b\x7bsrc_path\x7d\x7d\\ "

def oddProgram : Program := ⟨"Model", .java, .exported, .predict, "java", "", some "\x7b\x7d"⟩

theorem commands_carry_arguments_odd :
    ∃ command,
      { ofProgram oddProgram oddDirectory with
        classPath := [oddDirectory, "lib dir/gson.jar"] }.runCommand (Toolchain.builtin .java) =
          .ok command ∧
      split? (Run.rowCommand command [⟨true, 1023, 0⟩]) =
        some ["java", "-cp", "it's $\x7b\x7bsrc_path\x7d\x7d\\ :lib dir/gson.jar", "Model",
          "it's $\x7b\x7bsrc_path\x7d\x7d\\ /Model.json", "-1.0"] := by
  obtain ⟨-, -, -, commands⟩ := commands_carry_arguments .java oddProgram oddDirectory
    { environment := [("PORTER_GSON_PATH", "lib dir/gson.jar")] } ⟨[], #[], [], 0o022, 0⟩
    [oddDirectory, "lib dir/gson.jar"] (by decide) (by decide) rfl
  obtain ⟨-, command, ready, carries⟩ := commands (by decide)
  refine ⟨command, ready, (carries [⟨true, 1023, 0⟩]).1.trans ?_⟩
  decide +kernel

end Placement

end Modelsmith
