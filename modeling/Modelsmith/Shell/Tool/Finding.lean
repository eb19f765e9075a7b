import Modelsmith.Shell.Tool.Listing

/-! Files by what holds of them. -/

set_option autoImplicit false

namespace Modelsmith.Shell.Tool

namespace Finding

inductive Rule where
  | named (pattern : Pattern) (ignoreCase : Bool)
  | located (pattern : Pattern)
  | kind (letters : List Char)
  | empty
  | print
  | delete
  | not (rule : Rule)

structure Query where
  rules : List Rule := []
  most : Option Nat := none
  least : Nat := 0
  depthFirst : Bool := false

def pattern (text : Octets) : Pattern := Pattern.compile (text.map (·, false))

def Query.acts (query : Query) : Bool := query.rules.any fun
  | .print | .delete => true
  | _ => false

/-- The rule a test stands for, and what is left of the arguments. -/
def rule (test : Octets) (rest : List Octets) : Except Octets (Rule × List Octets) := do
  let argument : Except Octets Octets := match rest with
    | text :: _ => .ok text
    | [] => .error ("missing argument to \x60" ++ test ++ ['\x27'])
  match String.ofList test with
  | "-name" => return (.named (pattern (← argument)) false, rest.tail)
  | "-iname" => return (.named (pattern ((← argument).map Char.toLower)) true, rest.tail)
  | "-path" => return (.located (pattern (← argument)), rest.tail)
  | "-type" =>
    let letters := (Expansion.splitOnChar ',' (← argument)).flatten
    match letters.find? fun c => !"bcdpflsD".toList.contains c with
    | some c => throw ("Unknown argument to -type: ".toList ++ [c])
    | none => return (.kind letters, rest.tail)
  | "-empty" => return (.empty, rest)
  | "-print" => return (.print, rest)
  | "-delete" => return (.delete, rest)
  | text =>
    if text.startsWith "-" then throw ("unknown predicate \x60" ++ test ++ ['\x27'])
    else throw ("paths must precede expression: \x60" ++ test ++ ['\x27'])

def depth (test : Octets) : List Octets → Except Octets Nat
  | [] => .error ("missing argument to \x60" ++ test ++ ['\x27'])
  | text :: _ =>
    match natural? text with
    | some value => .ok value
    | none => .error ("Expected a positive decimal integer argument to " ++ test ++
        ", but got " ++ inMarks text)

def query : (fuel : Nat) → List Octets → Query → Except Octets Query
  | fuel + 1, test :: rest, done => do
    match String.ofList test with
    | "-maxdepth" => query fuel rest.tail { done with most := some (← depth test rest) }
    | "-mindepth" => query fuel rest.tail { done with least := ← depth test rest }
    | "-depth" => query fuel rest { done with depthFirst := true }
    | "-a" => query fuel rest done
    | "!" | "-not" =>
      match rest with
      | [] => throw ("expected an expression after " ++ inMarks test)
      | test :: rest =>
        let (rule, rest) ← rule test rest
        query fuel rest { done with rules := done.rules ++ [.not rule] }
    | _ =>
      let (rule, rest) ← rule test rest
      query fuel rest { done with
        rules := done.rules ++ [rule], depthFirst := done.depthFirst || rule matches .delete }
  | _, _, done => .ok (if done.acts then done else { done with rules := done.rules ++ [.print] })

structure Item where
  path : Octets
  depth : Nat
  location : Files.Location
  node : Files.Node

def holds (item : Item) : Rule → Step Bool
  | .named pattern ignoreCase => do
    let name := lastName item.path
    let name := if name.isEmpty && !item.path.isEmpty then ['/'] else name
    return pattern.matches (if ignoreCase then name.map Char.toLower else name)
  | .located pattern => return pattern.matches item.path
  | .kind letters =>
    return letters.contains (if item.node.isFile then 'f' else kindLetter item.node)
  | .empty => do
    match item.node.kind with
    | .directory => return ((← Step.files).namesAt item.location).isEmpty
    | .file content => return content.isEmpty
    | _ => return false
  | .print => do
    Step.printLine item.path
    return true
  | .delete => do
    if item.path = ['.'] then return true
    let files ← Step.files
    let path := Text.ofOctets item.path
    match if item.node.isDirectory then files.removeEmpty path else files.unlink path with
    | .ok files =>
      Step.setFiles files
      return true
    | .error fault =>
      complain ("cannot delete " ++ quoted item.path ++ ": " ++ fault.reason)
      return false
  | .not rule => return !(← holds item rule)

def visit (query : Query) : (fuel : Nat) → Item → Step Nat
  | 0, _ => return 0
  | fuel + 1, item => do
    let look : Step Unit := do
      if query.least ≤ item.depth then
        let _ ← query.rules.allM (holds item)
    let below : Step Nat := do
      if !item.node.isDirectory || query.most.any (· ≤ item.depth) then return 0
      let files ← Step.files
      match files.namesIn (Text.ofOctets item.path) with
      | .error fault =>
        complain (quoted item.path ++ ": " ++ fault.reason)
        return 1
      | .ok names =>
        let mut status := 0
        for name in names.mergeSort fun left right => decide (left ≤ right) do
          let path := inside item.path (Text.octets name)
          match files.findLink (Text.ofOctets path) with
          | .ok (location, node) =>
            status := max status (← visit query fuel ⟨path, item.depth + 1, location, node⟩)
          | .error fault =>
            complain (quoted path ++ ": " ++ fault.reason)
            status := 1
        return status
    if query.depthFirst then
      let status ← below
      look
      return status
    look
    below

end Finding

def find : Tool := fun arguments => do
  let isRule (text : Octets) : Bool :=
    (text.head? = some '-' && 1 < text.length) || text = ['!']
  let paths := arguments.takeWhile fun text => !isRule text
  match Finding.query (arguments.length + 1) (arguments.drop paths.length) {} with
  | .error text =>
    complain text
    return 1
  | .ok query =>
    let mut status := 0
    for path in if paths.isEmpty then [['.']] else paths do
      match (← Step.files).findLink (Text.ofOctets path) with
      | .ok (location, node) =>
        status := max status (← Finding.visit query Files.pathLimit ⟨path, 0, location, node⟩)
      | .error fault =>
        complain (quoted path ++ ": " ++ fault.reason)
        status := 1
    return status

end Modelsmith.Shell.Tool
