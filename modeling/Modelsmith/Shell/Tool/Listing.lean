import Modelsmith.Shell.Tool.Content

/-! Programs that tell what there is. -/

set_option autoImplicit false

namespace Modelsmith.Shell.Tool

inductive Marks where
  | none
  | directories
  | all
  deriving DecidableEq

structure Listing where
  unsorted : Bool := false
  marks : Marks := .none
  all : Bool := false
  almostAll : Bool := false
  reversed : Bool := false
  itself : Bool := false
  deep : Bool := false
  through : Bool := false

structure Entry where
  name : Octets
  path : Octets
  node : Files.Node

def Listing.sorted (listing : Listing) (entries : List Entry) : List Entry :=
  let sorted := if listing.unsorted then entries
    else entries.mergeSort fun left right => Text.precedes left.name right.name
  if listing.reversed then sorted.reverse else sorted

def Marks.of (marks : Marks) (node : Files.Node) : Octets :=
  match marks, node.kind with
  | .none, _ => []
  | _, .directory => ['/']
  | .directories, _ => []
  | .all, .file _ => if node.mode &&& Files.Mode.forEach 1 = 0 then [] else ['*']
  | _, .link _ => ['@']
  | _, .pipe _ => ['|']
  | _, .device _ => []

def kindLetter (node : Files.Node) : Char :=
  match node.kind with
  | .file _ => '-'
  | .directory => 'd'
  | .link _ => 'l'
  | .device _ => 'c'
  | .pipe _ => 'p'

def Listing.lines (listing : Listing) (entries : List Entry) : List Octets :=
  entries.map fun entry => entry.name ++ listing.marks.of entry.node

def Listing.isShown (listing : Listing) (name : Octets) : Bool :=
  listing.all || listing.almostAll || name.head? ≠ some '.'

def Listing.entry? (listing : Listing) (files : Files) (path name : Octets) : Option Entry := do
  let text := Text.ofOctets path
  let linked ← (files.findLink text).toOption
  let (_, node) := if listing.through then ((files.find text).toOption).getD linked else linked
  return ⟨name, path, node⟩

def directoryLines (files : Files) (listing : Listing) (header : Bool) :
    (fuel : Nat) → Octets → List Octets × List (Octets × FileFault)
  | 0, _ => ([], [])
  | fuel + 1, path =>
    match files.namesIn (Text.ofOctets path) with
    | .error fault => ([], [(path, fault)])
    | .ok names =>
      let names := (names.map Text.octets).filter listing.isShown
      let names := if listing.all then ['.'] :: ['.', '.'] :: names else names
      let entries := listing.sorted <| names.map fun name =>
        (listing.entry? files (inside path name) name).getD
          ⟨name, inside path name, { kind := .file [], mode := 0 }⟩
      let own := (if header then [path ++ [':']] else []) ++ listing.lines entries
      if !listing.deep then (own, [])
      else
        let below := (entries.filter fun entry =>
          entry.name ≠ ['.'] && entry.name ≠ ['.', '.'] && entry.node.isDirectory).map fun entry =>
            directoryLines files listing true fuel entry.path
        (own ++ below.flatMap fun (lines, _) => if lines.isEmpty then [] else [] :: lines,
          below.flatMap Prod.snd)

def listingOf (found : Found) : Listing :=
  let last (letters : String) : Option Char :=
    (found.options.reverse.find? fun (letter, _) => letters.toList.contains letter).map Prod.fst
  { unsorted := found.has 'U' || found.has 'f'
    marks := match last "Fp" with
      | some 'F' => .all
      | some _ => .directories
      | none => .none
    all := last "aAf" = some 'a' || last "aAf" = some 'f'
    almostAll := found.has 'A'
    reversed := found.has 'r'
    itself := found.has 'd'
    deep := found.has 'R' && !found.has 'd'
    through := found.has 'L' }

def lsOptions : Options where
  letters := "1aAdfFLNprRU"
  valued := ""
  long := [("all", 'a'), ("almost-all", 'A'), ("directory", 'd'), ("classify", 'F'),
    ("dereference", 'L'), ("literal", 'N'), ("reverse", 'r'), ("recursive", 'R')]

def ls : Tool := fun arguments =>
  withOptions lsOptions 2 arguments fun found => do
    let listing := listingOf found
    let operands := if found.operands.isEmpty then [['.']] else found.operands
    let files ← Step.files
    let mut status := 0
    for path in operands do
      match files.findLink (Text.ofOctets path) with
      | .error fault =>
        complainOf "cannot access" path fault
        status := 2
      | .ok _ => pure ()
    let stays := listing.marks = .all
    let isDirectory (path : Octets) : Bool :=
      let name := Text.ofOctets path
      let isLink := (files.findLink name).toOption.any fun (_, node) => node.isLink
      files.isDirectory name && !(isLink && stays && !listing.through)
    let entries := operands.filterMap fun path => listing.entry? files path path
    let (directories, plain) := entries.partition fun entry =>
      !listing.itself && isDirectory entry.path
    let own := listing.lines (listing.sorted plain)
    let header := 1 < operands.length || listing.deep
    let results := (listing.sorted directories).map fun entry =>
      directoryLines files listing header (files.names.length + 1) entry.path
    for (path, fault) in results.flatMap Prod.snd do
      complainOf "cannot open directory" path fault
      status := 2
    let blocks := (results.map Prod.fst).filter fun lines => !(header && lines.isEmpty)
    let blocks := if own.isEmpty then blocks else own :: blocks
    let shown := (blocks.intersperse [[]]).flatten
    if !shown.isEmpty then Step.print (shown.flatMap (· ++ ['\n']))
    return status

end Modelsmith.Shell.Tool
