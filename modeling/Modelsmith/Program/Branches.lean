import Modelsmith.Tree.Branches
import Modelsmith.Program.Literal

/-! The branches of a tree as source text. -/

set_option autoImplicit false

namespace Modelsmith

def Tree.Relation.operator : Tree.Relation → String
  | .atMost => "<="
  | .above => ">"

def Tree.Line.text (dialect : Dialect) (converter : Converter) :
    Tree.Line → Except RenderFault String
  | .test feature relation threshold => do
    dialect.render "if" [("features", dialect.sigil ++ "features"),
      ("index", Literal.intText feature), ("op", relation.operator),
      ("threshold", ← converter threshold)]
  | .otherwise => dialect.text "else"
  | .close => dialect.text "endif"
  | .assign class_ count => do
    let assign ← dialect.render "assign" [("classes", dialect.sigil ++ "classes"),
      ("index", Literal.intText class_), ("value", Literal.intText count)]
    return assign ++ (← dialect.text "join")

namespace Branches

def indentation (dialect : Dialect) (depth : Nat) : Except RenderFault (List Char) :=
  match dialect.depth with
  | none => .ok []
  | some base => do
    let indent ← dialect.text "indent"
    return (List.replicate (base + depth) indent.toList).flatten

def layout (dialect : Dialect) (converter : Converter) :
    List (Nat × Tree.Line) → Except RenderFault (List Char)
  | [] => .ok []
  | (depth, line) :: rest => do
    let text ← line.text dialect converter
    let indent ← indentation dialect depth
    return '\n' :: indent ++ text.toList ++ (← layout dialect converter rest)

/-- The branches of a tree, to be put after the indentation of the first line. Every split has its
threshold converted, be there a line for it or not. -/
def text (dialect : Dialect) (converter : Converter) (tree : Tree) :
    Except RenderFault String := do
  let _ ← (tree.thresholdsFrom tree.size 0).mapM converter
  let lines ← layout dialect converter tree.branchLines
  return String.ofList (Text.trimStart lines)

end Branches

end Modelsmith
