/-! Path texts. A path keeps its spelling; two spellings name one path when their parts agree. -/

set_option autoImplicit false

namespace Modelsmith.Path

def splitSlashes : List Char → List (List Char)
  | [] => [[]]
  | c :: rest =>
    if c = '/' then [] :: splitSlashes rest
    else
      match splitSlashes rest with
      | part :: parts => (c :: part) :: parts
      | [] => [[c]]

def isAbsolute (path : String) : Bool := path.toList.head? = some '/'

def names (path : String) : List String :=
  ((splitSlashes path.toList).filter (· ≠ [])).map String.ofList

/-- What two spellings of one path have in common: a leading `.` counts, others do not. -/
def parts (path : String) : List String :=
  let lead :=
    if isAbsolute path then ["/"]
    else if ((splitSlashes path.toList).head?.getD []) = ['.'] then ["."]
    else []
  lead ++ (names path).filter (· ≠ ".")

def same (left right : String) : Bool := parts left = parts right

/-- A path below another; an absolute path stands alone. -/
def join (base path : String) : String :=
  if isAbsolute path || base = "" then path
  else if base.toList.getLast? = some '/' then base ++ path
  else base ++ "/" ++ path

def splitLast (path : List Char) : List Char × List Char :=
  let name := (path.reverse.takeWhile (· ≠ '/')).reverse
  (path.take (path.length - name.length), name)

def dropTrailing : List Char → List Char
  | '/' :: rest => dropTrailing rest
  | '.' :: '/' :: rest => dropTrailing rest
  | rest => rest

def trimmed (path : List Char) : List Char := (dropTrailing path.reverse).reverse

/-- The path without the last extension of its name. A name that only starts with a dot has no
extension. -/
def withoutExtension (path : String) : String :=
  let (directory, name) := splitLast (trimmed path.toList)
  if name = [] ∨ name = ['.', '.'] then path
  else
    let stem := (name.reverse.dropWhile (· ≠ '.')).drop 1 |>.reverse
    String.ofList (directory ++ if stem = [] then name else stem)

/-- The path one step up; none above the root or the empty path. -/
def parent? (path : String) : Option String :=
  let (directory, name) := splitLast (trimmed path.toList)
  if name = [] then none
  else
    let above := trimmed directory
    some (String.ofList (if above = [] ∧ directory ≠ [] then ['/'] else above))

def endsInSlash (path : String) : Bool := path.toList.getLast? = some '/'

end Modelsmith.Path
