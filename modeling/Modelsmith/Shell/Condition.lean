import Modelsmith.Shell.Arithmetic

/-! Conditions on texts, numbers and files. -/

set_option autoImplicit false

namespace Modelsmith.Shell.Condition

inductive Unary where
  | empty
  | nonEmpty
  | terminal
  | «exists»
  | regular
  | directory
  | readable
  | writable
  | executable
  | nonEmptyFile
  | device
  | pipe
  | link
  | owned
  | marked (bit : Nat)
  | never
  deriving DecidableEq

inductive Binary where
  | same
  | different
  | before
  | after
  | equal
  | unequal
  | less
  | lessEqual
  | greater
  | greaterEqual
  | newer
  | older
  | sameFile
  deriving DecidableEq

inductive Operator where
  | unary (operator : Unary)
  | binary (operator : Binary)
  | not
  | and
  | or
  | open
  | close
  deriving DecidableEq

def operator? (text : Octets) : Option Operator :=
  match String.ofList text with
  | "-z" => some (.unary .empty)
  | "-n" => some (.unary .nonEmpty)
  | "-t" => some (.unary .terminal)
  | "-e" => some (.unary .exists)
  | "-f" => some (.unary .regular)
  | "-d" => some (.unary .directory)
  | "-r" => some (.unary .readable)
  | "-w" => some (.unary .writable)
  | "-x" => some (.unary .executable)
  | "-s" => some (.unary .nonEmptyFile)
  | "-c" => some (.unary .device)
  | "-O" | "-G" => some (.unary .owned)
  | "-p" => some (.unary .pipe)
  | "-h" | "-L" => some (.unary .link)
  | "-u" => some (.unary (.marked 0o4000))
  | "-g" => some (.unary (.marked 0o2000))
  | "-k" => some (.unary (.marked 0o1000))
  | "-b" | "-S" => some (.unary .never)
  | "=" => some (.binary .same)
  | "!=" => some (.binary .different)
  | "<" => some (.binary .before)
  | ">" => some (.binary .after)
  | "-eq" => some (.binary .equal)
  | "-ne" => some (.binary .unequal)
  | "-lt" => some (.binary .less)
  | "-le" => some (.binary .lessEqual)
  | "-gt" => some (.binary .greater)
  | "-ge" => some (.binary .greaterEqual)
  | "-nt" => some (.binary .newer)
  | "-ot" => some (.binary .older)
  | "-ef" => some (.binary .sameFile)
  | "!" => some .not
  | "-a" => some .and
  | "-o" => some .or
  | "(" => some .open
  | ")" => some .close
  | _ => none

def isBinary (text : Octets) : Bool :=
  match operator? text with
  | some (.binary _) => true
  | _ => false

def leading (texts : List Octets) : Option Operator :=
  match texts with
  | [] => none
  | first :: rest =>
    match operator? first, rest with
    | some (.unary _), [] => none
    | some (.unary operator), [_] => some (.unary operator)
    | some (.unary operator), next :: _ => if isBinary next then none else some (.unary operator)
    | some .open, [] => none
    | found, _ => found

def number (text : Octets) : Step Int :=
  match Arithmetic.integer? (some 10) false text with
  | some value => return value
  | none => Step.refuse ("Illegal number: " ++ text)

def isNonEmpty (node : Files.Node) : Bool :=
  match node.kind with
  | .file content => !content.isEmpty
  | .directory => true
  | .link _ | .device _ | .pipe _ => false

def unary (operator : Unary) (text : Octets) : Step Bool := do
  let path := Text.ofOctets text
  let files ← Step.files
  let isThere (rule : Files.Node → Bool) : Bool := (files.lookup path).toOption.any rule
  match operator with
  | .empty => return text.isEmpty
  | .nonEmpty => return !text.isEmpty
  | .terminal =>
    let _ ← number text
    return false
  | .exists => return isThere fun _ => true
  | .readable => return isThere (·.allows .read)
  | .writable => return isThere (·.allows .write)
  | .executable => return isThere (·.allows .search)
  | .owned => return isThere Files.Node.owned
  | .device =>
    return isThere fun node =>
      match node.kind with
      | .device _ => true
      | _ => false
  | .pipe =>
    return isThere fun node =>
      match node.kind with
      | .pipe _ => true
      | _ => false
  | .link => return (files.findLink path).toOption.any fun (_, node) => node.isLink
  | .marked bit => return isThere fun node => node.mode / bit % 2 = 1
  | .never => return false
  | .regular => return isThere Files.Node.isFile
  | .directory => return isThere Files.Node.isDirectory
  | .nonEmptyFile => return isThere isNonEmpty

def binary (operator : Binary) (left right : Octets) : Step Bool := do
  match operator with
  | .same => return left = right
  | .different => return left ≠ right
  | .before => return left ≠ right && Text.precedes left right
  | .after => return left ≠ right && Text.precedes right left
  | .newer | .older | .sameFile =>
    let files ← Step.files
    match files.find (Text.ofOctets left), files.find (Text.ofOctets right) with
    | .ok (first, former), .ok (second, latter) =>
      match operator with
      | .newer => return latter.time < former.time
      | .older => return former.time < latter.time
      | _ => return files.number? first = files.number? second
    | _, _ => return false
  | _ =>
    let left ← number left
    let right ← number right
    match operator with
    | .equal => return left = right
    | .unequal => return left ≠ right
    | .less => return left < right
    | .lessEqual => return left ≤ right
    | .greater => return right < left
    | _ => return right ≤ left

def fail {α : Type} (text : Octets) (reason : String) : Step α :=
  Step.refuse (if text.isEmpty then reason.toList else text ++ ": " ++ reason)

mutual

def anyOf (first : Option Operator) (texts : List Octets) :
    (fuel : Nat) → Step (Bool × List Octets)
  | 0 => return (false, texts)
  | fuel + 1 => do
    let (value, texts) ← allOf first texts fuel
    if leading texts.tail = some .or then
      let rest := texts.drop 2
      let (other, texts) ← anyOf (leading rest) rest fuel
      return (value || other, texts)
    return (value, texts)

def allOf (first : Option Operator) (texts : List Octets) :
    (fuel : Nat) → Step (Bool × List Octets)
  | 0 => return (false, texts)
  | fuel + 1 => do
    let (value, texts) ← negated first texts fuel
    if leading texts.tail = some .and then
      let rest := texts.drop 2
      let (other, texts) ← allOf (leading rest) rest fuel
      return (value && other, texts)
    return (value, texts)

def negated (first : Option Operator) (texts : List Octets) :
    (fuel : Nat) → Step (Bool × List Octets)
  | 0 => return (false, texts)
  | fuel + 1 => do
    if first ≠ some .not then primary first texts fuel
    else
      match texts.tail with
      | [] => return (true, texts)
      | rest =>
        let (value, texts) ← negated (leading rest) rest fuel
        return (!value, texts)

def primary (first : Option Operator) (texts : List Octets) :
    (fuel : Nat) → Step (Bool × List Octets)
  | 0 => return (false, texts)
  | fuel + 1 => do
    match texts with
    | [] => return (false, [])
    | text :: rest =>
      match first with
      | some .open =>
        match leading rest with
        | some .close => return (false, rest)
        | next =>
          let (value, texts) ← anyOf next rest fuel
          let texts := texts.tail
          if leading texts ≠ some .close then fail [] "closing paren expected"
          return (value, texts)
      | some (.unary operator) =>
        match rest with
        | [] => fail text "argument expected"
        | operand :: _ => return (← unary operator operand, rest)
      | _ =>
        match leading rest, rest with
        | some (.binary operator), sign :: after =>
          match after with
          | [] => fail sign "argument expected"
          | right :: _ => return (← binary operator text right, after)
        | _, _ => return (!text.isEmpty, texts)

end

def evaluate (first : Option Operator) (texts : List Octets) : Step Bool := do
  let (value, left) ← anyOf first texts (8 * (texts.length + 2))
  match left with
  | text :: _ :: _ => fail text "unexpected operator"
  | _ => return value

def holds : List Octets → Step Bool
  | [] => return false
  | [first, second, third] =>
    if isBinary second then evaluate none [first, second, third]
    else if first = ['('] && third = [')'] then evaluate (leading [second]) [second]
    else if first = ['!'] then do return !(← holds [second, third])
    else evaluate (leading [first, second, third]) [first, second, third]
  | [first, second, third, fourth] =>
    if first = ['('] && fourth = [')'] then evaluate (leading [second, third]) [second, third]
    else if first = ['!'] then do return !(← holds [second, third, fourth])
    else
      let texts := [first, second, third, fourth]
      evaluate (leading texts) texts
  | texts => evaluate (leading texts) texts

end Modelsmith.Shell.Condition
