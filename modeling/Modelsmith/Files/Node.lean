import Modelsmith.Text.Utf8

/-! What a file system keeps under its names. -/

set_option autoImplicit false

namespace Modelsmith.Files

inductive Device where
  | null
  | zero
  | full
  | terminal
  /-- What the process that asks has open. -/
  | descriptor (number : Nat)
  deriving DecidableEq

inductive Kind where
  | file (content : Octets)
  | directory
  | link (target : String)
  | device (device : Device)
  /-- What was written to a pipe with a name and not read yet. -/
  | pipe (content : Octets)
  deriving DecidableEq

inductive Access where
  | read
  | write
  | search
  deriving DecidableEq

def Access.bit : Access → Nat
  | .read => 4
  | .write => 2
  | .search => 1

structure Node where
  kind : Kind
  /-- What the owner, the group and others may do, three bits each, below three more bits. -/
  mode : Nat
  owned : Bool := true
  time : Int := 0
  deriving DecidableEq

namespace Node

/-- Whether the user may do something. Only the bits of one class count: those of the owner, or
those of others. -/
def allows (node : Node) (access : Access) : Bool :=
  let share := if node.owned then node.mode / 64 else node.mode
  share / access.bit % 2 = 1

def isDirectory (node : Node) : Bool :=
  match node.kind with
  | .directory => true
  | _ => false

def isFile (node : Node) : Bool :=
  match node.kind with
  | .file _ => true
  | _ => false

def isLink (node : Node) : Bool :=
  match node.kind with
  | .link _ => true
  | _ => false

def isPipe (node : Node) : Bool :=
  match node.kind with
  | .pipe _ => true
  | _ => false

def content? (node : Node) : Option Octets :=
  match node.kind with
  | .file content => some content
  | _ => none

end Node

end Modelsmith.Files
