import Modelsmith.Digest.Checksum
import Modelsmith.Shell.Tool.Basic

/-! Sums of files. -/

set_option autoImplicit false

namespace Modelsmith.Shell.Tool

def shortSum? (algorithm : String) : Option (Octets → Octets) :=
  let blocks (size : Nat) (text : Octets) : Nat := (text.length + size - 1) / size
  let right (width : Nat) (fill : Char) (digits : Octets) : Octets :=
    List.replicate (width - digits.length) fill ++ digits
  match algorithm with
  | "bsd" => some fun text =>
    right 5 '0' (natText (Digest.Checksum.turned text)) ++ ' ' ::
      right 5 ' ' (natText (blocks 1024 text))
  | "sysv" => some fun text =>
    natText (Digest.Checksum.plain text) ++ ' ' :: natText (blocks 512 text)
  | "crc" => some fun text => natText (Digest.Checksum.cyclic text) ++ ' ' :: natText text.length
  | _ => none

def sumShort (found : Found) (sum : Octets → Octets) : Step Nat := do
  let ender := if found.has 'z' then '\x00' else '\n'
  if found.operands.isEmpty then
    match ← content ['-'] with
    | .ok text =>
      Step.print (sum text ++ [ender])
      return 0
    | .error reason =>
      complain ("-: " ++ reason)
      return 1
  let mut status := 0
  for path in found.operands do
    match ← content path with
    | .ok text => Step.print (sum text ++ ' ' :: path ++ [ender])
    | .error reason =>
      complain (shown path ++ ": " ++ reason)
      status := 1
  return status

def sum : Tool := optioned ⟨"rs", "", [("sysv", 's')]⟩ 1 fun found => do
  let last := (found.options.map Prod.fst).getLast?
  match shortSum? (if last = some 's' then "sysv" else "bsd") with
  | some act => sumShort found act
  | none => return 1

def cksum : Tool := fun arguments =>
  withOptions ⟨"Uz", "a", [("algorithm", 'a'), ("untagged", 'U'), ("zero", 'z')]⟩ 1 arguments
    fun found => do
    match ← chosen "--algorithm" (["bsd", "sysv", "crc"].map fun name => (name, name))
      ((found.value? 'a').getD "crc") with
    | none => return 1
    | some algorithm =>
      match shortSum? algorithm with
      | some act => sumShort found act
      | none => return 1

end Modelsmith.Shell.Tool
