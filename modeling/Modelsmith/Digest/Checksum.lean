import Modelsmith.Text.Utf8

/-! Short sums of octets. -/

set_option autoImplicit false

namespace Modelsmith.Digest.Checksum

def remainder (octet : Nat) : UInt32 :=
  (List.range 8).foldl
    (fun value _ => if value &&& 0x80000000 ≠ 0 then (value <<< 1) ^^^ 0x04c11db7 else value <<< 1)
    (octet.toUInt32 <<< 24)

def remainders : Array UInt32 := (Array.range 256).map remainder

def shiftIn (value : UInt32) (octet : Nat) : UInt32 :=
  (value <<< 8) ^^^ remainders.getD ((value >>> 24).toNat ^^^ octet) 0

def lengthOctets : (fuel : Nat) → Nat → List Nat
  | 0, _ => []
  | fuel + 1, length => if length = 0 then [] else length % 256 :: lengthOctets fuel (length / 256)

def cyclic (octets : Octets) : Nat :=
  let value := octets.foldl (fun value c => shiftIn value c.toNat) 0
  let value := (lengthOctets 16 octets.length).foldl shiftIn value
  (~~~value).toNat

def turned (octets : Octets) : Nat :=
  octets.foldl (fun sum c => (sum / 2 + sum % 2 * 32768 + c.toNat) % 65536) 0

def plain (octets : Octets) : Nat :=
  let sum := (octets.foldl (fun sum c => sum + c.toNat) 0) % 2 ^ 32
  let folded := sum % 65536 + sum / 65536
  folded % 65536 + folded / 65536

end Modelsmith.Digest.Checksum
