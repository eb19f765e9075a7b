import Modelsmith.Instances

/-! Octets of texts.

An octet is a character with a code below 256, so ASCII texts are their own octets. Decoding takes
every sequence of octets: what begins a character and does not complete it becomes one replacement
character.
-/

set_option autoImplicit false

namespace Modelsmith

abbrev Octets := List Char

instance : Coe String Octets := ⟨String.toList⟩

namespace Text.Utf8

def encodeChar (c : Char) : Octets :=
  let code := c.toNat
  let tail (shift : Nat) : Nat := 0x80 + code / 2 ^ shift % 64
  let codes : List Nat :=
    if code < 0x80 then [code]
    else if code < 0x800 then [0xC0 + code / 64, tail 0]
    else if code < 0x10000 then [0xE0 + code / 4096, tail 6, tail 0]
    else [0xF0 + code / 262144, tail 12, tail 6, tail 0]
  codes.map Char.ofNat

def encode (text : List Char) : Octets := text.flatMap encodeChar

/-- A character that has begun: how many octets it still needs, the bounds of the next one, and
its bits so far. -/
structure Pending where
  needed : Nat
  low : Nat
  high : Nat
  bits : Nat

def pending? (octet : Nat) : Option Pending :=
  if 0xC2 ≤ octet ∧ octet ≤ 0xDF then some ⟨1, 0x80, 0xBF, octet % 32⟩
  else if octet = 0xE0 then some ⟨2, 0xA0, 0xBF, 0⟩
  else if octet = 0xED then some ⟨2, 0x80, 0x9F, 13⟩
  else if 0xE1 ≤ octet ∧ octet ≤ 0xEF then some ⟨2, 0x80, 0xBF, octet % 16⟩
  else if octet = 0xF0 then some ⟨3, 0x90, 0xBF, 0⟩
  else if 0xF1 ≤ octet ∧ octet ≤ 0xF3 then some ⟨3, 0x80, 0xBF, octet % 8⟩
  else if octet = 0xF4 then some ⟨3, 0x80, 0x8F, 4⟩
  else none

def replacement : Char := '�'

def start (octet : Nat) : List Char × Option Pending :=
  if octet < 0x80 then ([Char.ofNat octet], none)
  else
    match pending? octet with
    | some pending => ([], some pending)
    | none => ([replacement], none)

def step : Option Pending → Nat → List Char × Option Pending
  | none, octet => start octet
  | some pending, octet =>
    if pending.low ≤ octet ∧ octet ≤ pending.high then
      let bits := pending.bits * 64 + octet % 64
      if pending.needed = 1 then ([Char.ofNat bits], none)
      else ([], some ⟨pending.needed - 1, 0x80, 0xBF, bits⟩)
    else
      let (chars, next) := start octet
      (replacement :: chars, next)

/-- Decodes what is left; the characters so far are collected in reverse. -/
def decodeFrom (chars : List Char) : Option Pending → Octets → List Char
  | none, [] => chars.reverse
  | some _, [] => (replacement :: chars).reverse
  | state, octet :: rest =>
    let (next, state) := step state octet.toNat
    decodeFrom (next.reverse ++ chars) state rest

def decode (octets : Octets) : List Char := decodeFrom [] none octets

def decode? (octets : Octets) : Option (List Char) :=
  let text := decode octets
  if encode text = octets then some text else none

end Text.Utf8

def Text.precedes : Octets → Octets → Bool
  | [], _ => true
  | _ :: _, [] => false
  | c :: left, d :: right => if c = d then Text.precedes left right else decide (c < d)

def Text.octets (text : String) : Octets := Text.Utf8.encode text.toList

def Text.ofOctets (octets : Octets) : String := String.ofList (Text.Utf8.decode octets)

end Modelsmith
