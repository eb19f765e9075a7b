import Modelsmith.Instances

/-! Binary64 values by their three fields, with the exact number each finite one stands for.

Every finite double is a whole multiple of `2 ^ -1074`, so its magnitude is a natural number of
units. Magnitudes are numbered by `rank`, the order in which the doubles follow each other.
-/

set_option autoImplicit false

namespace Modelsmith

structure Double where
  negative : Bool
  exponent : Fin 2048
  fraction : Fin (2 ^ 52)
  deriving DecidableEq

namespace Double

def pastFinite : Nat := 2047 * 2 ^ 52

/-- Position of the magnitude among all magnitudes, zero being the first. -/
def rank (value : Double) : Nat := value.exponent * 2 ^ 52 + value.fraction

def infinity (negative : Bool) : Double := ⟨negative, 2047, 0⟩

def nan : Double := ⟨false, 2047, ⟨2 ^ 51, by decide⟩⟩

/-- The magnitude at a rank; ranks past the finite ones are infinite. -/
def ofRank (negative : Bool) (rank : Nat) : Double :=
  if h : rank < pastFinite then
    ⟨negative, ⟨rank / 2 ^ 52, by simp only [pastFinite] at h; omega⟩,
      ⟨rank % 2 ^ 52, Nat.mod_lt _ (by decide)⟩⟩
  else infinity negative

def zero : Double := ofRank false 0

def isFinite (value : Double) : Bool := decide (value.exponent.val < 2047)

def isNaN (value : Double) : Bool := value.exponent.val == 2047 && value.fraction.val != 0

instance : Inhabited Double := ⟨zero⟩

/-- The magnitude at a rank, in units of `2 ^ -1074`. -/
def unitsAt (rank : Nat) : Nat :=
  if rank < 2 ^ 52 then rank else (2 ^ 52 + rank % 2 ^ 52) * 2 ^ (rank / 2 ^ 52 - 1)

def units (value : Double) : Nat := unitsAt value.rank

/-- Signed position: both zeros are at 0. Meaningless for a NaN. -/
def position (value : Double) : Int := if value.negative then -(value.rank : Int) else value.rank

/-- Numeric comparison; a NaN is below nothing and above nothing. -/
def le (left right : Double) : Bool :=
  !left.isNaN && !right.isNaN && decide (left.position ≤ right.position)

def lt (left right : Double) : Bool :=
  !left.isNaN && !right.isNaN && decide (left.position < right.position)

/-- Numeric equality: the two zeros are equal and a NaN equals nothing. -/
def eq (left right : Double) : Bool :=
  !left.isNaN && !right.isNaN && decide (left.position = right.position)

def toBits (value : Double) : UInt64 :=
  ((if value.negative then 2 ^ 63 else 0) + value.rank).toUInt64

def ofBits (bits : UInt64) : Double :=
  let word := bits.toNat
  ⟨decide (2 ^ 63 ≤ word), ⟨word / 2 ^ 52 % 2048, Nat.mod_lt _ (by decide)⟩,
    ⟨word % 2 ^ 52, Nat.mod_lt _ (by decide)⟩⟩

end Double

end Modelsmith
