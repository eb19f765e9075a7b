import Modelsmith.Double.Rounding

/-! Arithmetic on doubles, done by the machine. -/

set_option autoImplicit false

namespace Modelsmith.Double

def toFloat (value : Double) : Float := Float.ofBits value.toBits

def ofFloat (value : Float) : Double := ofBits value.toBits

def add (left right : Double) : Double := ofFloat (left.toFloat + right.toFloat)

def sub (left right : Double) : Double := ofFloat (left.toFloat - right.toFloat)

def mul (left right : Double) : Double := ofFloat (left.toFloat * right.toFloat)

def div (left right : Double) : Double := ofFloat (left.toFloat / right.toFloat)

def neg (value : Double) : Double := { value with negative := !value.negative }

def exp (value : Double) : Double := ofFloat value.toFloat.exp

def tanh (value : Double) : Double := ofFloat value.toFloat.tanh

def max (left right : Double) : Double :=
  if left.isNaN then right
  else if right.isNaN then left
  else if left.lt right then right
  else left

def one : Double := ofNat 1

end Modelsmith.Double
