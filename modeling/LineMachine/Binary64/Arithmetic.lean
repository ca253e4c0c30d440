import LineMachine.Binary64.Basic

/-!
# Arithmetic of binary64

The results of the operations are exact numbers that are rounded once. A sum that is exactly zero is
negative only if both operands are; a product, a quotient or a remainder that is zero keeps the sign
that it would have otherwise.
-/

namespace LineMachine.Binary64

/-- The sum of two numbers. -/
def add : Binary64 → Binary64 → Binary64
  | .nan, _ | _, .nan => .nan
  | .infinite a, .infinite b => if a = b then .infinite a else .nan
  | .infinite a, _ | _, .infinite a => .infinite a
  | .finite a m e, .finite b n f =>
    let (x, y, g) := align (signed a m) e (signed b n) f
    if x + y = 0 then zero (a && b) else ofScaled (x + y < 0) (x + y).natAbs g

/-- The difference of two numbers. -/
def sub (x y : Binary64) : Binary64 := add x y.neg

/-- The product of two numbers. -/
def mul : Binary64 → Binary64 → Binary64
  | .nan, _ | _, .nan => .nan
  | .infinite a, .infinite b => .infinite (a != b)
  | .infinite a, .finite b n _ | .finite b n _, .infinite a =>
    if n = 0 then .nan else .infinite (a != b)
  | .finite a m e, .finite b n f => ofScaled (a != b) (m * n) (e + f)

/-- The quotient of two numbers. -/
def div : Binary64 → Binary64 → Binary64
  | .nan, _ | _, .nan => .nan
  | .infinite _, .infinite _ => .nan
  | .infinite a, .finite b _ _ => .infinite (a != b)
  | .finite a _ _, .infinite b => zero (a != b)
  | .finite a m e, .finite b n f =>
    if n = 0 then (if m = 0 then .nan else .infinite (a != b))
    else
      let (num, den) := inUnits 2 (f - e) m n
      ofRatio (a != b) num den

/-- The greatest integer that is not greater than a number. -/
def floor : Binary64 → Binary64
  | .finite negative m e =>
    if 0 ≤ e then .finite negative m e
    else
      let q := (signed negative m).fdiv (Nat.pow 2 (-e).toNat)
      if q = 0 then zero negative else ofInt q
  | x => x

/-- What is left of a number after it has been divided by another one towards zero. It has the sign of
the former. -/
def remainder : Binary64 → Binary64 → Binary64
  | .nan, _ | _, .nan | .infinite _, _ => .nan
  | x, .infinite _ => x
  | .finite a m e, .finite b n f =>
    if n = 0 then .nan
    else
      let (x, y, g) := align (signed a m) e (signed b n) f
      ofScaled a (x.natAbs % y.natAbs) g

/-- The remainder of a division towards the lower integer. Unless it is zero it has the sign of the
divisor. -/
def modulo (x y : Binary64) : Binary64 :=
  let z := remainder x y
  if x.isNegative != y.isNegative && !z.isZero then add z y else z

end LineMachine.Binary64
