/-!
# Numbers in the binary64 format

A finite number is a mantissa of at most 53 bits times a power of two, with a sign that zero has too.
Every operation on such numbers is exact up to one last step: `ofRatio` takes a ratio to the nearest
number of the format, and of two that are equally near to the one with an even mantissa. What is too
great for the format becomes infinite.

The numbers have an order in which all that is not a number is equal and comes last.
-/

namespace LineMachine

/-- A number of the binary64 format. A finite one is `mantissa * 2 ^ exponent` with a sign. -/
inductive Binary64 where
  | finite (negative : Bool) (mantissa : Nat) (exponent : Int)
  | infinite (negative : Bool)
  | nan
  deriving DecidableEq, Repr

namespace Binary64

/-- Mantissas are less than this. -/
def mantissaLimit : Nat := 0x20000000000000

/-- The number of bits that a mantissa has after its first one. -/
def fractionBits : Int := 52

/-- The least exponent. -/
def leastExponent : Int := -1074

/-- The greatest exponent. -/
def greatestExponent : Int := 971

/-- Zero. -/
def zero (negative : Bool) : Binary64 := .finite negative 0 leastExponent

/-! ## Rounding -/

/-- The natural number nearest to a ratio; a half goes to the even neighbour. -/
def nearest (num den : Nat) : Nat :=
  let q := num / den
  let r := num % den
  if 2 * r < den || (2 * r == den && q % 2 == 0) then q else q + 1

/-- The ratio `num / den` in units of `base ^ e`, as a ratio. -/
def inUnits (base : Nat) (e : Int) (num den : Nat) : Nat × Nat :=
  (num * Nat.pow base (-e).toNat, den * Nat.pow base e.toNat)

/-- The ratio `num / den` is at least `base ^ e`. -/
def reaches (base : Nat) (e : Int) (num den : Nat) : Bool :=
  let (n, d) := inUnits base e num den
  d ≤ n

/-- The greatest power of two that a positive ratio reaches. -/
def binaryPower (num den : Nat) : Int :=
  let e : Int := (Nat.log2 num : Int) - Nat.log2 den
  if reaches 2 e num den then e else e - 1

/-- The number nearest to a ratio. -/
def ofRatio (negative : Bool) (num den : Nat) : Binary64 :=
  if num = 0 then zero negative
  else
    let e := max (binaryPower num den - fractionBits) leastExponent
    let (n, d) := inUnits 2 e num den
    let m := nearest n d
    let (m, e) := if m = mantissaLimit then (m / 2, e + 1) else (m, e)
    if greatestExponent < e then .infinite negative else .finite negative m e

/-- The number nearest to an integer. -/
def ofInt (i : Int) : Binary64 := ofRatio (i < 0) i.natAbs 1

/-- The number nearest to `n * 2 ^ e`. -/
def ofScaled (negative : Bool) (n : Nat) (e : Int) : Binary64 :=
  ofRatio negative (n * Nat.pow 2 e.toNat) (Nat.pow 2 (-e).toNat)

/-- The number nearest to `n * 10 ^ e`. All that reaches `10 ^ 310` is infinite, and all that does not
reach `10 ^ -330` is zero, so greater powers are not computed. -/
def ofDecimal (n : Nat) (e : Int) : Binary64 :=
  let size := (Nat.toDigits 10 n).length
  if n = 0 || e + size < -330 then zero false
  else if 310 < e + size then .infinite false
  else ofRatio false (n * Nat.pow 10 e.toNat) (Nat.pow 10 (-e).toNat)

/-! ## Sign and order -/

/-- A natural number with a sign. -/
def signed (negative : Bool) (n : Nat) : Int := if negative then -n else n

/-- The number is zero. -/
def isZero : Binary64 → Bool
  | .finite _ m _ => m == 0
  | _ => false

/-- The number is less than zero. -/
def isNegative : Binary64 → Bool
  | .finite negative m _ => negative && m != 0
  | .infinite negative => negative
  | .nan => false

/-- The number is infinite. -/
def isInfinite : Binary64 → Bool
  | .infinite _ => true
  | _ => false

/-- The number with the other sign. -/
def neg : Binary64 → Binary64
  | .finite negative m e => .finite (!negative) m e
  | .infinite negative => .infinite !negative
  | .nan => .nan

/-- The integers `a'` and `b'` for which `a * 2 ^ e = a' * 2 ^ g` and `b * 2 ^ f = b' * 2 ^ g`, where
`g` is the smaller one of the exponents `e` and `f`; and `g`. -/
def align (a e b f : Int) : Int × Int × Int :=
  let g := min e f
  (a * Nat.pow 2 (e - g).toNat, b * Nat.pow 2 (f - g).toNat, g)

/-- How `a * 2 ^ e` and `b * 2 ^ f` compare. -/
def compareScaled (a e b f : Int) : Ordering :=
  let (a, b, _) := align a e b f
  if a < b then .lt else if a = b then .eq else .gt

/-- How two numbers compare. -/
def compare : Binary64 → Binary64 → Ordering
  | .nan, .nan => .eq
  | .nan, _ => .gt
  | _, .nan => .lt
  | .infinite a, .infinite b => if a = b then .eq else if a then .lt else .gt
  | .infinite a, _ => if a then .lt else .gt
  | _, .infinite b => if b then .gt else .lt
  | .finite a m e, .finite b n f => compareScaled (signed a m) e (signed b n) f

/-- How an integer and a number compare. The integer is not rounded. -/
def compareInt (i : Int) : Binary64 → Ordering
  | .nan => .lt
  | .infinite b => if b then .gt else .lt
  | .finite b n f => compareScaled i 0 (signed b n) f

/-- The integer part of a number, which is the next integer towards zero. -/
def toInt? : Binary64 → Option Int
  | .finite negative m e =>
    some (signed negative (m * Nat.pow 2 e.toNat / Nat.pow 2 (-e).toNat))
  | _ => none

end Binary64

end LineMachine
