import LineMachine.Binary64.Basic
import LineMachine.Text.Decimal

/-!
# Decimal digits of binary64

A positive number `m * 2 ^ e` in decimal: with the fewest digits that read back as the same number, or
rounded to a given place.

The reals that read back as a number lie between the points halfway to its neighbours. These ends are
among them if the mantissa is even. The neighbour below a power of two is nearer than the one above.
For one digit, two digits and so on `shortest` looks at the two decimals of that size next to the
number, and takes the first that reads back; of two the nearer one, and of two equally near the even
one.
-/

namespace LineMachine.Binary64

/-- The decimal number with these digits, where the first digit counts for `10 ^ power`. -/
structure Digits where
  digits : Text
  power : Int
  deriving DecidableEq, Repr

namespace Digits

/-- The digits of `n * 10 ^ e`. -/
def ofNat (n : Nat) (e : Int) : Digits :=
  let ds := Text.ofNat n
  ⟨ds, e + ds.length - 1⟩

/-- The same number without zeros at the end. -/
def trimmed (d : Digits) : Digits :=
  ⟨(d.digits.reverse.dropWhile (· == Text.byte '0')).reverse, d.power⟩

/-- Zero with so many digits. -/
def zeros (size : Nat) : Digits := ⟨List.replicate size (Text.byte '0'), 0⟩

end Digits

/-- The ratio `m * 2 ^ e`. -/
def ratio (m : Nat) (e : Int) : Nat × Nat := inUnits 2 (-e) m 1

/-- The greatest power of ten that a positive ratio reaches. It is near to the power of two times the
logarithm of two. -/
def decimalPower (num den : Nat) : Int :=
  let e := (binaryPower num den * 30103).fdiv 100000
  if reaches 10 (e + 1) num den then e + 1
  else if reaches 10 e num den then e
  else e - 1

/-- `m * 2 ^ e` in units of `10 ^ place`, rounded to an integer. -/
def roundedAt (place : Int) (m : Nat) (e : Int) : Nat :=
  let (n, d) := ratio m e
  let (n, d) := inUnits 10 place n d
  nearest n d

/-- The decimal with `size` digits that is next to `m * 2 ^ e` and reads back as this number. -/
def readable? (m : Nat) (e power : Int) (size : Nat) : Option Digits :=
  let place := power - size + 1
  -- In quarters of the last bit.
  let (a, d) := ratio 1 (e - 2)
  let (a, d) := inUnits 10 place a d
  let value := 4 * m * a
  let low := (if m * 2 = mantissaLimit && leastExponent < e then 4 * m - 1 else 4 * m - 2) * a
  let high := (4 * m + 2) * a
  let readsBack (c : Nat) : Bool :=
    if m % 2 = 0 then low ≤ c * d && c * d ≤ high else low < c * d && c * d < high
  let below := value / d
  let above := below + 1
  match readsBack below, readsBack above with
  | true, true => some (Digits.ofNat (nearest value d) place)
  | true, false => some (Digits.ofNat below place)
  | false, true => some (Digits.ofNat above place)
  | false, false => none

/-- The fewest digits that read back as `m * 2 ^ e`. Seventeen are enough. -/
def shortest (m : Nat) (e : Int) : Digits :=
  let (n, d) := ratio m e
  let power := decimalPower n d
  let found := (List.range 17).findSome? fun i => readable? m e power (i + 1)
  (found.getD (Digits.ofNat (roundedAt (power - 16) m e) (power - 16))).trimmed

/-- `m * 2 ^ e` rounded to `size` digits. -/
def rounded (size : Nat) (m : Nat) (e : Int) : Digits :=
  let (n, d) := ratio m e
  let place := decimalPower n d - size + 1
  let r := Digits.ofNat (roundedAt place m e) place
  ⟨r.digits.take size, r.power⟩

end LineMachine.Binary64
