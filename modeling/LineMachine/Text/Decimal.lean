import LineMachine.Text.Basic

/-!
# Numbers written in decimal

`ofNat` and `ofInt` write a number without grouping; a minus sign stands before the digits. `value`
reads a run of digits back. Grouped numbers depend on a locale and are in `LineMachine.Locale`.
-/

namespace LineMachine.Text

/-- The digits of `n` in base `base`, the first one not zero unless `n` is. -/
def digits (base n : Nat) : Text := (Nat.toDigits base n).map fun c => byte c

/-- `n` in decimal. -/
def ofNat (n : Nat) : Text := digits 10 n

/-- `i` in decimal, a minus sign first if it is negative. -/
def ofInt : Int → Text
  | .ofNat n => ofNat n
  | .negSucc n => byte '-' :: ofNat (n + 1)

/-- The number that a run of decimal digits denotes. -/
def value (t : Text) : Nat := t.foldl (fun n b => 10 * n + (b.toNat - 48)) 0

/-- `t` with zeros in front, so that it is at least `width` bytes long. -/
def padZero (width : Nat) (t : Text) : Text := List.replicate (width - t.length) (byte '0') ++ t

/-- `i` in binary with at least eight bytes, where a minus sign counts as one of them and stands
before the zeros. -/
def binary8 : Int → Text
  | .ofNat n => padZero 8 (digits 2 n)
  | .negSucc n => byte '-' :: padZero 7 (digits 2 (n + 1))

end LineMachine.Text
