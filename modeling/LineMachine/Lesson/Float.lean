import LineMachine.Binary64.Decimal

/-!
# Floating numbers as lessons write them

A floating number is written with the fewest digits that read back as the same number, and such that
it cannot be taken for an integer: there is a point in it or a power of ten. The power of ten stands
for numbers from a million on and for those below a ten-thousandth. Formats may ask for six places
after the point instead.
-/

namespace LineMachine.Binary64

/-- The power of ten of the first digit, with a sign and at least two digits. -/
def powerText (mark : Char) (e : Int) : Text :=
  Text.byte mark :: Text.byte (if e < 0 then '-' else '+') :: Text.padZero 2 (Text.ofNat e.natAbs)

/-- Digits with a point after the first one, and a power of ten. -/
def scientific (mark : Char) (d : Digits) : Text :=
  d.digits.take 1 ++ (if d.digits.length ≤ 1 then [] else Text.byte '.' :: d.digits.drop 1) ++
    powerText mark d.power

/-- Digits with zeros up to the point, or from the point on. At least one digit stands on either side
of the point. -/
def positional (d : Digits) : Text :=
  if d.power < 0 then
    Text.ascii "0." ++ List.replicate (-d.power - 1).toNat (Text.byte '0') ++ d.digits
  else
    let whole := d.power.toNat + 1
    let padded := d.digits ++ List.replicate (whole + 1 - d.digits.length) (Text.byte '0')
    padded.take whole ++ Text.byte '.' :: padded.drop whole

/-- A number with its sign, where `write` gives the digits of a mantissa and an exponent. -/
def withSign (write : Nat → Int → Text) : Binary64 → Text
  | .nan => Text.ascii "nan"
  | .infinite negative => Text.ascii (if negative then "-inf" else "+inf")
  | .finite negative m e => (if negative then Text.ascii "-" else []) ++ write m e

/-- A number with the fewest digits. -/
def general (mark : Char) (x : Binary64) : Text :=
  withSign (fun m e =>
    let d := if m = 0 then Digits.zeros 1 else shortest m e
    if d.power < -4 || 6 ≤ d.power then scientific mark d else positional d) x

/-- A number as it is printed. -/
def text (x : Binary64) : Text := general 'e' x

/-- A number with six digits after the first and a power of ten. -/
def exponential (mark : Char) (x : Binary64) : Text :=
  withSign (fun m e => scientific mark (if m = 0 then Digits.zeros 7 else rounded 7 m e)) x

/-- A number with six digits after the point. -/
def fixed (x : Binary64) : Text :=
  withSign (fun m e =>
    let ds := Text.padZero 7 (Text.ofNat (roundedAt (-6) m e))
    ds.take (ds.length - 6) ++ Text.byte '.' :: ds.drop (ds.length - 6)) x

end LineMachine.Binary64
