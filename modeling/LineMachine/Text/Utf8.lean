import LineMachine.Text.Basic

/-!
# Characters of a text

`firstScalar` reads the character whose encoding starts at a byte. A byte that starts no well-formed
encoding is stray: overlong forms, surrogates and values past `10FFFF` are refused, so the second
byte of an encoding has a narrower range after the leads `E0`, `ED`, `F0` and `F4`.

Readings of a text are built from it. `isUtf8` says that no byte is stray. `repair` keeps every
character and puts one replacement character in the place of each maximal run of stray bytes;
`replaceStray` puts one in the place of each stray byte.
-/

namespace LineMachine.Text

/-- One piece of a text: a character with its encoding, or a byte that belongs to none. -/
inductive Piece where
  | scalar (code : Nat) (encoding : Text)
  | stray (b : UInt8)
  deriving DecidableEq, Repr

/-- A continuation byte. -/
def isTail (b : UInt8) : Bool := 0x80 ≤ b && b ≤ 0xBF

/-- The six bits that a continuation byte carries. -/
def tailBits (b : UInt8) : Nat := b.toNat - 0x80

/-- The range of the second byte after the lead byte `b` of a longer encoding. -/
def secondRange (b : UInt8) : UInt8 × UInt8 :=
  if b = 0xE0 then (0xA0, 0xBF)
  else if b = 0xED then (0x80, 0x9F)
  else if b = 0xF0 then (0x90, 0xBF)
  else if b = 0xF4 then (0x80, 0x8F)
  else (0x80, 0xBF)

/-- `c` may follow the lead byte `b`. -/
def isSecond (b c : UInt8) : Bool := (secondRange b).1 ≤ c && c ≤ (secondRange b).2

/-- The character encoded by `b` and the first bytes of `t`: its code point and the number of bytes
of `t` that it takes up. -/
def firstScalar (b : UInt8) (t : Text) : Option (Nat × Nat) :=
  if b < 0x80 then some (b.toNat, 0)
  else if b < 0xC2 then none
  else if b < 0xE0 then
    match t with
    | c :: _ => if isSecond b c then some ((b.toNat - 0xC0) * 64 + tailBits c, 1) else none
    | _ => none
  else if b < 0xF0 then
    match t with
    | c :: d :: _ =>
      if isSecond b c && isTail d then
        some (((b.toNat - 0xE0) * 64 + tailBits c) * 64 + tailBits d, 2)
      else none
    | _ => none
  else if b < 0xF5 then
    match t with
    | c :: d :: e :: _ =>
      if isSecond b c && isTail d && isTail e then
        some ((((b.toNat - 0xF0) * 64 + tailBits c) * 64 + tailBits d) * 64 + tailBits e, 3)
      else none
    | _ => none
  else none

/-- The piece at the start of `b :: t`, and how many bytes of `t` it takes up. -/
def firstPiece (b : UInt8) (t : Text) : Piece × Nat :=
  match firstScalar b t with
  | some (code, n) => (.scalar code (b :: t.take n), n)
  | none => (.stray b, 0)

/-- A text cut into characters and stray bytes. -/
def pieces (t : Text) : List Piece := scan firstPiece t

/-- A piece is a character. -/
def Piece.isScalar : Piece → Bool
  | .scalar .. => true
  | .stray _ => false

/-- The bytes of a piece. -/
def Piece.bytes : Piece → Text
  | .scalar _ enc => enc
  | .stray b => [b]

/-- No byte of the text is stray. -/
def isUtf8 (t : Text) : Bool := (pieces t).all Piece.isScalar

/-- The encoding of the replacement character. -/
def replacement : Text := [0xEF, 0xBF, 0xBD]

/-- The characters of a list of pieces, with one replacement character for each maximal run of stray
bytes. -/
def repairPieces (ps : List Piece) : Text :=
  (ps.foldr (fun p (acc : Bool × Text) =>
    match p with
    | .scalar _ enc => (false, enc ++ acc.2)
    | .stray _ => (true, if acc.1 then acc.2 else replacement ++ acc.2)) (false, [])).2

/-- The text with each maximal run of stray bytes replaced by one replacement character. -/
def repair (t : Text) : Text := repairPieces (pieces t)

/-- The text with each stray byte replaced by a replacement character. -/
def replaceStray (t : Text) : Text :=
  ((pieces t).map fun
    | .scalar _ encoding => encoding
    | .stray _ => replacement).flatten

/-- The encoding of the code point `n`, which is meant to be at most `10FFFF` and no surrogate. -/
def encodeScalar (n : Nat) : Text :=
  if n < 0x80 then [n.toUInt8]
  else if n < 0x800 then [(0xC0 + n / 64).toUInt8, (0x80 + n % 64).toUInt8]
  else if n < 0x10000 then
    [(0xE0 + n / 4096).toUInt8, (0x80 + n / 64 % 64).toUInt8, (0x80 + n % 64).toUInt8]
  else
    [(0xF0 + n / 262144).toUInt8, (0x80 + n / 4096 % 64).toUInt8, (0x80 + n / 64 % 64).toUInt8,
      (0x80 + n % 64).toUInt8]

end LineMachine.Text
