import LineMachine.Text.Decimal
import LineMachine.Text.Graphic
import LineMachine.Text.Utf8

/-!
# Quoted texts

A text in double quotes or a character in single quotes, as they stand in messages. What is not graphic
is written with a backslash: by a letter if there is one for it, else by its number in hexadecimal.
-/

namespace LineMachine.Text

/-- A number in hexadecimal, with at least `width` digits. -/
def hex (width n : Nat) : Text := padZero width (digits 16 n)

/-- The letters of control characters with an escape of their own. -/
def controlEscapes : List (Nat × Char) :=
  [(7, 'a'), (8, 'b'), (9, 't'), (10, 'n'), (11, 'v'), (12, 'f'), (13, 'r')]

/-- A character as it stands between the quotes `mark`. -/
def quoteScalar (mark code : Nat) (encoding : Text) : Text :=
  if code = mark || code = 92 then byte '\\' :: encoding
  else if isGraphic code then encoding
  else match controlEscapes.lookup code with
    | some c => [byte '\\', byte c]
    | none =>
      if code < 0x20 || code = 0x7F then ascii "\\x" ++ hex 2 code
      else if code < 0x10000 then ascii "\\u" ++ hex 4 code
      else ascii "\\U" ++ hex 8 code

/-- A piece of a text as it stands between double quotes. -/
def quotePiece : Piece → Text
  | .stray b => ascii "\\x" ++ hex 2 b.toNat
  | .scalar code encoding => quoteScalar 34 code encoding

/-- A text in double quotes. -/
def quote (t : Text) : Text := ascii "\"" ++ ((pieces t).map quotePiece).flatten ++ ascii "\""

/-- A single character in single quotes. -/
def quoteCharacter (code : Nat) : Text :=
  ascii "'" ++ quoteScalar 39 code (encodeScalar code) ++ ascii "'"

end LineMachine.Text
