import LineMachine.Text.Space

/-!
# Lines of a program text

A line ends at a line feed, a carriage return, a carriage return with its line feed, a next-line
character, a line separator or a paragraph separator. `lines` trims the text first, so there are no
blank lines at its two ends, and a text of white space only has no lines at all; the white space at
the ends of the lines in between stays.
-/

namespace LineMachine.Text

/-- The line feed. -/
abbrev newline : UInt8 := 0x0A

/-- A step of `scan` that reads each line break as one line feed and every other byte as itself. -/
def breakStep (b : UInt8) (t : Text) : UInt8 × Nat :=
  match b, t with
  | 0x0D, 0x0A :: _ => (newline, 1)
  | 0x0D, _ => (newline, 0)
  | 0xC2, 0x85 :: _ => (newline, 1)
  | 0xE2, 0x80 :: 0xA8 :: _ => (newline, 2)
  | 0xE2, 0x80 :: 0xA9 :: _ => (newline, 2)
  | b, _ => (b, 0)

/-- The text with each line break written as one line feed. -/
def unifyBreaks (t : Text) : Text := scan breakStep t

/-- The lines of a program text. -/
def lines (t : Text) : List Text :=
  let body := trim t
  if body.isEmpty then [] else splitOn newline (unifyBreaks body)

end LineMachine.Text
