import LineMachine.Text.Basic

/-!
# White space at the ends of a text

White space is the set of the twenty-five characters with the Unicode property `White_Space`, given
by their encodings. No encoding is a part of another one, so stripping them from the right is
stripping the reversed encodings from the left of the reversed text.
-/

namespace LineMachine.Text

/-- The encodings of the white-space characters. -/
def spaces : List Text :=
  [[0x09], [0x0A], [0x0B], [0x0C], [0x0D], [0x20], [0xC2, 0x85], [0xC2, 0xA0],
    [0xE1, 0x9A, 0x80],
    [0xE2, 0x80, 0x80], [0xE2, 0x80, 0x81], [0xE2, 0x80, 0x82], [0xE2, 0x80, 0x83],
    [0xE2, 0x80, 0x84], [0xE2, 0x80, 0x85], [0xE2, 0x80, 0x86], [0xE2, 0x80, 0x87],
    [0xE2, 0x80, 0x88], [0xE2, 0x80, 0x89], [0xE2, 0x80, 0x8A], [0xE2, 0x80, 0xA8],
    [0xE2, 0x80, 0xA9], [0xE2, 0x80, 0xAF], [0xE2, 0x81, 0x9F], [0xE3, 0x80, 0x80]]

/-- Take words of `ws` off the front of the text as long as there is one. The empty word is never
taken. -/
def strip (ws : List Text) : Text → Text
  | [] => []
  | b :: t =>
    match ws.find? fun w => !w.isEmpty && w.isPrefixOf (b :: t) with
    | some w => strip ws (t.drop (w.length - 1))
    | none => b :: t
termination_by t => t.length
decreasing_by simp only [List.length_drop, List.length_cons]; omega

/-- The text without the white space in front. -/
def trimLeft (t : Text) : Text := strip spaces t

/-- The text without the white space at its end. -/
def trimRight (t : Text) : Text := (strip (spaces.map List.reverse) t.reverse).reverse

/-- The text without the white space at both ends. -/
def trim (t : Text) : Text := trimRight (trimLeft t)

end LineMachine.Text
