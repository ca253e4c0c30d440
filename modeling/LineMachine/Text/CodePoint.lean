/-!
# Classes of code points

A class of characters is a list of closed ranges of code points. The ranges are ascending, and between
two of them there is a gap. Classes and mappings of characters are those of Unicode 17.0.
-/

namespace LineMachine.Text

/-- A code point is in one of the ranges. -/
def inRanges (rs : List (Nat × Nat)) (code : Nat) : Bool := rs.any fun r => r.1 ≤ code && code ≤ r.2

end LineMachine.Text
