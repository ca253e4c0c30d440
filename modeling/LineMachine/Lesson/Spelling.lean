import LineMachine.Text.LowerCase
import LineMachine.Text.Utf8

/-!
# Misspelled names

A message about an unknown name suggests a known one that is spelled nearly the same. How near two
names are is measured by the edit distance: the least number of insertions, deletions and
replacements of a byte that lead from one to the other.
-/

namespace LineMachine.Lesson.Spelling

/-- The next row of the table of distances. The row holds the distances of the prefixes of the second
text to what has been read of the first one; `c` is the next byte of the first one. -/
def nextRow (c : UInt8) (row : List Nat) (t : Text) : List Nat :=
  match row with
  | [] => []
  | d :: row => (d + 1) :: go d (d + 1) row t
where
  /-- The cells after the first, given the ones above on the left and on the left. -/
  go (diagonal left : Nat) : List Nat → Text → List Nat
    | above :: row, b :: t =>
      let cell := min (min (left + 1) (above + 1)) (if b = c then diagonal else diagonal + 1)
      cell :: go above cell row t
    | _, _ => []

/-- The edit distance of two texts. -/
def distance (s t : Text) : Nat :=
  ((s.foldl (fun row c => nextRow c row t) (List.range (t.length + 1))).getLast?).getD 0

/-- A name as it is compared: in lower case and without underscores. -/
def fold (t : Text) : Text :=
  ((Text.pieces t).map fun
    | .scalar code _ =>
      if code = '_'.toNat then [] else Text.encodeScalar (Text.lowerCase code)
    | .stray _ => Text.replacement).flatten

/-- The first of the nearest candidates, if at most half of the name is misspelled. -/
def nearest? (x : Text) (candidates : List Text) : Option Text :=
  let x := fold x
  (candidates.foldl (fun (best : Nat × Option Text) c =>
    let d := distance x (fold c)
    if d < best.1 then (d, some c) else best) ((x.length + 1) / 2, none)).2

/-- The suggestion at the end of a message, in which `mark` stands before the name. -/
def hint (mark : String) (x : Text) (candidates : List Text) : Text :=
  match nearest? x candidates with
  | some c => Text.ascii " (did you mean " ++ Text.ascii mark ++ c ++ Text.ascii "?)"
  | none => []

end LineMachine.Lesson.Spelling
