import LineMachine.Text.Decimal

/-!
# Ranges of integers

A range is given by its first member, a bound that is not in it any more, and a step. Its numbers are
words of 64 bits, and so are its size and its members: what does not fit is taken modulo `2 ^ 64`. A
range whose size does not fit has a size below zero and no members.
-/

namespace LineMachine.Lesson

/-- An integer as a word of 64 bits with a sign. -/
def word64 (i : Int) : Int := i.bmod 0x10000000000000000

/-- The integer fits into a word of 64 bits with a sign. -/
def fits64 (i : Int) : Bool := -0x8000000000000000 ≤ i && i ≤ 0x7FFFFFFFFFFFFFFF

/-- The integer fits into a word of 32 bits with a sign. -/
def fits32 (i : Int) : Bool := -0x80000000 ≤ i && i ≤ 0x7FFFFFFF

/-- A range of integers, the step of which is not zero. -/
structure Range where
  start : Int
  stop : Int
  step : Int := 1
  deriving DecidableEq, Repr

namespace Range

/-- The number of members, below zero if it does not fit. -/
def size (r : Range) : Int :=
  if 0 < r.step && r.start < r.stop then
    word64 ((word64 (r.stop - 1 - r.start)).tdiv r.step + 1)
  else if r.step < 0 && r.stop < r.start then
    word64 ((word64 (r.start - 1 - r.stop)).tdiv (word64 (-r.step)) + 1)
  else 0

/-- The member at a place. -/
def item (r : Range) (i : Int) : Int := word64 (r.start + i * r.step)

/-- An integer is a member. Integers of more than 32 bits are not looked for. -/
def contains (r : Range) (i : Int) : Bool :=
  let d := word64 (i - r.start)
  fits32 i && d.tmod r.step == 0 && 0 ≤ d.tdiv r.step && d.tdiv r.step < r.size

/-- Two ranges have the same members in the same order. -/
def sameMembers (r s : Range) : Bool :=
  r.size == s.size && (r.size == 0 || r.start == s.start && (r.size == 1 || r.step == s.step))

/-- The members from the place `first` on, every `step`-th of them, up to the place `last`. -/
def slice (r : Range) (first last step : Int) : Range :=
  { start := r.item first, stop := r.item last, step := word64 (r.step * step) }

/-- A range as it is written. -/
def text (r : Range) : Text :=
  let parts :=
    if r.step ≠ 1 then [r.start, r.stop, r.step]
    else if r.start ≠ 0 then [r.start, r.stop]
    else [r.stop]
  Text.ascii "range(" ++ Text.join (Text.ascii ", ") (parts.map Text.ofInt) ++ Text.ascii ")"

end Range

end LineMachine.Lesson
