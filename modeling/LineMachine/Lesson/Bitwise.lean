/-!
# Integers as bits

An integer is an endless row of bits, in which a negative one has ones from some place on. The operators
here work on all bits at once, with no bound on the size of the integers.
-/

namespace LineMachine.Lesson

/-- All bits turned over. -/
def bitNot (i : Int) : Int := -i - 1

/-- The bits that are set in both integers. -/
def bitAnd : Int → Int → Int
  | .ofNat a, .ofNat b => .ofNat (Nat.land a b)
  | .ofNat a, .negSucc b | .negSucc b, .ofNat a => .ofNat (a - Nat.land a b)
  | .negSucc a, .negSucc b => .negSucc (Nat.lor a b)

/-- The bits that are set in one of the integers or in both. -/
def bitOr (a b : Int) : Int := bitNot (bitAnd (bitNot a) (bitNot b))

/-- The bits in which the integers differ. -/
def bitXor : Int → Int → Int
  | .ofNat a, .ofNat b | .negSucc a, .negSucc b => .ofNat (Nat.xor a b)
  | .ofNat a, .negSucc b | .negSucc b, .ofNat a => .negSucc (Nat.xor a b)

/-- The bits moved up by `n` places. -/
def shiftUp (i : Int) (n : Nat) : Int := i * Nat.pow 2 n

/-- The bits moved down by `n` places. -/
def shiftDown (i : Int) (n : Nat) : Int := i.fdiv (Nat.pow 2 n)

end LineMachine.Lesson
