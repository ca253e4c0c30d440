import LineMachine.Machine.Decode
import Mathlib.Logic.Function.Basic
import Mathlib.Logic.Function.Iterate
import Mathlib.Order.Bounds.Basic

/-!
# The byte machine

The byte machine is the machine as a programmer thinks of it: eight bytes, a bit and a line counter.
Sums stop at 255 and differences at 0, and no number ever leaves its range, so nothing has to be
clamped. It keeps neither a log nor a count of the executed lines.

A state whose counter is past the last line has nothing to execute and stays as it is. `step` is
therefore a total function, and the state after `n` lines is its `n`-th iterate. `trail lines n s`
lists the at most `n` lines that are executed from `s` on, each with the state it starts from. Its
length is the number of lines after which the machine stops (`isLeast_length_trail`).
-/

namespace LineMachine

/-- A state of the byte machine. -/
@[ext]
structure ByteMachine where
  registers : Register → UInt8
  flag : Bool
  pc : Nat

/-- What a command with two registers leaves in its destination, from the bytes of destination and
source. -/
def Operation.onBytes (op : Operation) (dst src : UInt8) : UInt8 :=
  match op with
  | .add => UInt8.ofNat (min (dst.toNat + src.toNat) 255)
  | .sub => UInt8.ofNat (dst.toNat - src.toNat)
  | .copy => src
  | .and => dst &&& src
  | .or => dst ||| src
  | .cmp => dst

/-- A jump is taken when the bit is `flag`. -/
def Condition.met (c : Condition) (flag : Bool) : Bool :=
  match c with
  | .always => true
  | .equal => flag
  | .notEqual => !flag

namespace ByteMachine

/-- All registers, the bit and the counter are zero. -/
def start : ByteMachine := { registers := fun _ => 0, flag := false, pc := 0 }

/-- Move on to the next line. -/
def advance (s : ByteMachine) : ByteMachine := { s with pc := s.pc + 1 }

/-- Put a byte into a register. -/
def store (s : ByteMachine) (r : Register) (b : UInt8) : ByteMachine :=
  { s with registers := Function.update s.registers r b }

/-- Execute an instruction, or a line that is none. A jump to line zero only moves on. -/
def execute (s : ByteMachine) : Option Instruction → ByteMachine
  | none => s.advance
  | some (.move v d) => (s.store d (UInt8.ofNat (min v 255))).advance
  | some (.combine .cmp a d) => { s with flag := s.registers d == s.registers a }.advance
  | some (.combine op a d) => (s.store d (op.onBytes (s.registers d) (s.registers a))).advance
  | some (.jump c t) => if c.met s.flag ∧ 1 ≤ t then { s with pc := t - 1 } else s.advance

/-- Execute the line at the counter, if there is one. -/
def step (lines : List Text) (s : ByteMachine) : ByteMachine :=
  match lines[s.pc]? with
  | none => s
  | some line => s.execute (Instruction.decode line).toOption

/-- The state after `n` lines of a program. -/
def after (lines : List Text) (n : Nat) : ByteMachine := (step lines)^[n] start

/-- The execution of one line: the state that it starts from, and the instruction if the line is
one. -/
structure Event where
  before : ByteMachine
  instruction? : Option Instruction

/-- The lines that are executed from `s` on, but no more than `n`. -/
def trail (lines : List Text) : Nat → ByteMachine → List Event
  | 0, _ => []
  | n + 1, s =>
    match lines[s.pc]? with
    | none => []
    | some line => ⟨s, (Instruction.decode line).toOption⟩ :: trail lines n (s.step lines)

@[simp] theorem trail_zero (lines : List Text) (s : ByteMachine) : trail lines 0 s = [] := rfl

theorem step_of_getElem?_eq_none {lines : List Text} {s : ByteMachine}
    (h : lines[s.pc]? = none) : s.step lines = s := by
  rw [step, h]

theorem trail_of_getElem?_eq_none {lines : List Text} {s : ByteMachine}
    (h : lines[s.pc]? = none) (n : Nat) : trail lines n s = [] := by
  cases n with
  | zero => rfl
  | succ n => rw [trail, h]

theorem trail_of_getElem?_eq_some {lines : List Text} {s : ByteMachine} {line : Text}
    (h : lines[s.pc]? = some line) (n : Nat) :
    trail lines (n + 1) s =
      ⟨s, (Instruction.decode line).toOption⟩ :: trail lines n (s.step lines) := by
  rw [trail, h]

theorem iterate_step_of_getElem?_eq_none {lines : List Text} {s : ByteMachine}
    (h : lines[s.pc]? = none) (n : Nat) : (step lines)^[n] s = s :=
  Function.iterate_fixed (step_of_getElem?_eq_none h) n

/-- The machine stops at the first of the two: it has executed `n` lines, or it has passed the last
line of the program. -/
theorem isLeast_length_trail (lines : List Text) (n : Nat) (s : ByteMachine) :
    IsLeast {j | j = n ∨ lines.length ≤ ((step lines)^[j] s).pc} (trail lines n s).length := by
  induction n generalizing s with
  | zero => exact ⟨Or.inl rfl, fun _ _ => Nat.zero_le _⟩
  | succ n ih =>
      cases h : lines[s.pc]? with
      | none =>
          rw [trail_of_getElem?_eq_none h]
          exact ⟨Or.inr (List.getElem?_eq_none_iff.mp h), fun _ _ => Nat.zero_le _⟩
      | some line =>
          rw [trail_of_getElem?_eq_some h, List.length_cons]
          obtain ⟨hmem, hleast⟩ := ih (s.step lines)
          refine ⟨hmem.imp (congrArg (· + 1)) fun hpast => ?_, ?_⟩
          · rwa [Function.iterate_succ_apply]
          · rintro (_ | j) hj
            · have hlt : s.pc < lines.length := (List.getElem?_eq_some_iff.mp h).1
              rcases hj with hj | hj
              · exact absurd hj (by omega)
              · exact absurd hj (Nat.not_le.mpr hlt)
            · refine Nat.succ_le_succ (hleast ?_)
              rw [Set.mem_ofPred_eq, Function.iterate_succ_apply] at hj
              exact hj.imp Nat.succ.inj id

/-- Once the machine has stopped it does not change any more. -/
theorem iterate_step_length_trail (lines : List Text) (n : Nat) (s : ByteMachine) :
    (step lines)^[(trail lines n s).length] s = (step lines)^[n] s := by
  induction n generalizing s with
  | zero => rfl
  | succ n ih =>
      cases h : lines[s.pc]? with
      | none =>
          rw [trail_of_getElem?_eq_none h, iterate_step_of_getElem?_eq_none h (n + 1)]
          rfl
      | some line =>
          rw [trail_of_getElem?_eq_some h, List.length_cons, Function.iterate_succ_apply,
            Function.iterate_succ_apply, ih]

theorem trail_prefix_trail (lines : List Text) {k n : Nat} (h : k ≤ n) (s : ByteMachine) :
    trail lines k s <+: trail lines n s := by
  induction k generalizing n s with
  | zero => exact List.nil_prefix
  | succ k ih =>
      obtain ⟨n, rfl⟩ : ∃ i, n = i + 1 := ⟨n - 1, by omega⟩
      cases hline : lines[s.pc]? with
      | none =>
          rw [trail_of_getElem?_eq_none hline]
          exact List.nil_prefix
      | some line =>
          rw [trail_of_getElem?_eq_some hline, trail_of_getElem?_eq_some hline,
            List.prefix_cons_inj]
          exact ih (Nat.le_of_succ_le_succ h) _

/-- The `i`-th executed line is the line at the counter after `i` lines. -/
theorem getElem?_trail {lines : List Text} {n : Nat} {s : ByteMachine} {i : Nat} {e : Event}
    (h : (trail lines n s)[i]? = some e) :
    e.before = (step lines)^[i] s ∧
      ∃ line, lines[e.before.pc]? = some line ∧
        e.instruction? = (Instruction.decode line).toOption := by
  induction n generalizing s i with
  | zero => simp at h
  | succ n ih =>
      cases hline : lines[s.pc]? with
      | none => simp [trail_of_getElem?_eq_none hline] at h
      | some line =>
          rw [trail_of_getElem?_eq_some hline] at h
          cases i with
          | zero =>
              rw [List.getElem?_cons_zero, Option.some.injEq] at h
              subst h
              exact ⟨rfl, line, hline, rfl⟩
          | succ i =>
              rw [List.getElem?_cons_succ] at h
              rw [Function.iterate_succ_apply]
              exact ih h

end ByteMachine

end LineMachine
