import LineMachine.Proofs.Machine.ByteMachine
import LineMachine.Proofs.Machine.Course

/-!
# The machine refines the byte machine

The machine computes with integers and clamps afterwards; the byte machine has nothing but bytes.
`Represents m s` says that `m` holds the numbers of the state `s`. It holds after the reset, and
each executed line keeps it (`Represents.execute`), so it holds all along a run
(`represents_course`). That registers stay in their range and the flag is a bit is a part of it: the
right-hand sides are bytes and bits.

Both machines execute the same lines, so the number of executed lines is the length of the byte
machine's trail (`steps_course`).
-/

namespace LineMachine

/-- The machine holds the registers, the bit and the counter of `s`. -/
structure Represents (m : Machine) (s : ByteMachine) : Prop where
  registers : ∀ r, m.registers.read r = (s.registers r).toNat
  zx : m.zx = s.flag.toNat
  pc : m.pc = s.pc

theorem Machine.clamp_natCast (v : Nat) :
    clamp v = (UInt8.ofNat (min v 255)).toNat := by
  rw [clamp, Register.least, Register.greatest, UInt8.toNat_ofNat']
  omega

/-- Clamping the exact result of a command is computing with bytes that saturate. -/
theorem Operation.clamp_result (op : Operation) (dst src : UInt8) :
    Machine.clamp (op.result dst.toNat src.toNat) = (op.onBytes dst src).toNat := by
  have hd := dst.toNat_lt
  have hs := src.toNat_lt
  -- Bitwise results of bytes are bytes, so there is nothing to clamp.
  have hand : dst.toNat &&& src.toNat ≤ dst.toNat := Nat.and_le_left
  have hor : dst.toNat ||| src.toNat < 2 ^ 8 := Nat.or_lt_two_pow hd hs
  cases op with
  | add =>
      have hsum : result .add dst.toNat src.toNat = (dst.toNat + src.toNat : Nat) := by
        simp [result]
      rw [hsum, Machine.clamp_natCast, onBytes]
  | sub =>
      simp only [result, onBytes, Machine.clamp, Register.least, Register.greatest,
        UInt8.toNat_ofNat']
      omega
  | copy =>
      simp only [result, onBytes, Machine.clamp, Register.least, Register.greatest]
      omega
  | and =>
      simp only [result, onBytes, Machine.clamp, Register.least, Register.greatest,
        Int.toNat_natCast, UInt8.toNat_and]
      omega
  | or =>
      simp only [result, onBytes, Machine.clamp, Register.least, Register.greatest,
        Int.toNat_natCast, UInt8.toNat_or]
      omega
  | cmp =>
      simp only [result, onBytes, Machine.clamp, Register.least, Register.greatest]
      omega

theorem Condition.holds_toNat (c : Condition) (flag : Bool) :
    c.holds flag.toNat = c.met flag := by
  cases c <;> cases flag <;> rfl

namespace ByteMachine

/-- A comparison writes its destination back, so it is no exception among the commands with two
registers but for the bit. -/
theorem execute_combine (s : ByteMachine) (op : Operation) (a d : Register) :
    s.execute (some (.combine op a d)) =
      ({ s with
          flag := if op = Operation.cmp then s.registers d == s.registers a else s.flag }.store d
        (op.onBytes (s.registers d) (s.registers a))).advance := by
  cases op with
  | cmp => simp [execute, store, Operation.onBytes]
  | add | sub | copy | and | or => rfl

end ByteMachine

theorem Instruction.toOption_decodeLine (number : Int) (line : Text) :
    (decodeLine number line).toOption = (decode line).toOption := by
  rw [decodeLine]
  cases decode line <;> rfl

theorem Instruction.decode_of_decodeLine {number : Int} {line : Text} {i : Instruction}
    (h : decodeLine number line = .ok i) : decode line = .ok i := by
  rw [decodeLine] at h
  cases hdecode : decode line with
  | error e =>
      rw [hdecode] at h
      cases h
  | ok j =>
      rw [hdecode] at h
      rw [Except.ok.inj h]

namespace Represents

variable {m : Machine} {s : ByteMachine}

theorem reset (m : Machine) : Represents m.reset ByteMachine.start where
  registers r := Bank.read_zero r
  zx := rfl
  pc := rfl

theorem note (h : Represents m s) (message : Message) : Represents (m.note message) s :=
  ⟨h.registers, h.zx, h.pc⟩

theorem advance (h : Represents m s) : Represents m.advance s.advance :=
  ⟨h.registers, h.zx, congrArg (· + 1) h.pc⟩

theorem put (h : Represents m s) (d : Register) {v : Int} {b : UInt8}
    (hv : Machine.clamp v = b.toNat) (done : Message) :
    Represents (m.put d v done) (s.store d b) := by
  refine ⟨fun r => ?_, h.zx, h.pc⟩
  change (m.registers.write d (Machine.clamp v)).read r = (Function.update s.registers d b r).toNat
  rw [Bank.read_write, hv, Function.update_apply]
  split
  · rfl
  · exact h.registers r

theorem flagAfter (h : Represents m s) (op : Operation) (a d : Register) :
    m.flagAfter op (m.registers.read d) (m.registers.read a) =
      (if op = .cmp then s.registers d == s.registers a else s.flag).toNat := by
  rw [Machine.flagAfter, h.registers, h.registers, h.zx]
  by_cases hop : op = .cmp
  · rw [if_pos hop, if_pos hop]
    by_cases heq : s.registers d = s.registers a
    · simp [heq]
    · have hne : ¬ ((s.registers d).toNat : Int) = (s.registers a).toNat := by
        rwa [Int.natCast_inj, UInt8.toNat_inj]
      rw [if_neg hne, beq_eq_false_iff_ne.mpr heq]
      rfl
  · rw [if_neg hop, if_neg hop]

theorem execute (h : Represents m s) (decoded : Except LineFault Instruction) :
    Represents (m.execute decoded) (s.execute decoded.toOption) := by
  rcases decoded with fault | ⟨v, d⟩ | ⟨op, a, d⟩ | ⟨c, t⟩
  · exact (h.note .unknownCommand).advance
  · exact (h.put d (Machine.clamp_natCast v) _).advance
  · rw [Except.toOption, ByteMachine.execute_combine]
    refine Represents.advance (Represents.put ?_ d ?_ _)
    · exact ⟨h.registers, h.flagAfter op a d, h.pc⟩
    · rw [h.registers, h.registers]
      exact op.clamp_result _ _
  · rw [Except.toOption, ByteMachine.execute, Machine.execute, h.zx, Condition.holds_toNat]
    by_cases hc : c.met s.flag
    · by_cases ht : t = 0
      · rw [if_pos hc, if_pos ht, if_neg (by omega)]
        exact (h.note _).advance
      · rw [if_pos hc, if_neg ht, if_pos ⟨hc, by omega⟩]
        exact ⟨h.registers, h.zx, by simp only; omega⟩
    · rw [if_neg hc, if_neg (fun hct => hc hct.1)]
      exact h.advance

theorem getElem?_lines (h : Represents m s) (lines : List Text) :
    lines[m.pc.toNat]? = lines[s.pc]? := by
  rw [h.pc, Int.toNat_natCast]

theorem proceed (h : Represents m s) (lines : List Text) :
    Represents (m.proceed lines) (s.step lines) := by
  rw [Machine.proceed, ByteMachine.step, h.getElem?_lines]
  cases lines[s.pc]? with
  | none => exact h
  | some line =>
      have hline := h.execute (Instruction.decodeLine (m.pc + 1) line)
      rw [Instruction.toOption_decodeLine] at hline
      exact ⟨hline.registers, hline.zx, hline.pc⟩

theorem iterate (h : Represents m s) (lines : List Text) (n : Nat) :
    Represents ((Machine.proceed lines)^[n] m) ((ByteMachine.step lines)^[n] s) := by
  induction n generalizing m s with
  | zero => exact h
  | succ n ih =>
      rw [Function.iterate_succ_apply, Function.iterate_succ_apply]
      exact ih (h.proceed lines)

theorem steps_iterate (h : Represents m s) (lines : List Text) (n : Nat) :
    ((Machine.proceed lines)^[n] m).steps = m.steps + (ByteMachine.trail lines n s).length := by
  induction n generalizing m s with
  | zero => simp
  | succ n ih =>
      rw [Function.iterate_succ_apply, ih (h.proceed lines)]
      cases hline : lines[s.pc]? with
      | none =>
          rw [Machine.proceed_of_getElem?_eq_none ((h.getElem?_lines lines).trans hline),
            ByteMachine.step_of_getElem?_eq_none hline,
            ByteMachine.trail_of_getElem?_eq_none hline,
            ByteMachine.trail_of_getElem?_eq_none hline]
      | some line =>
          rw [Machine.proceed_of_getElem?_eq_some ((h.getElem?_lines lines).trans hline),
            Machine.steps_step, ByteMachine.trail_of_getElem?_eq_some hline, List.length_cons]
          omega

end Represents

namespace Machine

theorem represents_course (m : Machine) (lines : List Text) (k : Nat) :
    Represents (m.course lines k) (ByteMachine.after lines k) :=
  (Represents.reset m).iterate lines k

theorem steps_course (m : Machine) (lines : List Text) (k : Nat) :
    (m.course lines k).steps = (ByteMachine.trail lines k ByteMachine.start).length := by
  have h := (Represents.reset m).steps_iterate lines k
  rwa [show m.reset.steps = 0 from rfl, Int.zero_add] at h

/-- The lines that a run of a program executes. -/
def events (code : Text) : List ByteMachine.Event :=
  ByteMachine.trail (Text.lines code) commandLimit ByteMachine.start

theorem steps_run (m : Machine) (code : Text) : (m.run code).steps = (events code).length := by
  rw [run_eq, events, ← steps_course m]
  split
  · rw [steps_note]
  · rfl

theorem represents_run (m : Machine) (code : Text) :
    Represents (m.run code) (ByteMachine.after (Text.lines code) (events code).length) := by
  have h := represents_course m (Text.lines code) commandLimit
  rw [ByteMachine.after, ← ByteMachine.iterate_step_length_trail] at h
  rw [run_eq]
  split
  · exact h.note _
  · exact h

/-- A run leaves the machine as the byte machine is when it stops: after the fewest lines that reach
the limit or pass the end of the program. -/
theorem run_refines_byteMachine (m : Machine) (code : Text) :
    ∃ k : Nat,
      IsLeast {n | n = commandLimit ∨
        (Text.lines code).length ≤ (ByteMachine.after (Text.lines code) n).pc} k ∧
      (m.run code).steps = k ∧
      (m.run code).pc = (ByteMachine.after (Text.lines code) k).pc ∧
      (m.run code).zx = (ByteMachine.after (Text.lines code) k).flag.toNat ∧
      ∀ r, (m.run code).registers.read r =
        ((ByteMachine.after (Text.lines code) k).registers r).toNat := by
  have h := represents_run m code
  exact ⟨(events code).length, ByteMachine.isLeast_length_trail _ _ _, steps_run m code,
    h.pc, h.zx, h.registers⟩

end Machine

end LineMachine
