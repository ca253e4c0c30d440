import LineMachine.Machine.Run
import Mathlib.Logic.Function.Iterate

/-!
# The course of a run

`proceed lines` is one turn of the loop of a run: it executes and counts the line at the program
counter, and does nothing once the last line has been passed. A run is an iterate of it, with the
entry of the limit added if every one of the turns has executed a line (`run_eq`). The machine as it
stands after the reset and `k` turns is `course m lines k`.

What a run keeps is therefore proved in two parts: what `proceed` keeps, and an induction on the
number of turns. Where the machine itself is asked for at each point of a run, `points` lists it, and
`beginnings` lists it at the points from which a line is executed. Both the run and this list take
one turn at a time (`resume_of_getElem?_eq_some`, `history_of_getElem?_eq_some`).
-/

namespace LineMachine

namespace Machine

/-- Execute and count the line at the program counter, if there is one. -/
def proceed (lines : List Text) (m : Machine) : Machine :=
  match lines[m.pc.toNat]? with
  | none => m
  | some line => m.step (Instruction.decodeLine (m.pc + 1) line)

/-- What a verbose machine tells of the line that it is about to execute. -/
def telling (lines : List Text) (p : Machine) : Diagnostic :=
  .ofLine (p.pc + 1) (Instruction.decodeLine (p.pc + 1) (lines[p.pc.toNat]?.getD []))

/-- The machine after the reset and `k` turns of the loop. -/
def course (m : Machine) (lines : List Text) (k : Nat) : Machine := (proceed lines)^[k] m.reset

theorem proceed_of_getElem?_eq_none {lines : List Text} {m : Machine}
    (h : lines[m.pc.toNat]? = none) : m.proceed lines = m := by
  rw [proceed, h]

theorem proceed_of_getElem?_eq_some {lines : List Text} {m : Machine} {line : Text}
    (h : lines[m.pc.toNat]? = some line) :
    m.proceed lines = m.step (Instruction.decodeLine (m.pc + 1) line) := by
  rw [proceed, h]

@[simp] theorem pc_note (m : Machine) (message : Message) : (m.note message).pc = m.pc := rfl

@[simp] theorem zx_note (m : Machine) (message : Message) : (m.note message).zx = m.zx := rfl

@[simp] theorem registers_note (m : Machine) (message : Message) :
    (m.note message).registers = m.registers := rfl

@[simp] theorem steps_note (m : Machine) (message : Message) :
    (m.note message).steps = m.steps := rfl

theorem steps_execute (m : Machine) (decoded : Except LineFault Instruction) :
    (m.execute decoded).steps = m.steps := by
  rcases decoded with fault | ⟨v, d⟩ | ⟨op, s, d⟩ | ⟨c, t⟩
  · rfl
  · rfl
  · rfl
  · rw [execute]
    split
    · split <;> rfl
    · rfl

theorem steps_step (m : Machine) (decoded : Except LineFault Instruction) :
    (m.step decoded).steps = m.steps + 1 := by
  rw [step, steps_execute]

/-- The counter moves on by one, or to the line of a jump that is taken. -/
theorem pc_execute (m : Machine) (decoded : Except LineFault Instruction) :
    (m.execute decoded).pc = m.pc + 1 ∨
      ∃ c t, decoded = .ok (.jump c t) ∧ c.holds m.zx = true ∧ t ≠ 0 ∧
        (m.execute decoded).pc = t - 1 := by
  rcases decoded with fault | ⟨v, d⟩ | ⟨op, s, d⟩ | ⟨c, t⟩
  · exact Or.inl rfl
  · exact Or.inl rfl
  · exact Or.inl rfl
  · rw [execute]
    split
    · next hholds =>
      split
      · exact Or.inl rfl
      · next ht => exact Or.inr ⟨c, t, rfl, hholds, ht, rfl⟩
    · exact Or.inl rfl

theorem steps_proceed {lines : List Text} {m : Machine} {line : Text}
    (h : lines[m.pc.toNat]? = some line) : (m.proceed lines).steps = m.steps + 1 := by
  rw [proceed_of_getElem?_eq_some h, steps_step]

theorem resume_of_getElem?_eq_none {lines : List Text} {m : Machine}
    (h : lines[m.pc.toNat]? = none) (n : Nat) (told : Array Diagnostic) :
    resume lines.toArray (n + 1) m told = (m, told.push (.finished m.steps)) := by
  rw [resume, List.getElem?_toArray, h]

theorem resume_of_getElem?_eq_some {lines : List Text} {m : Machine} {line : Text}
    (h : lines[m.pc.toNat]? = some line) (n : Nat) (told : Array Diagnostic) :
    resume lines.toArray (n + 1) m told =
      resume lines.toArray n (m.proceed lines) (told.push (m.telling lines)) := by
  rw [resume, List.getElem?_toArray, proceed_of_getElem?_eq_some h, telling, h]
  rfl

/-- Whether `n` lines were left to execute can be read off the count afterwards. -/
theorem resume_fst (lines : List Text) (n : Nat) (m : Machine) (told : Array Diagnostic) :
    (resume lines.toArray n m told).1 =
      if ((proceed lines)^[n] m).steps = m.steps + n then
        ((proceed lines)^[n] m).note .tooManyCommands
      else (proceed lines)^[n] m := by
  induction n generalizing m told with
  | zero => simp [resume]
  | succ n ih =>
      rw [Function.iterate_succ_apply]
      cases h : lines[m.pc.toNat]? with
      | none =>
          have hfix : m.proceed lines = m := proceed_of_getElem?_eq_none h
          rw [resume_of_getElem?_eq_none h, hfix, Function.iterate_fixed hfix, if_neg (by omega)]
      | some line =>
          have hsteps : m.steps + (n + 1 : Nat) = m.steps + 1 + n := by omega
          rw [resume_of_getElem?_eq_some h, hsteps, ← steps_proceed h]
          exact ih _ _

theorem run_eq (m : Machine) (code : Text) :
    m.run code =
      if (m.course (Text.lines code) commandLimit).steps = commandLimit then
        (m.course (Text.lines code) commandLimit).note .tooManyCommands
      else m.course (Text.lines code) commandLimit := by
  have hreset : m.reset.steps + commandLimit = commandLimit := Int.zero_add _
  rw [run, runTelling, resume_fst, hreset]
  rfl

/-- A run that is not cut off at the limit goes on from where it was. -/
theorem resume_add {m : Machine} {lines : List Text} {k : Nat}
    (h : (m.course lines k).steps = k) (n : Nat) (told : Array Diagnostic) :
    (resume lines.toArray (k + n) m.reset told).1 =
      (resume lines.toArray n (m.course lines k) told).1 := by
  have hcount : m.reset.steps + (k + n : Nat) = (m.course lines k).steps + n := by
    rw [h, show m.reset.steps = 0 from rfl]
    omega
  rw [resume_fst, resume_fst, hcount, Nat.add_comm k n, Function.iterate_add_apply]
  rfl

/-- The machine at each point of what is left of a run: before each line, after the last one, and
after the entry of the limit. -/
def history (m : Machine) (lines : List Text) : Nat → List Machine
  | 0 => [m, m.note .tooManyCommands]
  | n + 1 =>
    match lines[m.pc.toNat]? with
    | none => [m]
    | some line => m :: (m.step (Instruction.decodeLine (m.pc + 1) line)).history lines n

/-- The machine at each point of a run after the reset. -/
def points (m : Machine) (code : Text) : List Machine :=
  m.reset.history (Text.lines code) commandLimit

/-- The machine before each line that a run executes. -/
def beginnings (m : Machine) (code : Text) : List Machine :=
  (m.points code).take (m.run code).steps.toNat

theorem history_of_getElem?_eq_none {m : Machine} {lines : List Text}
    (h : lines[m.pc.toNat]? = none) (n : Nat) : m.history lines (n + 1) = [m] := by
  rw [history, h]

theorem history_of_getElem?_eq_some {m : Machine} {lines : List Text} {line : Text}
    (h : lines[m.pc.toNat]? = some line) (n : Nat) :
    m.history lines (n + 1) = m :: (m.proceed lines).history lines n := by
  rw [history, proceed_of_getElem?_eq_some h, h]

theorem history_ne_nil (m : Machine) (lines : List Text) (n : Nat) : m.history lines n ≠ [] := by
  cases n with
  | zero => simp [history]
  | succ n =>
      rw [history]
      split <;> simp

/-- As long as there are lines, the points of a run are the turns of its loop. -/
theorem getElem?_history {m : Machine} {lines : List Text} {n k : Nat} (hk : k ≤ n)
    (h : ∀ j < k, ((proceed lines)^[j] m).pc.toNat < lines.length) :
    (m.history lines n)[k]? = some ((proceed lines)^[k] m) := by
  induction k generalizing m n with
  | zero =>
      cases n with
      | zero => rfl
      | succ n =>
          rw [history]
          split <;> rfl
  | succ k ih =>
      obtain ⟨n, rfl⟩ : ∃ i, n = i + 1 := ⟨n - 1, by omega⟩
      have hlt : m.pc.toNat < lines.length := h 0 (Nat.succ_pos k)
      rw [history_of_getElem?_eq_some (List.getElem?_eq_getElem hlt), List.getElem?_cons_succ,
        Function.iterate_succ_apply]
      apply ih (Nat.le_of_succ_le_succ hk)
      intro j hj
      have hnext := h (j + 1) (Nat.succ_lt_succ hj)
      rwa [Function.iterate_succ_apply] at hnext

theorem getLast?_history (m : Machine) (lines : List Text) (n : Nat) (told : Array Diagnostic) :
    (m.history lines n).getLast? = some (resume lines.toArray n m told).1 := by
  induction n generalizing m told with
  | zero => rfl
  | succ n ih =>
      cases h : lines[m.pc.toNat]? with
      | none =>
          rw [history_of_getElem?_eq_none h, resume_of_getElem?_eq_none h, List.getLast?_singleton]
      | some line =>
          rw [history_of_getElem?_eq_some h, resume_of_getElem?_eq_some h,
            List.getLast?_cons_of_ne_nil (history_ne_nil _ _ _)]
          exact ih _ _

theorem getLast?_points (m : Machine) (code : Text) :
    (m.points code).getLast? = some (m.run code) :=
  getLast?_history _ _ _ _

end Machine

end LineMachine
