import LineMachine.Proofs.Machine.Refinement

/-!
# What a program text means

A line that is no instruction does the same whatever it holds and whatever is wrong with it. So of a
line only its `meaning` counts. Two programs keep a machine in step as long as the lines that its
counter comes to mean the same (`course_congr`). Two texts whose lines have the same meanings
therefore run alike, with the same log (`run_congr`).
-/

namespace LineMachine

/-- The instruction that a line spells, if it spells one. -/
def Instruction.meaning (line : Text) : Option Instruction := (decode line).toOption

theorem Instruction.meaning_of_decode_error {line : Text} {e : DecodeError}
    (h : decode line = .error e) : meaning line = none := by
  rw [meaning, h, Except.toOption]

namespace Machine

theorem execute_congr {decoded decoded' : Except LineFault Instruction}
    (h : decoded.toOption = decoded'.toOption) (m : Machine) :
    m.execute decoded = m.execute decoded' := by
  cases decoded with
  | error fault =>
      cases decoded' with
      | error fault' => rfl
      | ok i' => cases h
  | ok i =>
      cases decoded' with
      | error fault' => cases h
      | ok i' => rw [Option.some.inj h]

theorem step_congr {line line' : Text} (h : Instruction.meaning line = Instruction.meaning line')
    (m : Machine) (number : Int) :
    m.step (Instruction.decodeLine number line) = m.step (Instruction.decodeLine number line') := by
  have hdecoded : (Instruction.decodeLine number line).toOption =
      (Instruction.decodeLine number line').toOption := by
    rw [Instruction.toOption_decodeLine, Instruction.toOption_decodeLine]
    exact h
  rw [step, step, execute_congr hdecoded]

theorem proceed_congr {lines lines' : List Text} {m : Machine}
    (h : lines[m.pc.toNat]?.map Instruction.meaning = lines'[m.pc.toNat]?.map Instruction.meaning) :
    m.proceed lines = m.proceed lines' := by
  unfold proceed
  cases hleft : lines[m.pc.toNat]? with
  | none =>
      cases hright : lines'[m.pc.toNat]? with
      | none => rfl
      | some line' => simp [hleft, hright] at h
  | some line =>
      cases hright : lines'[m.pc.toNat]? with
      | none => simp [hleft, hright] at h
      | some line' =>
          rw [hleft, hright, Option.map_some, Option.map_some, Option.some.injEq] at h
          exact step_congr h m (m.pc + 1)

/-- Two programs keep the machine in step as long as the lines at its counter mean the same. -/
theorem course_congr {m : Machine} {lines lines' : List Text} {k : Nat}
    (h : ∀ j < k, lines[(m.course lines j).pc.toNat]?.map Instruction.meaning =
      lines'[(m.course lines j).pc.toNat]?.map Instruction.meaning) :
    m.course lines k = m.course lines' k := by
  induction k with
  | zero => rfl
  | succ k ih =>
      have hk : m.course lines k = m.course lines' k := ih fun j hj => h j (Nat.lt_succ_of_lt hj)
      rw [course, course, Function.iterate_succ_apply', Function.iterate_succ_apply', ← course,
        ← course, ← hk]
      exact proceed_congr (h k (Nat.lt_succ_self k))

theorem run_congr_of_course {m : Machine} {code code' : Text}
    (h : ∀ j < commandLimit,
      (Text.lines code)[(m.course (Text.lines code) j).pc.toNat]?.map Instruction.meaning =
        (Text.lines code')[(m.course (Text.lines code) j).pc.toNat]?.map Instruction.meaning) :
    m.run code = m.run code' := by
  rw [run_eq, run_eq, course_congr h]

/-- Texts whose lines mean the same run alike. -/
theorem run_congr {code code' : Text} (h : (Text.lines code).map Instruction.meaning =
    (Text.lines code').map Instruction.meaning) (m : Machine) : m.run code = m.run code' := by
  apply run_congr_of_course
  intro j _
  rw [← List.getElem?_map, ← List.getElem?_map, h]

end Machine

end LineMachine
