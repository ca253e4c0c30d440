import LineMachine.Proofs.Machine.Ending
import LineMachine.Proofs.Machine.Meaning

/-!
# Two programs in lockstep

Two programs that have the same line at each place where the first one goes keep the machine in
step. Two such pairs of programs are of interest.

A program with more lines at its end does what the shorter one did. If the shorter one was given up,
or left at a line that the longer one does not have either, that is all. If not, the longer one goes
on from there (`run_append_lines`).

Programs of the same length may differ in all lines that are not executed, and the executed ones may
be spelled or misspelled in different ways (`run_eq_of_executed_alike`).
-/

namespace LineMachine

open ByteMachine

namespace Machine

/-! ### What a run keeps of each of its points -/

theorem steps_course_le (m : Machine) (code : Text) {k : Nat} (hk : k ≤ commandLimit) :
    (m.course (Text.lines code) k).steps ≤ (m.run code).steps := by
  have htrail := trail_prefix_trail (Text.lines code) hk start
  rw [steps_course, steps_run, events]
  exact Int.ofNat_le.mpr htrail.length_le

theorem log_course_prefix_log (m : Machine) (code : Text) {k : Nat} (hk : k ≤ commandLimit) :
    (m.course (Text.lines code) k).log.toList <+: (m.run code).log.toList := by
  have htrail := trail_prefix_trail (Text.lines code) hk start
  rw [log_course, log_run, List.cons_append, List.prefix_cons_inj, events]
  exact (htrail.filterMap _).trans (List.prefix_append _ _)

/-! ### Programs that agree where the first one goes -/

/-- Programs run alike if they mean the same at each line that the first one executes, and the
second one has no line either where the first one leaves. -/
theorem run_congr_of_executed {m : Machine} {code code' : Text}
    (hexecuted : ∀ k < (events code).length,
      (Text.lines code)[(m.course (Text.lines code) k).pc.toNat]?.map Instruction.meaning =
        (Text.lines code')[(m.course (Text.lines code) k).pc.toNat]?.map Instruction.meaning)
    (hend : (m.run code).steps ≠ commandLimit → (Text.lines code').length ≤ (m.run code).pc) :
    m.run code = m.run code' := by
  apply run_congr_of_course
  intro j hj
  by_cases hrunning : j < (events code).length
  · exact hexecuted j hrunning
  · -- The first run is over before the limit, and neither program has a line at its counter.
    have hsteps := steps_run m code
    have hne : (m.run code).steps ≠ commandLimit := by omega
    have hpast := (endsPastLastLine_run hne).pc
    have hpast' := hend hne
    rw [course_eq_run hne (Nat.not_lt.mp hrunning), List.getElem?_eq_none (by omega),
      List.getElem?_eq_none (by omega)]

/-! ### More lines at the end -/

section Append

variable {m : Machine} {code code' : Text} {extra : List Text}
  (h : Text.lines code' = Text.lines code ++ extra)

include h

theorem length_lines_le_of_append : (Text.lines code).length ≤ (Text.lines code').length := by
  rw [h, List.length_append]
  exact Nat.le_add_right _ _

/-- Until it ends, a run does not notice the lines at the end. -/
theorem getElem?_lines_of_append {k : Nat} (hk : k < (events code).length) :
    (Text.lines code')[(m.course (Text.lines code) k).pc.toNat]? =
      (Text.lines code)[(m.course (Text.lines code) k).pc.toNat]? := by
  rw [h, List.getElem?_append_left (pc_course_lt m hk)]

theorem course_of_append {k : Nat} (hk : k ≤ (events code).length) :
    m.course (Text.lines code) k = m.course (Text.lines code') k := by
  apply course_congr
  intro j hj
  rw [getElem?_lines_of_append h (Nat.lt_of_lt_of_le hj hk)]

theorem run_of_append
    (hend : (m.run code).steps = commandLimit ∨ (Text.lines code').length ≤ (m.run code).pc) :
    m.run code' = m.run code := by
  symm
  apply run_congr_of_executed
  · intro k hk
    rw [getElem?_lines_of_append h hk]
  · intro hne
    exact hend.resolve_left hne

/-- The longer program comes to where the shorter one has ended. -/
theorem course_of_append_eq_run (hend : (m.run code).steps ≠ commandLimit) :
    m.course (Text.lines code') (events code).length = m.run code := by
  rw [← course_of_append h (Nat.le_refl _), course_eq_run hend (Nat.le_refl _)]

theorem getElem?_points_of_append (hend : (m.run code).steps ≠ commandLimit) :
    (m.points code')[(m.run code).steps.toNat]? = some (m.run code) := by
  have hhistory : (m.points code')[(events code).length]? =
      some (m.course (Text.lines code') (events code).length) := by
    apply getElem?_history (length_events_le code)
    intro j hj
    rw [← course, ← course_of_append h hj.le]
    exact Nat.lt_of_lt_of_le (pc_course_lt m hj) (length_lines_le_of_append h)
  rw [steps_run, Int.toNat_natCast, hhistory, course_of_append_eq_run h hend]

end Append

/-- Lines at the end of a program do not change what it did without them. If it was given up, or if
it left for a line that the longer program does not have either, both leave the machine the same. If
not, the longer program passes through the machine as the shorter one left it, and goes on. -/
theorem run_append_lines (m : Machine) {code code' : Text} {extra : List Text}
    (h : Text.lines code' = Text.lines code ++ extra) :
    ((m.run code).steps = commandLimit ∨ (Text.lines code').length ≤ (m.run code).pc →
      m.run code' = m.run code) ∧
    (¬ ((m.run code).steps = commandLimit ∨ (Text.lines code').length ≤ (m.run code).pc) →
      (m.run code).snapshot.log <+: (m.run code').snapshot.log ∧
      (m.run code).steps ≤ (m.run code').steps ∧
      (m.points code')[(m.run code).steps.toNat]? = some (m.run code)) := by
  refine ⟨run_of_append h, fun hend => ?_⟩
  have hne : (m.run code).steps ≠ commandLimit := fun hlimit => hend (Or.inl hlimit)
  have hcourse := course_of_append_eq_run h hne
  have hlog := log_course_prefix_log m code' (length_events_le code)
  have hsteps := steps_course_le m code' (length_events_le code)
  rw [hcourse] at hlog hsteps
  exact ⟨hlog.map Entry.text, hsteps, getElem?_points_of_append h hne⟩

/-- A jump past the end of the shorter program lands inside the longer one. -/
theorem run_append_lines_jump :
    let m : Machine := { pc := -3, verbose := true }
    let code := Text.ascii "JMP 3"
    let code' := Text.ascii "JMP 3\nMOV 1, AX\r\nMOV 2, BX"
    Text.lines code' = Text.lines code ++ [Text.ascii "MOV 1, AX", Text.ascii "MOV 2, BX"] ∧
      ¬ ((m.run code).steps = commandLimit ∨ (Text.lines code').length ≤ (m.run code).pc) ∧
      (m.run code).snapshot.log <+: (m.run code').snapshot.log ∧
      (m.run code).steps ≤ (m.run code').steps ∧
      (m.points code')[(m.run code).steps.toNat]? = some (m.run code) := by
  intro m code code'
  have h : Text.lines code' =
      Text.lines code ++ [Text.ascii "MOV 1, AX", Text.ascii "MOV 2, BX"] := by decide +kernel
  have hend : ¬ ((m.run code).steps = commandLimit ∨
      (Text.lines code').length ≤ (m.run code).pc) := by decide +kernel
  exact ⟨h, hend, (run_append_lines m h).2 hend⟩

/-! ### Other lines where the run does not go -/

/-- Of a program only the lines that are executed count, and of these only what they mean. Any other
program with as many lines may differ from it everywhere else. -/
theorem run_eq_of_executed_alike (m : Machine) {code code' : Text}
    (hlength : (Text.lines code).length = (Text.lines code').length)
    (h : ∀ p ∈ m.beginnings code, ∀ line line' : Text,
      (Text.lines code)[p.pc.toNat]? = some line → (Text.lines code')[p.pc.toNat]? = some line' →
      Instruction.meaning line = Instruction.meaning line') :
    m.run code = m.run code' := by
  apply run_congr_of_executed
  · intro k hk
    have hpc := pc_course_lt m hk
    have hline := List.getElem?_eq_getElem hpc
    have hline' := List.getElem?_eq_getElem (hlength ▸ hpc)
    have hmeaning := h _ (mem_beginnings.mpr ⟨k, hk, rfl⟩) _ _ hline hline'
    rw [hline, hline', Option.map_some, Option.map_some, hmeaning]
  · intro hne
    rw [← hlength]
    exact (endsPastLastLine_run hne).pc

/-- A misspelled line, a number with other digits, and a line that is jumped over. -/
theorem run_eq_of_executed_alike_misspelled :
    let m : Machine := { zx := 1, steps := 9 }
    let code := Text.ascii "foo\nJMP 4\nADD AX, BX\nMOV 1, AX"
    let code' := Text.ascii "MOV x\nJMP 004\nno command\nMOV 01, AX"
    (Text.lines code).length = (Text.lines code').length ∧
      (∀ p ∈ m.beginnings code, ∀ line line' : Text,
        (Text.lines code)[p.pc.toNat]? = some line → (Text.lines code')[p.pc.toNat]? = some line' →
        Instruction.meaning line = Instruction.meaning line') ∧
      m.run code = m.run code' := by
  intro m code code'
  have hlength : (Text.lines code).length = (Text.lines code').length := by decide +kernel
  have hmap : ∀ p ∈ m.beginnings code, (Text.lines code)[p.pc.toNat]?.map Instruction.meaning =
      (Text.lines code')[p.pc.toNat]?.map Instruction.meaning := by decide +kernel
  have h : ∀ p ∈ m.beginnings code, ∀ line line' : Text,
      (Text.lines code)[p.pc.toNat]? = some line → (Text.lines code')[p.pc.toNat]? = some line' →
      Instruction.meaning line = Instruction.meaning line' := by
    intro p hp line line' hline hline'
    have hmeaning := hmap p hp
    rw [hline, hline'] at hmeaning
    exact Option.some.inj hmeaning
  exact ⟨hlength, h, run_eq_of_executed_alike m hlength h⟩

end Machine

end LineMachine
