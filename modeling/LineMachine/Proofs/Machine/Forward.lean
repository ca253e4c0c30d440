import LineMachine.Proofs.Machine.Ending
import Mathlib.Data.List.Chain
import Mathlib.Data.List.Range

/-!
# Jumps that go forward

A jump names its target by the number of a line, and lines are numbered from one. The counter holds
the index of a line, which is one less. `OnlyForward` says of a program that each of its jumps goes
to a line further down, or to line zero and thus nowhere. Such a program executes no line twice, so
it can reach the limit only if it has as many lines.

`StaysInLine` says of a run that no jump takes it anywhere but to the next line. Then the counter is
the number of executed lines all along (`StaysInLine.pc_course`), and the run goes through the
program from its first line to its last, or to the limit.
-/

namespace LineMachine

/-- The condition and the target of a line that is a jump. -/
def Instruction.jumpOf? (line : Text) : Option (Condition × Nat) :=
  match decode line with
  | .ok (.jump c t) => some (c, t)
  | _ => none

theorem Instruction.jumpOf?_of_decode {line : Text} {c : Condition} {t : Nat}
    (h : decode line = .ok (.jump c t)) : jumpOf? line = some (c, t) := by
  rw [jumpOf?, h]

/-- Each jump goes to a line with a greater number than its own, or to line zero. -/
def OnlyForward (lines : List Text) : Prop :=
  ∀ p ∈ lines.zipIdx 1, ∀ j ∈ Instruction.jumpOf? p.1, j.2 = 0 ∨ p.2 < j.2

instance (lines : List Text) : Decidable (OnlyForward lines) :=
  inferInstanceAs (Decidable (∀ _ ∈ _, _))

/-- No line is a jump. -/
def JumpFree (lines : List Text) : Prop := ∀ line ∈ lines, Instruction.jumpOf? line = none

instance (lines : List Text) : Decidable (JumpFree lines) :=
  inferInstanceAs (Decidable (∀ _ ∈ _, _))

theorem OnlyForward.lt {lines : List Text} (h : OnlyForward lines) {i : Nat} {line : Text}
    (hline : lines[i]? = some line) {c : Condition} {t : Nat}
    (hjump : Instruction.decode line = .ok (.jump c t)) (ht : t ≠ 0) : i + 1 < t := by
  have hmem : (line, i + 1) ∈ lines.zipIdx 1 := by
    rw [List.mem_zipIdx_iff_le_and_getElem?_sub, Nat.add_sub_cancel]
    exact ⟨Nat.le_add_left 1 i, hline⟩
  exact (h _ hmem _ (Instruction.jumpOf?_of_decode hjump)).resolve_left ht

theorem JumpFree.onlyForward {lines : List Text} (h : JumpFree lines) : OnlyForward lines := by
  intro p hp j hj
  rw [h p.1 (List.fst_mem_of_mem_zipIdx hp)] at hj
  cases hj

namespace Machine

/-- No jump is taken to a line other than the next one. The line at the counter has the number
`pc + 1`. -/
def StaysInLine (m : Machine) (code : Text) : Prop :=
  ∀ p ∈ m.beginnings code, ∀ line ∈ (Text.lines code)[p.pc.toNat]?,
    ∀ j ∈ Instruction.jumpOf? line, j.1.holds p.zx = true → j.2 = 0 ∨ (j.2 : Int) = p.pc + 1 + 1

instance (m : Machine) (code : Text) : Decidable (m.StaysInLine code) :=
  inferInstanceAs (Decidable (∀ _ ∈ _, _))

/-! ### One line -/

theorem pc_proceed {m : Machine} {lines : List Text} {line : Text}
    (hline : lines[m.pc.toNat]? = some line) :
    (m.proceed lines).pc = m.pc + 1 ∨
      ∃ c t, Instruction.decode line = .ok (.jump c t) ∧ c.holds m.zx = true ∧ t ≠ 0 ∧
        (m.proceed lines).pc = t - 1 := by
  rw [proceed_of_getElem?_eq_some hline]
  refine (m.pc_execute (Instruction.decodeLine (m.pc + 1) line)).imp_right ?_
  rintro ⟨c, t, hjump, hholds, ht, hpc⟩
  exact ⟨c, t, Instruction.decode_of_decodeLine hjump, hholds, ht, hpc⟩

theorem pc_lt_pc_proceed {m : Machine} {lines : List Text} {line : Text}
    (h : OnlyForward lines) (hline : lines[m.pc.toNat]? = some line) :
    m.pc < (m.proceed lines).pc := by
  rcases pc_proceed hline with hnext | ⟨c, t, hjump, -, ht, hpc⟩
  · omega
  · have hforward := h.lt hline hjump ht
    omega

/-! ### The lines of a run -/

theorem course_succ (m : Machine) (lines : List Text) (k : Nat) :
    m.course lines (k + 1) = (m.course lines k).proceed lines :=
  Function.iterate_succ_apply' _ _ _

theorem beginnings_eq (m : Machine) (code : Text) :
    m.beginnings code =
      (List.range (events code).length).map (m.course (Text.lines code)) := by
  apply List.ext_getElem?
  intro k
  ext p
  rw [getElem?_beginnings]
  by_cases hk : k < (events code).length <;> simp [hk]

section

variable {m : Machine} {code : Text}

theorem exists_line_of_lt {k : Nat} (m : Machine) (hk : k < (events code).length) :
    ∃ line, (Text.lines code)[(m.course (Text.lines code) k).pc.toNat]? = some line :=
  ⟨_, List.getElem?_eq_getElem (pc_course_lt m hk)⟩

theorem steps_of_limitText {t : Text} (ht : t ∈ (m.run code).snapshot.log)
    (hlimit : limitText <:+: t) : (m.run code).steps = commandLimit := by
  by_contra hne
  exact (endsPastLastLine_run hne).log t ht hlimit

/-- Each executed line moves the counter on. -/
def Advances (m : Machine) (code : Text) : Prop :=
  ∀ k < (events code).length,
    (m.course (Text.lines code) k).pc < (m.course (Text.lines code) (k + 1)).pc

theorem advances_of_onlyForward (h : OnlyForward (Text.lines code)) : m.Advances code := by
  intro k hk
  obtain ⟨line, hline⟩ := exists_line_of_lt m hk
  rw [course_succ]
  exact pc_lt_pc_proceed h hline

theorem Advances.le_pc_course (h : m.Advances code) {k : Nat} (hk : k ≤ (events code).length) :
    k ≤ (m.course (Text.lines code) k).pc := by
  induction k with
  | zero => exact Int.le_refl 0
  | succ k ih =>
      have hnext := h k hk
      have hbefore := ih (Nat.le_of_succ_le hk)
      omega

/-- The last executed line is a line of the program, and there are as many lines before it as have
been executed before. -/
theorem Advances.length_events_le (h : m.Advances code) :
    (events code).length ≤ min (Text.lines code).length commandLimit := by
  apply Nat.le_min.mpr ⟨?_, Machine.length_events_le code⟩
  rcases Nat.eq_zero_or_pos (events code).length with hzero | hpos
  · omega
  · have hlast := pc_course_lt m (Nat.sub_one_lt hpos.ne')
    have hle := h.le_pc_course (Nat.sub_le (events code).length 1)
    omega

theorem Advances.pairwise_pc (h : m.Advances code) :
    ((m.beginnings code).map pc).Pairwise (· < ·) := by
  rw [← List.isChain_iff_pairwise, beginnings_eq, List.map_map, List.isChain_map,
    List.isChain_range]
  intro k hk
  exact h k (by omega)

/-! ### One line after the other -/

theorem StaysInLine.pc_course_succ (h : m.StaysInLine code) {k : Nat}
    (hk : k < (events code).length) :
    (m.course (Text.lines code) (k + 1)).pc = (m.course (Text.lines code) k).pc + 1 := by
  obtain ⟨line, hline⟩ := exists_line_of_lt m hk
  rw [course_succ]
  rcases pc_proceed hline with hnext | ⟨c, t, hjump, hholds, ht, hpc⟩
  · exact hnext
  · have hmem : m.course (Text.lines code) k ∈ m.beginnings code :=
      mem_beginnings.mpr ⟨k, hk, rfl⟩
    have htarget := h _ hmem line hline _ (Instruction.jumpOf?_of_decode hjump) hholds
    rw [hpc, htarget.resolve_left ht]
    omega

theorem StaysInLine.advances (h : m.StaysInLine code) : m.Advances code := by
  intro k hk
  have hnext := h.pc_course_succ hk
  omega

/-- The counter is the number of executed lines. -/
theorem StaysInLine.pc_course (h : m.StaysInLine code) {k : Nat}
    (hk : k ≤ (events code).length) : (m.course (Text.lines code) k).pc = k := by
  induction k with
  | zero => rfl
  | succ k ih => rw [h.pc_course_succ hk, ih (Nat.le_of_succ_le hk), Int.natCast_succ]

theorem StaysInLine.length_events (h : m.StaysInLine code) :
    (events code).length = min (Text.lines code).length commandLimit := by
  apply Nat.le_antisymm h.advances.length_events_le
  by_cases hlimit : (m.run code).steps = commandLimit
  · rw [steps_run] at hlimit
    omega
  · -- The run has passed the last line, and its counter is the number of executed lines.
    have hpast := (endsPastLastLine_run hlimit).pc
    rw [← course_eq_run hlimit (Nat.le_refl _), h.pc_course (Nat.le_refl _)] at hpast
    omega

theorem StaysInLine.map_pc (h : m.StaysInLine code) :
    (m.beginnings code).map pc = (List.range (events code).length).map Int.ofNat := by
  rw [beginnings_eq, List.map_map]
  apply List.map_congr_left
  intro k hk
  exact h.pc_course (List.mem_range.mp hk).le

theorem StaysInLine.map_line (h : m.StaysInLine code) :
    (m.beginnings code).map (fun p => (Text.lines code)[p.pc.toNat]?) =
      ((Text.lines code).take (events code).length).map some := by
  apply List.ext_getElem?
  intro k
  rw [beginnings_eq, List.map_map, List.getElem?_map, List.getElem?_map, List.getElem?_take]
  by_cases hk : k < (events code).length
  · have hpc : (m.course (Text.lines code) k).pc.toNat = k := by
      rw [h.pc_course hk.le, Int.toNat_natCast]
    have hlt := pc_course_lt m hk
    rw [hpc] at hlt
    simp [hk, hpc, List.getElem?_eq_getElem hlt]
  · simp [hk]

end

theorem staysInLine_of_jumpFree {code : Text} (h : JumpFree (Text.lines code)) (m : Machine) :
    m.StaysInLine code := by
  intro p _ line hline j hj
  rw [h line (List.mem_of_getElem? hline)] at hj
  cases hj

/-- If the jumps of a program only go forward, the executed lines stand further and further down in
it, so there are no more of them than the program has lines, and the limit is told only if the
program has as many lines. If no jump is taken to a line other than the next one, the executed lines
are the first lines of the program, up to its end or to the limit. A program without jumps is both. -/
theorem run_of_onlyForward (m : Machine) (code : Text) :
    (OnlyForward (Text.lines code) →
      ((m.beginnings code).map pc).Pairwise (· < ·) ∧
      (m.run code).steps ≤ min (Text.lines code).length commandLimit ∧
      ((∃ t ∈ (m.run code).snapshot.log, limitText <:+: t) →
        commandLimit ≤ (Text.lines code).length)) ∧
    (m.StaysInLine code →
      (m.run code).steps = min (Text.lines code).length commandLimit ∧
      (m.beginnings code).map pc = (List.range (m.run code).steps.toNat).map Int.ofNat ∧
      (m.beginnings code).map (fun p => (Text.lines code)[p.pc.toNat]?) =
        ((Text.lines code).take (m.run code).steps.toNat).map some) ∧
    (JumpFree (Text.lines code) → OnlyForward (Text.lines code) ∧ m.StaysInLine code) := by
  have hsteps := steps_run m code
  refine ⟨fun h => ?_, fun h => ?_, fun h => ⟨h.onlyForward, staysInLine_of_jumpFree h m⟩⟩
  · have hadvances : m.Advances code := advances_of_onlyForward h
    have hle := hadvances.length_events_le
    refine ⟨hadvances.pairwise_pc, by omega, ?_⟩
    rintro ⟨t, ht, hlimit⟩
    have hend := steps_of_limitText ht hlimit
    omega
  · have hlength := h.length_events
    rw [hsteps, Int.toNat_natCast]
    exact ⟨by omega, h.map_pc, h.map_line⟩

/-- A jump over a line and one to line zero; jumps to the next line and to line zero, with one back
that is not taken; and no jump at all. -/
theorem run_of_onlyForward_detour :
    let m : Machine := { pc := 5, zx := 1 }
    let ahead := Text.ascii "JMP 3\nMOV 1, AX\nJNEQ 0\nMOV 2, BX"
    let straight := Text.ascii "JMP 2\nJEQ 1\nJNEQ 0\nMOV 300, AX"
    let plain := Text.ascii "MOV 1, AX\nno command"
    (OnlyForward (Text.lines ahead) ∧ ((m.beginnings ahead).map pc).Pairwise (· < ·) ∧
      (m.run ahead).steps ≤ min (Text.lines ahead).length commandLimit) ∧
    (m.StaysInLine straight ∧
      (m.run straight).steps = min (Text.lines straight).length commandLimit ∧
      (m.beginnings straight).map pc = (List.range (m.run straight).steps.toNat).map Int.ofNat) ∧
    (JumpFree (Text.lines plain) ∧ OnlyForward (Text.lines plain) ∧ m.StaysInLine plain) := by
  intro m ahead straight plain
  have hahead : OnlyForward (Text.lines ahead) := by decide +kernel
  have hstraight : m.StaysInLine straight := by decide +kernel
  have hplain : JumpFree (Text.lines plain) := by decide +kernel
  obtain ⟨hpc, hsteps, -⟩ := (run_of_onlyForward m ahead).1 hahead
  obtain ⟨hcount, hlines, -⟩ := (run_of_onlyForward m straight).2.1 hstraight
  exact ⟨⟨hahead, hpc, hsteps⟩, ⟨hstraight, hcount, hlines⟩, hplain,
    (run_of_onlyForward m plain).2.2 hplain⟩

end Machine

end LineMachine
