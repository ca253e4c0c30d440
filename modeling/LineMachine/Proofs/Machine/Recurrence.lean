import LineMachine.Proofs.Machine.Ending

/-!
# Configurations that come again

The configuration of a machine is its counter, its registers and its flag. What a line does to these
depends on nothing else, neither on the log nor on the number of lines executed so far. The state of
the byte machine is read off the configuration (`Represents.eq_of_configuration`), so from equal
configurations two points of a run have equal futures (`after_add_eq`).

If the run passed the last line after a configuration had come again, it would have passed it one
round earlier. Hence such a run goes on until it is given up.
-/

namespace LineMachine

open ByteMachine

/-- What the rest of a run depends on. -/
structure Configuration where
  pc : Int
  registers : Bank
  zx : Int
  deriving DecidableEq

def Machine.configuration (m : Machine) : Configuration := ⟨m.pc, m.registers, m.zx⟩

theorem Represents.eq_of_configuration {p q : Machine} {s t : ByteMachine} (hp : Represents p s)
    (hq : Represents q t) (h : p.configuration = q.configuration) : s = t := by
  rw [Machine.configuration, Machine.configuration, Configuration.mk.injEq] at h
  obtain ⟨hpc, hregisters, hzx⟩ := h
  apply ByteMachine.ext
  · funext r
    have hr := hp.registers r
    rw [hregisters, hq.registers, Int.natCast_inj, UInt8.toNat_inj] at hr
    exact hr.symm
  · rw [hp.zx, hq.zx, Int.natCast_inj] at hzx
    rw [← Bool.ofNat_toNat s.flag, hzx, Bool.ofNat_toNat]
  · rw [hp.pc, hq.pc, Int.natCast_inj] at hpc
    exact hpc

theorem ByteMachine.after_add_eq {lines : List Text} {i j : Nat}
    (h : after lines i = after lines j) (d : Nat) : after lines (d + i) = after lines (d + j) := by
  rw [after, after, Function.iterate_add_apply, Function.iterate_add_apply, ← after, ← after, h]

namespace Machine

/-- The end of the program cannot be reached behind a state that comes again. -/
theorem length_events_of_after_eq {code : Text} {i j : Nat} (hij : i < j)
    (hj : j < (events code).length)
    (h : after (Text.lines code) i = after (Text.lines code) j) :
    (events code).length = commandLimit := by
  by_contra hne
  obtain ⟨d, hd⟩ := Nat.exists_eq_add_of_le' hj.le
  have hpast := (isLeast_length_trail (Text.lines code) commandLimit start).1.resolve_left hne
  have hearlier : (after (Text.lines code) (d + i)).pc < (Text.lines code).length :=
    pc_after_lt (by omega)
  rw [after_add_eq h, ← hd] at hearlier
  exact Nat.not_le.mpr hearlier hpast

theorem endsAtLimit_of_configuration_eq {m p q : Machine} {code : Text} {i j : Nat} (hij : i < j)
    (hp : (m.beginnings code)[i]? = some p) (hq : (m.beginnings code)[j]? = some q)
    (h : p.configuration = q.configuration) : (m.run code).EndsAtLimit := by
  obtain ⟨-, rfl⟩ := getElem?_beginnings.mp hp
  obtain ⟨hj, rfl⟩ := getElem?_beginnings.mp hq
  have hstate := (represents_course m _ i).eq_of_configuration (represents_course m _ j) h
  apply endsAtLimit_run
  rw [steps_run, length_events_of_after_eq hij hj hstate]

/-- If two of the executed lines of a run begin in the same configuration, the run is given up at
the limit. So in a run that passes the last line, no configuration comes twice. -/
theorem run_endsAtLimit_of_revisited (m : Machine) (code : Text) :
    (∀ (i j : Nat) (p q : Machine), i ≠ j → (m.beginnings code)[i]? = some p →
      (m.beginnings code)[j]? = some q → p.configuration = q.configuration → (m.run code).EndsAtLimit) ∧
    ((m.run code).EndsPastLastLine (Text.lines code) →
      ((m.beginnings code).map configuration).Nodup) := by
  constructor
  · intro i j p q hij hp hq h
    rcases Nat.lt_or_gt_of_ne hij with hlt | hgt
    · exact endsAtLimit_of_configuration_eq hlt hp hq h
    · exact endsAtLimit_of_configuration_eq hgt hq hp h.symm
  · intro hend
    rw [List.Nodup, List.pairwise_map, List.pairwise_iff_getElem]
    intro i j hi hj hij h
    have hlimit := endsAtLimit_of_configuration_eq hij (List.getElem?_eq_getElem hi)
      (List.getElem?_eq_getElem hj) h
    exact absurd hlimit.steps hend.steps.ne

/-- A loop that writes the same value again and again, with a warning each time. -/
theorem run_endsAtLimit_of_revisited_loop :
    let m : Machine := { zx := 1, steps := 7, verbose := true }
    let code := Text.ascii "MOV 300, AX\nJMP 1"
    ∃ p q, (m.beginnings code)[1]? = some p ∧ (m.beginnings code)[3]? = some q ∧
      p.configuration = q.configuration ∧ (m.run code).EndsAtLimit := by
  intro m code
  have hlast : 3 < (events code).length := lt_length_events_iff.mpr (by decide +kernel)
  have hp : (m.beginnings code)[1]? = some (m.course (Text.lines code) 1) :=
    getElem?_beginnings.mpr ⟨Nat.lt_trans (by decide) hlast, rfl⟩
  have hq : (m.beginnings code)[3]? = some (m.course (Text.lines code) 3) :=
    getElem?_beginnings.mpr ⟨hlast, rfl⟩
  have h : (m.course (Text.lines code) 1).configuration =
      (m.course (Text.lines code) 3).configuration := by decide +kernel
  exact ⟨_, _, hp, hq, h, (run_endsAtLimit_of_revisited m code).1 1 3 _ _ (by decide) hp hq h⟩

end Machine

end LineMachine
