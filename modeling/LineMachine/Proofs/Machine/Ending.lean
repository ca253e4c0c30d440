import LineMachine.Proofs.Machine.Trace
import LineMachine.Proofs.Text.Decimal
import Mathlib.Logic.Basic

/-!
# How a run ends

A run ends past the last line or at the limit. The limit is looked at after a line has been executed
and before the end of the program is, so a program that passes its last line with the last line it
may execute ends at the limit (`run_ends_past_last_line_or_at_limit`).

The log tells the two apart. No entry quotes the program, so all bytes of an entry are known, and a
capital `T` stands in the entry of the limit only. What the machine was at each point of a run is in
`points`; up to the end of the run these are the turns of the loop (`getElem?_points`).
-/

namespace LineMachine

open ByteMachine

/-- The words of the entry of the limit. -/
def limitText : Text := Text.ascii "*** ERROR: Too many commands; exiting. ***"

namespace Text

/-- The byte is a visible one or the space, but no capital `T`. -/
def isPlain (b : UInt8) : Bool := 32 ≤ b.toNat && b.toNat ≤ 126 && b.toNat != 84

@[simp] theorem all_isPlain_ofNat (n : Nat) : (ofNat n).all isPlain = true := by
  rw [List.all_eq_true]
  intro b hb
  obtain ⟨hlow, hhigh⟩ := digit_iff_toNat.mp (isDigit_of_mem_ofNat hb)
  simp only [isPlain, Bool.and_eq_true, decide_eq_true_eq, bne_iff_ne]
  omega

@[simp] theorem all_isPlain_ofInt (i : Int) : (ofInt i).all isPlain = true := by
  cases i with
  | ofNat n => exact all_isPlain_ofNat n
  | negSucc n =>
      rw [ofInt, List.all_cons, all_isPlain_ofNat]
      rfl

end Text

open Text

@[simp] theorem Register.all_isPlain_name (r : Register) : r.name.all isPlain = true := by
  cases r <;> decide

namespace Message

theorem all_isPlain_warning (number : Int) (d : Register) (side bound : String)
    (hside : (ascii side).all isPlain = true) (hbound : (ascii bound).all isPlain = true) :
    (warning number d side bound).all isPlain = true := by
  simp only [warning, List.all_append, all_isPlain_ofInt, Register.all_isPlain_name, hside, hbound]
  decide

theorem all_isPlain_text {message : Message} (h : message ≠ .tooManyCommands) (number : Int) :
    (message.text number).all isPlain = true := by
  cases message with
  | unknownCommand =>
      rw [text]
      decide
  | moved v d =>
      simp only [text, List.all_append, all_isPlain_ofNat, Register.all_isPlain_name]
      decide
  | combined op s d =>
      simp only [text, List.all_append, Register.all_isPlain_name]
      cases op <;> decide
  | jumped c t =>
      simp only [text, List.all_append, all_isPlain_ofNat]
      cases c <;> decide
  | noSuchLine t =>
      simp only [text, List.all_append, all_isPlain_ofNat]
      decide
  | below d => exact all_isPlain_warning number d _ _ (by decide) (by decide)
  | above d => exact all_isPlain_warning number d _ _ (by decide) (by decide)
  | tooManyCommands => exact absurd rfl h

end Message

theorem not_limitText_infix {t : Text} (h : t.all isPlain = true) : ¬ limitText <:+: t := by
  intro hinfix
  have hmem : byte 'T' ∈ t := hinfix.subset (by decide)
  exact absurd (List.all_eq_true.mp h _ hmem) (by decide)

namespace ByteMachine.Event

theorem message?_ne_tooManyCommands (e : Event) : e.message? ≠ some .tooManyCommands := by
  intro h
  rcases hi : e.instruction? with _ | ⟨v, d⟩ | ⟨op, a, d⟩ | ⟨c, t⟩
  · simp [message?, hi] at h
  · rw [message?_of_write? (write?_of_move hi), Write.message] at h
    split_ifs at h <;> simp at h
  · rw [message?_of_write? (write?_of_combine hi), Write.message] at h
    split_ifs at h <;> simp at h
  · rw [message?_of_jump hi] at h
    split_ifs at h <;> simp at h

/-- No executed line tells of the limit. -/
theorem all_isPlain_of_logged? {e : Event} {t : Text} (h : e.logged? = some t) :
    t.all isPlain = true := by
  obtain ⟨message, hmessage, rfl⟩ := Option.map_eq_some_iff.mp h
  have hne : message ≠ .tooManyCommands := by
    rintro rfl
    exact e.message?_ne_tooManyCommands hmessage
  simp only [List.all_append, all_isPlain_ofNat, Message.all_isPlain_text hne]
  decide

end ByteMachine.Event

namespace Machine

/-- The run has passed the last line. -/
structure EndsPastLastLine (lines : List Text) (m : Machine) : Prop where
  steps : m.steps < commandLimit
  pc : lines.length ≤ m.pc
  log : ∀ t ∈ m.snapshot.log, ¬ limitText <:+: t

/-- The run has been given up: the last entry tells so with the number of the line that would have
come next, and no other entry does. -/
structure EndsAtLimit (m : Machine) : Prop where
  steps : m.steps = commandLimit
  log : ∃ earlier,
    m.snapshot.log =
      earlier ++ [Text.ascii "Line " ++ Text.ofInt (m.pc + 1) ++ Text.ascii ": " ++ limitText] ∧
    ∀ t ∈ earlier, ¬ limitText <:+: t

theorem all_isPlain_of_mem_log {code : Text} {t : Text}
    (h : t ∈ Text.ascii "Resetting all registers to their defaults..." ::
      (events code).filterMap Event.logged?) : t.all isPlain = true := by
  rcases List.mem_cons.mp h with rfl | h
  · decide
  · obtain ⟨e, -, he⟩ := List.mem_filterMap.mp h
    exact e.all_isPlain_of_logged? he

theorem endsAtLimit_run {m : Machine} {code : Text} (h : (m.run code).steps = commandLimit) :
    (m.run code).EndsAtLimit := by
  have hlog := snapshot_log_run m code
  rw [if_pos h] at hlog
  exact ⟨h, _, hlog, fun t ht => not_limitText_infix (all_isPlain_of_mem_log ht)⟩

theorem length_events_le (code : Text) : (events code).length ≤ commandLimit :=
  (isLeast_length_trail (Text.lines code) commandLimit start).2 (Or.inl rfl)

/-- A run goes on as long as the limit is not reached and the last line has not been passed. -/
theorem lt_length_events_iff {code : Text} {k : Nat} :
    k < (events code).length ↔
      k < commandLimit ∧
        ∀ j ≤ k, (after (Text.lines code) j).pc < (Text.lines code).length := by
  obtain ⟨hend, hleast⟩ := isLeast_length_trail (Text.lines code) commandLimit start
  constructor
  · intro hk
    refine ⟨Nat.lt_of_lt_of_le hk (hleast (Or.inl rfl)), fun j hj => ?_⟩
    by_contra hpast
    have hle := hleast (Or.inr (Nat.not_lt.mp hpast))
    exact Nat.not_le.mpr (Nat.lt_of_le_of_lt hj hk) hle
  · rintro ⟨hlimit, hinside⟩
    by_contra hk
    rcases hend with hend | hend
    · exact hk (hend ▸ hlimit)
    · exact Nat.not_le.mpr (hinside _ (Nat.not_lt.mp hk)) hend

theorem pc_after_lt {code : Text} {k : Nat} (hk : k < (events code).length) :
    (after (Text.lines code) k).pc < (Text.lines code).length :=
  (lt_length_events_iff.mp hk).2 k (Nat.le_refl k)

theorem endsPastLastLine_run {m : Machine} {code : Text} (h : (m.run code).steps ≠ commandLimit) :
    (m.run code).EndsPastLastLine (Text.lines code) := by
  have hlog := snapshot_log_run m code
  rw [if_neg h, List.append_nil] at hlog
  have hsteps := steps_run m code
  have hend := (isLeast_length_trail (Text.lines code) commandLimit start).1
  have hne : (events code).length ≠ commandLimit := fun heq => h (by rw [hsteps, heq])
  have hle := length_events_le code
  refine ⟨?_, ?_, ?_⟩
  · rw [hsteps]
    omega
  · rw [(represents_run m code).pc]
    exact Int.ofNat_le.mpr (hend.resolve_left hne)
  · intro t ht
    rw [hlog] at ht
    exact not_limitText_infix (all_isPlain_of_mem_log ht)

theorem pc_course_lt {code : Text} {k : Nat} (m : Machine) (hk : k < (events code).length) :
    (m.course (Text.lines code) k).pc.toNat < (Text.lines code).length := by
  rw [(represents_course m _ k).pc, Int.toNat_natCast]
  exact pc_after_lt hk

/-- Up to its end, the points of a run are the turns of its loop. -/
theorem getElem?_points {code : Text} {k : Nat} (m : Machine) (hk : k ≤ (events code).length) :
    (m.points code)[k]? = some (m.course (Text.lines code) k) := by
  exact getElem?_history (Nat.le_trans hk (length_events_le code)) fun j hj =>
    pc_course_lt m (Nat.lt_of_lt_of_le hj hk)

theorem getElem?_beginnings {m : Machine} {code : Text} {k : Nat} {p : Machine} :
    (m.beginnings code)[k]? = some p ↔
      k < (events code).length ∧ m.course (Text.lines code) k = p := by
  rw [beginnings, steps_run, Int.toNat_natCast, List.getElem?_take]
  by_cases hk : k < (events code).length
  · simp [hk, getElem?_points m hk.le]
  · simp [hk]

theorem mem_beginnings {m : Machine} {code : Text} {p : Machine} :
    p ∈ m.beginnings code ↔
      ∃ k < (events code).length, m.course (Text.lines code) k = p := by
  simp only [List.mem_iff_getElem?, getElem?_beginnings]

/-- Once the last line has been passed, the loop does not change the machine any more. -/
theorem course_eq_run {m : Machine} {code : Text} {k : Nat}
    (hend : (m.run code).steps ≠ commandLimit) (hk : (events code).length ≤ k) :
    m.course (Text.lines code) k = m.run code := by
  have hsteps := steps_run m code
  have hne : (events code).length ≠ commandLimit := fun heq => hend (by rw [hsteps, heq])
  have hpast := (isLeast_length_trail (Text.lines code) commandLimit start).1.resolve_left hne
  have hstop : (Text.lines code)[(m.course (Text.lines code) (events code).length).pc.toNat]? =
      none := by
    rw [(represents_course m _ _).pc, Int.toNat_natCast]
    exact List.getElem?_eq_none hpast
  have hstay : ∀ j, (events code).length ≤ j →
      m.course (Text.lines code) j = m.course (Text.lines code) (events code).length := by
    intro j hj
    obtain ⟨d, rfl⟩ := Nat.exists_eq_add_of_le' hj
    rw [course, Function.iterate_add_apply]
    exact Function.iterate_fixed (proceed_of_getElem?_eq_none hstop) d
  have hcourse : (m.course (Text.lines code) commandLimit).steps ≠ commandLimit := by
    rwa [steps_course, ← events, ← hsteps]
  rw [run_eq, if_neg hcourse, hstay k hk, hstay commandLimit (length_events_le code)]

/-- A run ends in exactly one of two ways. It executes lines of the program only, and none once the
counter has passed the last one. With a higher limit, a run that ends at the limit would go on with
the line at its counter, if there is one. -/
theorem run_ends_past_last_line_or_at_limit (m : Machine) (code : Text) :
    Xor ((m.run code).EndsPastLastLine (Text.lines code)) (m.run code).EndsAtLimit ∧
    (∀ k : Nat, k < (m.run code).steps →
      ∃ p line, (m.points code)[k]? = some p ∧ 0 ≤ p.pc ∧
        (Text.lines code)[p.pc.toNat]? = some line ∧
        (m.points code)[k + 1]? = some (p.step (Instruction.decodeLine (p.pc + 1) line))) ∧
    (∀ (k : Nat) p, (m.points code)[k]? = some p → (Text.lines code).length ≤ p.pc →
      (m.run code).steps ≤ k) ∧
    ((m.run code).steps = commandLimit →
      ∃ p, (m.points code)[commandLimit]? = some p ∧ m.run code = p.note .tooManyCommands ∧
        ∀ n told, (resume (Text.lines code).toArray (commandLimit + n) m.reset told).1 =
          (resume (Text.lines code).toArray n p told).1) := by
  have hsteps := steps_run m code
  refine ⟨?_, fun k hk => ?_, fun k p hp hpast => ?_, fun hlimit => ?_⟩
  · by_cases hlimit : (m.run code).steps = commandLimit
    · exact Or.inr ⟨endsAtLimit_run hlimit, fun hend => absurd hlimit hend.steps.ne⟩
    · exact Or.inl ⟨endsPastLastLine_run hlimit, fun hend => hlimit hend.steps⟩
  · have hk : k < (events code).length := by omega
    have hline := List.getElem?_eq_getElem (pc_course_lt m hk)
    refine ⟨_, _, getElem?_points m hk.le, ?_, hline, ?_⟩
    · rw [(represents_course m _ k).pc]
      exact Int.natCast_nonneg _
    · rw [getElem?_points m hk, course, Function.iterate_succ_apply',
        ← proceed_of_getElem?_eq_some hline]
      rfl
  · by_contra hk
    have hk : k < (events code).length := by omega
    have hlt := pc_course_lt m hk
    rw [getElem?_points m hk.le, Option.some.injEq] at hp
    rw [hp] at hlt
    omega
  · have hlength : commandLimit ≤ (events code).length := by omega
    have hcourse : (m.course (Text.lines code) commandLimit).steps = commandLimit := by
      rw [steps_course, ← hlimit, hsteps]
      rfl
    refine ⟨_, getElem?_points m hlength, ?_, resume_add hcourse⟩
    rw [run_eq, if_pos hcourse]

end Machine

end LineMachine
