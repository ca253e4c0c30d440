import LineMachine.Machine.Snapshot
import LineMachine.Proofs.Machine.Refinement

/-!
# The log is the trace of the run

What an executed line tells follows from the line and from the state of the byte machine before it.
`Event.message?` says what it is, and `Event.Tells` lists the rules that it obeys. A register
instruction is judged by its exact result, a number that may lie outside a byte.

The log of a run has the entry of the reset, then the entries of the executed lines in order, and
then the entry of the limit if it was reached (`log_run`). No other entry is ever made.
-/

namespace LineMachine

/-- The exact result of a command with two registers, from the bytes of destination and source. -/
def Operation.exact (op : Operation) (dst src : UInt8) : Int :=
  match op with
  | .add => dst.toNat + src.toNat
  | .sub => dst.toNat - src.toNat
  | .copy => src.toNat
  | .and => (dst &&& src).toNat
  | .or => (dst ||| src).toNat
  | .cmp => dst.toNat

theorem Operation.result_toNat (op : Operation) (dst src : UInt8) :
    op.result dst.toNat src.toNat = op.exact dst src := by
  cases op with
  | and => simp [result, exact]
  | or => simp [result, exact]
  | add | sub | copy | cmp => rfl

/-- Only a sum leaves the range of a byte at its upper end. -/
theorem Operation.eq_add_of_exact_gt {op : Operation} {dst src : UInt8}
    (h : 255 < op.exact dst src) : op = .add := by
  have hd := dst.toNat_lt
  have hs := src.toNat_lt
  have hand := (dst &&& src).toNat_lt
  have hor := (dst ||| src).toNat_lt
  cases op with
  | add => rfl
  | sub | copy | and | or | cmp => simp only [exact] at h; omega

/-- Only a difference leaves the range of a byte at its lower end. -/
theorem Operation.eq_sub_of_exact_neg {op : Operation} {dst src : UInt8}
    (h : op.exact dst src < 0) : op = .sub := by
  cases op with
  | sub => rfl
  | add | copy | and | or | cmp => simp only [exact] at h; omega

namespace ByteMachine

namespace Event

/-- The write of a register instruction: its destination, its exact result, and the message of its
success. -/
structure Write where
  dst : Register
  result : Int
  done : Message

/-- What a write tells. -/
def Write.message (w : Write) : Message :=
  if 255 < w.result then .above w.dst
  else if w.result < 0 then .below w.dst
  else w.done

/-- The write of an executed line, if it is a register instruction. -/
def write? (e : Event) : Option Write :=
  match e.instruction? with
  | some (.move v d) => some ⟨d, v, .moved v d⟩
  | some (.combine op a d) =>
    some ⟨d, op.exact (e.before.registers d) (e.before.registers a), .combined op a d⟩
  | _ => none

/-- What an executed line tells, if anything. -/
def message? (e : Event) : Option Message :=
  match e.instruction? with
  | none => some .unknownCommand
  | some (.jump c t) =>
    if c.met e.before.flag then some (if t = 0 then .noSuchLine 0 else .jumped c t) else none
  | some _ => e.write?.map Write.message

/-- The entry that an executed line adds to the log, in words. -/
def logged? (e : Event) : Option Text :=
  e.message?.map fun message =>
    Text.ascii "Line " ++ Text.ofNat (e.before.pc + 1) ++ Text.ascii ": " ++
      message.text (e.before.pc + 1 : Nat)

/-- The executed line is a conditional jump that is not taken. -/
def isUntaken (e : Event) : Bool :=
  match e.instruction? with
  | some (.jump .equal _) => !e.before.flag
  | some (.jump .notEqual _) => e.before.flag
  | _ => false

/-- The rules of what an executed line tells. -/
structure Tells (e : Event) (told : Option Message) : Prop where
  /-- Only a conditional jump that is not taken tells nothing. -/
  nothing : told = none ↔ e.isUntaken
  /-- A line that is no instruction is an unknown command. -/
  unknown : e.instruction? = none → told = some .unknownCommand
  /-- A jump that is taken tells so, unless it goes to line zero. -/
  jump : ∀ c t, e.instruction? = some (.jump c t) → ¬ e.isUntaken →
    told = some (if t = 0 then .noSuchLine 0 else .jumped c t)
  /-- A result above the range is a warning. -/
  above : ∀ w, e.write? = some w → (told = some (.above w.dst) ↔ 255 < w.result)
  /-- A result below the range is a warning. -/
  below : ∀ w, e.write? = some w → (told = some (.below w.dst) ↔ w.result < 0)
  /-- Any other result tells what was done. -/
  done : ∀ w, e.write? = some w → (told = some w.done ↔ 0 ≤ w.result ∧ w.result ≤ 255)
  /-- Only `MOV` and `ADD` warn of a value above the range. -/
  above_only : ∀ d, told = some (.above d) →
    (∃ v, e.instruction? = some (.move v d)) ∨ ∃ a, e.instruction? = some (.combine .add a d)
  /-- Only `SUB` warns of a value below the range. -/
  below_only : ∀ d, told = some (.below d) → ∃ a, e.instruction? = some (.combine .sub a d)

theorem isUntaken_of_jump {e : Event} {c : Condition} {t : Nat}
    (h : e.instruction? = some (.jump c t)) : e.isUntaken = !c.met e.before.flag := by
  rw [isUntaken, h]
  cases c <;> simp [Condition.met]

theorem write?_of_move {e : Event} {v : Nat} {d : Register}
    (h : e.instruction? = some (.move v d)) : e.write? = some ⟨d, v, .moved v d⟩ := by
  rw [write?, h]

theorem write?_of_combine {e : Event} {op : Operation} {a d : Register}
    (h : e.instruction? = some (.combine op a d)) :
    e.write? = some ⟨d, op.exact (e.before.registers d) (e.before.registers a),
      .combined op a d⟩ := by
  rw [write?, h]

theorem message?_of_write? {e : Event} {w : Write} (h : e.write? = some w) :
    e.message? = some w.message := by
  rcases e with ⟨s, _ | ⟨v, d⟩ | ⟨op, a, d⟩ | ⟨c, t⟩⟩
  · simp [write?] at h
  · simp [message?, h]
  · simp [message?, h]
  · simp [write?] at h

theorem message?_of_jump {e : Event} {c : Condition} {t : Nat}
    (h : e.instruction? = some (.jump c t)) :
    e.message? =
      if e.isUntaken then none else some (if t = 0 then .noSuchLine 0 else .jumped c t) := by
  simp only [message?, isUntaken_of_jump h, h]
  cases c.met e.before.flag <;> rfl

/-- A register instruction never says of itself that it has left the range. -/
theorem done_ne {e : Event} {w : Write} (h : e.write? = some w) (d : Register) :
    w.done ≠ .above d ∧ w.done ≠ .below d := by
  rcases e with ⟨s, _ | ⟨v, r⟩ | ⟨op, a, r⟩ | ⟨c, t⟩⟩ <;>
    simp only [write?, Option.some.injEq, reduceCtorEq] at h <;>
    subst h <;> simp

theorem Write.message_eq_above_iff {e : Event} {w : Write} (h : e.write? = some w)
    (d : Register) : w.message = .above d ↔ 255 < w.result ∧ w.dst = d := by
  rw [message]
  by_cases habove : 255 < w.result
  · simp [habove]
  · rw [if_neg habove]
    split
    · simp [habove]
    · simp [habove, (done_ne h d).1]

theorem Write.message_eq_below_iff {e : Event} {w : Write} (h : e.write? = some w)
    (d : Register) : w.message = .below d ↔ w.result < 0 ∧ w.dst = d := by
  rw [message]
  by_cases hbelow : w.result < 0
  · rw [if_neg (by omega), if_pos hbelow]
    simp [hbelow]
  · rw [if_neg hbelow]
    split
    · simp [hbelow]
    · simp [hbelow, (done_ne h d).2]

theorem Write.message_eq_done_iff {e : Event} {w : Write} (h : e.write? = some w) :
    w.message = w.done ↔ 0 ≤ w.result ∧ w.result ≤ 255 := by
  obtain ⟨habove, hbelow⟩ := done_ne h w.dst
  rw [message]
  split
  · simp only [habove.symm, false_iff]
    omega
  · split
    · simp only [hbelow.symm, false_iff]
      omega
    · simp only [true_iff]
      omega

theorem message?_eq_none_iff (e : Event) : e.message? = none ↔ e.isUntaken := by
  rcases h : e.instruction? with _ | ⟨v, d⟩ | ⟨op, a, d⟩ | ⟨c, t⟩
  · simp [message?, isUntaken, h]
  · simp [message?, write?, isUntaken, h]
  · simp [message?, write?, isUntaken, h]
  · simp [message?_of_jump h]

/-- All executed lines but the conditional jumps that are not taken have an entry. -/
theorem length_filterMap_logged? (es : List Event) :
    (es.filterMap logged?).length + es.countP isUntaken = es.length := by
  have hentry : ∀ e : Event, e.logged?.isSome = !e.isUntaken := by
    intro e
    rw [logged?, Option.isSome_map, Bool.eq_iff_iff, Option.isSome_iff_ne_none, Ne,
      message?_eq_none_iff, Bool.not_eq_true']
    simp
  rw [List.length_filterMap_eq_countP, List.length_eq_countP_add_countP isUntaken, Nat.add_comm]
  simp [hentry]

theorem instruction?_of_above {e : Event} {d : Register} (h : e.message? = some (.above d)) :
    (∃ v, e.instruction? = some (.move v d)) ∨
      ∃ a, e.instruction? = some (.combine .add a d) := by
  rcases hi : e.instruction? with _ | ⟨v, r⟩ | ⟨op, a, r⟩ | ⟨c, t⟩
  · simp [message?, hi] at h
  · have hw := write?_of_move hi
    rw [message?_of_write? hw, Option.some.injEq, Write.message_eq_above_iff hw] at h
    obtain ⟨-, rfl⟩ := h
    exact Or.inl ⟨v, rfl⟩
  · have hw := write?_of_combine hi
    rw [message?_of_write? hw, Option.some.injEq, Write.message_eq_above_iff hw] at h
    obtain ⟨habove, rfl⟩ := h
    obtain rfl := Operation.eq_add_of_exact_gt habove
    exact Or.inr ⟨a, rfl⟩
  · rw [message?_of_jump hi] at h
    split_ifs at h <;> simp at h

theorem instruction?_of_below {e : Event} {d : Register} (h : e.message? = some (.below d)) :
    ∃ a, e.instruction? = some (.combine .sub a d) := by
  rcases hi : e.instruction? with _ | ⟨v, r⟩ | ⟨op, a, r⟩ | ⟨c, t⟩
  · simp [message?, hi] at h
  · have hw := write?_of_move hi
    rw [message?_of_write? hw, Option.some.injEq, Write.message_eq_below_iff hw] at h
    exact absurd h.1 (by simp)
  · have hw := write?_of_combine hi
    rw [message?_of_write? hw, Option.some.injEq, Write.message_eq_below_iff hw] at h
    obtain ⟨hbelow, rfl⟩ := h
    obtain rfl := Operation.eq_sub_of_exact_neg hbelow
    exact ⟨a, rfl⟩
  · rw [message?_of_jump hi] at h
    split_ifs at h <;> simp at h

/-- What an executed line tells obeys the rules. -/
theorem tells_message? (e : Event) : e.Tells e.message? where
  nothing := message?_eq_none_iff e
  unknown h := by rw [message?, h]
  jump c t h htaken := by rw [message?_of_jump h, if_neg htaken]
  above w h := by
    rw [message?_of_write? h, Option.some.injEq, Write.message_eq_above_iff h]
    simp
  below w h := by
    rw [message?_of_write? h, Option.some.injEq, Write.message_eq_below_iff h]
    simp
  done w h := by
    rw [message?_of_write? h, Option.some.injEq, Write.message_eq_done_iff h]
  above_only _ h := instruction?_of_above h
  below_only _ h := instruction?_of_below h

end Event

end ByteMachine

open ByteMachine

theorem Machine.outcome_eq_message (d : Register) (v : Int) (done : Message) :
    outcome d v done = Event.Write.message ⟨d, v, done⟩ := by
  have hleast : Register.least = 0 := rfl
  have hgreatest : Register.greatest = 255 := rfl
  simp only [outcome, Event.Write.message]
  by_cases hbelow : v < Register.least
  · rw [if_pos hbelow, if_neg (by omega), if_pos (by omega)]
  · by_cases habove : Register.greatest < v
    · rw [if_neg hbelow, if_pos habove, if_pos (by omega)]
    · rw [if_neg hbelow, if_neg habove, if_neg (by omega), if_neg (by omega)]

namespace Represents

variable {m : Machine} {s : ByteMachine}

/-- One line adds what it tells to the log, with the number that it had before it was executed. -/
theorem log_execute (h : Represents m s) (decoded : Except LineFault Instruction) :
    (m.execute decoded).log.toList =
      m.log.toList ++ ((Event.mk s decoded.toOption).message?.map (.line (m.pc + 1))).toList := by
  rcases decoded with fault | ⟨v, d⟩ | ⟨op, a, d⟩ | ⟨c, t⟩
  · simp [Machine.execute, Machine.note, Machine.advance, Event.message?, Except.toOption]
  · simp [Machine.execute, Machine.put, Machine.note, Machine.advance, Event.message?,
      Event.write?, Except.toOption, Machine.outcome_eq_message]
  · simp [Machine.execute, Machine.put, Machine.note, Machine.advance, Event.message?,
      Event.write?, Except.toOption, Machine.outcome_eq_message, h.registers,
      Operation.result_toNat]
  · rw [Machine.execute, h.zx, Condition.holds_toNat]
    by_cases hc : c.met s.flag
    · by_cases ht : t = 0
      · simp [Machine.note, Machine.advance, Event.message?, Except.toOption, hc, ht]
      · simp [Machine.note, Event.message?, Except.toOption, hc, ht]
    · simp [Machine.advance, Event.message?, Except.toOption, hc]

theorem log_proceed (h : Represents m s) {lines : List Text} {line : Text}
    (hline : lines[s.pc]? = some line) :
    (m.proceed lines).log.toList = m.log.toList ++
      ((Event.mk s (Instruction.decode line).toOption).message?.map
        (.line (s.pc + 1 : Nat))).toList := by
  have hlog := h.log_execute (Instruction.decodeLine (m.pc + 1) line)
  have hnumber : ((s.pc + 1 : Nat) : Int) = m.pc + 1 := by rw [h.pc, Int.natCast_succ]
  rw [Machine.proceed_of_getElem?_eq_some ((h.getElem?_lines lines).trans hline), hnumber,
    ← Instruction.toOption_decodeLine (m.pc + 1)]
  exact hlog

/-- A run adds the entries of its lines in the order in which they are executed. -/
theorem log_iterate (h : Represents m s) (lines : List Text) (n : Nat) :
    ((Machine.proceed lines)^[n] m).log.toList = m.log.toList ++
      (trail lines n s).filterMap fun e => e.message?.map (.line (e.before.pc + 1 : Nat)) := by
  induction n generalizing m s with
  | zero => simp
  | succ n ih =>
      rw [Function.iterate_succ_apply, ih (h.proceed lines)]
      cases hline : lines[s.pc]? with
      | none =>
          rw [Machine.proceed_of_getElem?_eq_none ((h.getElem?_lines lines).trans hline),
            step_of_getElem?_eq_none hline, trail_of_getElem?_eq_none hline,
            trail_of_getElem?_eq_none hline]
      | some line =>
          rw [trail_of_getElem?_eq_some hline, h.log_proceed hline, List.filterMap_cons]
          cases (Event.mk s (Instruction.decode line).toOption).message? <;> simp

end Represents

namespace Machine

theorem log_course (m : Machine) (lines : List Text) (k : Nat) :
    (m.course lines k).log.toList = .reset ::
      (trail lines k start).filterMap fun e => e.message?.map (.line (e.before.pc + 1 : Nat)) :=
  (Represents.reset m).log_iterate lines k

/-- The log of a run: the reset, what the executed lines tell, and the limit if it was reached. -/
theorem log_run (m : Machine) (code : Text) :
    (m.run code).log.toList = .reset ::
      ((events code).filterMap fun e => e.message?.map (.line (e.before.pc + 1 : Nat))) ++
        if (m.run code).steps = commandLimit then
          [.line ((m.run code).pc + 1) .tooManyCommands]
        else [] := by
  have hlog := log_course m (Text.lines code) commandLimit
  rw [run_eq]
  by_cases hlimit : (m.course (Text.lines code) commandLimit).steps = commandLimit
  · rw [if_pos hlimit, steps_note, if_pos hlimit, pc_note, note, Array.toList_push, hlog]
    rfl
  · rw [if_neg hlimit, if_neg hlimit, List.append_nil, hlog]
    rfl

theorem snapshot_log_run (m : Machine) (code : Text) :
    (m.run code).snapshot.log =
      Text.ascii "Resetting all registers to their defaults..." ::
        (events code).filterMap Event.logged? ++
        if (m.run code).steps = commandLimit then
          [Text.ascii "Line " ++ Text.ofInt ((m.run code).pc + 1) ++ Text.ascii ": " ++
            Text.ascii "*** ERROR: Too many commands; exiting. ***"]
        else [] := by
  have hentry : (fun e : Event =>
      Option.map Entry.text (e.message?.map (.line (e.before.pc + 1 : Nat)))) = Event.logged? := by
    funext e
    rw [Event.logged?, Option.map_map]
    rfl
  change (m.run code).log.toList.map Entry.text = _
  rw [log_run, List.map_append, List.map_cons, List.map_filterMap, hentry,
    apply_ite (List.map Entry.text)]
  rfl

/-- The log of a run is its trace: besides the entries of the reset and of the limit there is one
entry for each executed line in order, and none for a conditional jump that is not taken. -/
theorem log_run_eq_trace (m : Machine) (code : Text) :
    (m.run code).steps = (events code).length ∧
      (∀ i e, (events code)[i]? = some e →
        e.before = after (Text.lines code) i ∧
          ∃ line, (Text.lines code)[e.before.pc]? = some line ∧
            e.instruction? = (Instruction.decode line).toOption) ∧
      (∀ e ∈ events code, e.Tells e.message?) ∧
      (m.run code).snapshot.log =
        Text.ascii "Resetting all registers to their defaults..." ::
          (events code).filterMap Event.logged? ++
          (if (m.run code).steps = commandLimit then
            [Text.ascii "Line " ++ Text.ofInt ((m.run code).pc + 1) ++ Text.ascii ": " ++
              Text.ascii "*** ERROR: Too many commands; exiting. ***"]
          else []) ∧
      ((m.run code).snapshot.log.length : Int) =
        1 + (m.run code).steps - (events code).countP Event.isUntaken +
          if (m.run code).steps = commandLimit then 1 else 0 := by
  have hlog := snapshot_log_run m code
  refine ⟨steps_run m code, fun i e h => getElem?_trail h, fun e _ => e.tells_message?, hlog, ?_⟩
  have hcount := Event.length_filterMap_logged? (events code)
  rw [hlog, steps_run, List.length_append, List.length_cons, apply_ite List.length,
    List.length_singleton, List.length_nil]
  split <;> omega

end Machine

end LineMachine
