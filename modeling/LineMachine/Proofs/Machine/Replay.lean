import LineMachine.Proofs.Machine.Trace
import LineMachine.Proofs.Text.Decimal

/-!
# Replaying a log

The log of a run tells all that happened to the registers and the flag. `replay` reads a log, with
no program at hand, and recovers both (`log_determines_registers_and_flag`).

An entry is read word by word. A message of success names the command and its operands, so the
change can be done again. A warning hides both, yet it names the register and the bound that is in it
now. All other messages change nothing, and a conditional jump that is not taken tells nothing and
changes nothing. A comparison is never hidden behind a warning, since it writes back a register that
is in range.
-/

namespace LineMachine

open Text

/-- What an entry of the log did to the registers and the flag. -/
inductive Change where
  | keep
  | set (dst : Register) (v : Nat)
  | combine (op : Operation) (src dst : Register)
  deriving DecidableEq, Repr

namespace Operation

/-- The word that tells of a command. -/
def verb : Operation → Text
  | .add => ascii "Adding"
  | .sub => ascii "Subtracting"
  | .copy => ascii "Copying"
  | .and => ascii "ANDing"
  | .or => ascii "ORing"
  | .cmp => ascii "Comparing"

/-- The word between the two registers. -/
def link : Operation → Text
  | .add => ascii "to"
  | .sub => ascii "from"
  | .copy => ascii "to"
  | .and => ascii "with"
  | .or => ascii "with"
  | .cmp => ascii "with"

/-- The commands with two registers by the words that tell of them. -/
def verbs : List (Text × Operation) :=
  [Operation.add, .sub, .copy, .and, .or, .cmp].map fun op => (op.verb, op)

theorem lookup_verb (op : Operation) : verbs.lookup op.verb = some op := by
  cases op <;> decide

end Operation

namespace Change

/-- Do the change to the registers and the flag. -/
def apply (change : Change) (state : Bank × Int) : Bank × Int :=
  match change with
  | .keep => state
  | .set d v => (state.1.write d v, state.2)
  | .combine op s d =>
    let src := state.1.read s
    let dst := state.1.read d
    (state.1.write d (op.result dst src),
      if op = .cmp then (if dst = src then 1 else 0) else state.2)

/-- Read a message of success: what is done, two operands and a word between them. -/
def ofSuccess? (verb source dst : Text) : Option Change := do
  let d ← Register.ofName? dst
  if verb = ascii "Moving" then return .set d (value source)
  return .combine (← Operation.verbs.lookup verb) (← Register.ofName? source) d

/-- Read a warning: the register, and the side on which its range was left. -/
def ofWarning? (dst side : Text) : Option Change := do
  let d ← Register.ofName? dst
  if side = ascii "below" then return .set d 0
  if side = ascii "above" then return .set d 255
  none

/-- Read the words of a message. -/
def ofWords : List Text → Change
  | [verb, source, _, dst] => (ofSuccess? verb source dst).getD .keep
  | _ :: _ :: _ :: _ :: _ :: _ :: dst :: _ :: _ :: _ :: side :: _ =>
    (ofWarning? dst side).getD .keep
  | _ => .keep

/-- Read an entry, whose first two words tell the line. -/
def ofText (t : Text) : Change := ofWords ((splitOn 0x20 t).drop 2)

/-- The change that a message tells of. -/
def ofMessage : Message → Change
  | .moved v d => .set d v
  | .combined op s d => .combine op s d
  | .below d => .set d 0
  | .above d => .set d 255
  | .unknownCommand | .jumped .. | .noSuchLine _ | .tooManyCommands => .keep

/-- The change that an entry tells of. -/
def ofEntry : Entry → Change
  | .reset => .keep
  | .line _ message => ofMessage message

end Change

/-- The registers and the flag that a log tells of. -/
def replay (log : List Text) : Bank × Int :=
  log.foldl (fun state t => (Change.ofText t).apply state) (Bank.zero, 0)

namespace Message

/-- The words of a warning. -/
def warningWords (number : Int) (dst : Register) (side bound : String) : List Text :=
  [ascii "***", ascii "WARNING:", ascii "Line", ofInt number, ascii "has", ascii "set", dst.name,
    ascii "to", ascii "a", ascii "value", ascii side, ascii bound ++ ascii ".", ascii "It",
    ascii "has", ascii "been", ascii "clamped", ascii "to", ascii bound ++ ascii ".***"]

/-- The words of a message of line `number`. -/
def words (number : Int) : Message → List Text
  | .unknownCommand =>
    ["***", "ERROR:", "Unknown", "command;", "Remember,", "all", "commands", "and", "registers",
      "are", "case-sensitive.", "***"].map ascii
  | .moved v d => [ascii "Moving", ofNat v, ascii "into", d.name]
  | .combined op s d => [op.verb, s.name, op.link, d.name]
  | .jumped .always t => [ascii "Jumping", ascii "to", ascii "line", ofNat t]
  | .jumped .equal t =>
    [ascii "ZX", ascii "is", ascii "1.", ascii "Jumping", ascii "to", ascii "line", ofNat t]
  | .jumped .notEqual t =>
    [ascii "ZX", ascii "is", ascii "0.", ascii "Jumping", ascii "to", ascii "line", ofNat t]
  | .noSuchLine t =>
    [ascii "***", ascii "ERROR:", ascii "Line", ofNat t, ascii "does", ascii "not",
      ascii "exist.", ascii "***"]
  | .below d => warningWords number d "below" "0"
  | .above d => warningWords number d "above" "255"
  | .tooManyCommands =>
    ["***", "ERROR:", "Too", "many", "commands;", "exiting.", "***"].map ascii

theorem words_ne_nil (number : Int) (message : Message) : message.words number ≠ [] := by
  cases message with
  | jumped c t => cases c <;> simp [words]
  | unknownCommand | moved | combined | noSuchLine | below | above | tooManyCommands =>
      simp [words, warningWords]

theorem text_eq_join_words (number : Int) (message : Message) :
    message.text number = join [0x20] (message.words number) := by
  cases message with
  | combined op s d =>
      cases op <;>
        simp [text, words, join, ascii, Operation.words, Operation.verb, Operation.link]
  | jumped c t => cases c <;> simp [text, words, join, ascii, Condition.words]
  | below d => simp [text, words, warning, warningWords, join, ascii]
  | above d => simp [text, words, warning, warningWords, join, ascii]
  | unknownCommand | moved v d | noSuchLine t | tooManyCommands => simp [text, words, join, ascii]

theorem space_not_mem_words (number : Int) (message : Message) :
    ∀ w ∈ message.words number, 0x20 ∉ w := by
  have hnat : ∀ n, 0x20 ∉ ofNat n := not_mem_ofNat (by decide)
  have hint : 0x20 ∉ ofInt number := not_mem_ofInt (by decide) (by decide) number
  have hname : ∀ r : Register, 0x20 ∉ r.name := by
    intro r
    cases r <;> decide
  cases message with
  | moved v d => simp [words, ascii, hnat, hname]
  | combined op s d =>
      cases op <;> simp [words, ascii, Operation.verb, Operation.link, hname]
  | jumped c t => cases c <;> simp [words, ascii, hnat]
  | noSuchLine t => simp [words, ascii, hnat]
  | below d => simp [words, warningWords, ascii, hint, hname]
  | above d => simp [words, warningWords, ascii, hint, hname]
  | unknownCommand => simp [words, ascii]
  | tooManyCommands => simp [words, ascii]

end Message

theorem Entry.text_line (number : Int) (message : Message) :
    (Entry.line number message).text =
      join [0x20] (ascii "Line" :: (ofInt number ++ ascii ":") :: message.words number) := by
  obtain ⟨w, ws, hwords⟩ := List.exists_cons_of_ne_nil (message.words_ne_nil number)
  rw [text, message.text_eq_join_words, hwords]
  simp [join, ascii]

namespace Change

theorem ofName?_name (r : Register) : Register.ofName? r.name = some r :=
  Register.ofName?_eq_some_iff.mpr rfl

theorem ofName?_ofNat (n : Nat) : Register.ofName? (ofNat n) = none := by
  cases h : Register.ofName? (ofNat n) with
  | none => rfl
  | some r =>
      have hmem : byte 'X' ∈ ofNat n := by
        rw [Register.ofName?_eq_some_iff.mp h]
        simp [Register.name]
      exact absurd hmem (not_mem_ofNat (by decide) n)

theorem ofWords_words (number : Int) (message : Message) :
    ofWords (message.words number) = ofMessage message := by
  cases message with
  | moved v d =>
      have hvalue : value (ofNat v) = v := by rw [value_eq_decimal, decimal_ofNat]
      simp [Message.words, ofWords, ofSuccess?, ofMessage, ofName?_name, hvalue]
  | combined op s d =>
      have hverb : op.verb ≠ ascii "Moving" := by cases op <;> decide
      simp [Message.words, ofWords, ofSuccess?, ofMessage, ofName?_name, hverb, op.lookup_verb]
  | jumped c t =>
      cases c with
      | always => simp [Message.words, ofWords, ofSuccess?, ofMessage, ofName?_ofNat]
      | equal | notEqual => rfl
  | below d =>
      simp [Message.words, Message.warningWords, ofWords, ofWarning?, ofMessage, ofName?_name]
  | above d =>
      have hside : ascii "above" ≠ ascii "below" := by decide
      simp [Message.words, Message.warningWords, ofWords, ofWarning?, ofMessage, ofName?_name,
        hside]
  | unknownCommand | noSuchLine | tooManyCommands => rfl

/-- What an entry tells can be read off its text. -/
theorem ofText_text (e : Entry) : ofText e.text = ofEntry e := by
  cases e with
  | reset => decide
  | line number message =>
      have hspace : ∀ w ∈ ascii "Line" :: (ofInt number ++ ascii ":") :: message.words number,
          0x20 ∉ w := by
        have hint : 0x20 ∉ ofInt number := not_mem_ofInt (by decide) (by decide) number
        simpa [ascii, hint] using message.space_not_mem_words number
      rw [ofText, Entry.text_line, splitOn_join hspace (List.cons_ne_nil _ _)]
      exact ofWords_words number message

end Change

/-- The registers and the flag that the entries of a log tell of. -/
def replayEntries (log : List Entry) : Bank × Int :=
  log.foldl (fun state e => (Change.ofEntry e).apply state) (Bank.zero, 0)

theorem replay_map_text (log : List Entry) : replay (log.map Entry.text) = replayEntries log := by
  rw [replay, replayEntries, List.foldl_map]
  simp only [Change.ofText_text]

theorem replayEntries_append (log : List Entry) (e : Entry) :
    replayEntries (log ++ [e]) = (Change.ofEntry e).apply (replayEntries log) := by
  rw [replayEntries, List.foldl_append]
  rfl

open ByteMachine

/-- A message of success is replayed to the exact result, and a warning to the bound next to it. -/
theorem Change.apply_message {w : Event.Write} {state : Bank × Int} {zx : Int}
    (hdone : (ofMessage w.done).apply state = (state.1.write w.dst w.result, zx))
    (hzx : 255 < w.result ∨ w.result < 0 → zx = state.2) :
    (ofMessage w.message).apply state = (state.1.write w.dst (Machine.clamp w.result), zx) := by
  have hleast : Register.least = 0 := rfl
  have hgreatest : Register.greatest = 255 := rfl
  rw [Event.Write.message, Machine.clamp]
  split
  next habove =>
    have hclamp : max Register.least (min w.result Register.greatest) = 255 := by omega
    rw [hzx (Or.inl habove), hclamp]
    rfl
  next hnot =>
    split
    next hbelow =>
      have hclamp : max Register.least (min w.result Register.greatest) = 0 := by omega
      rw [hzx (Or.inr hbelow), hclamp]
      rfl
    next hrange =>
      have hclamp : max Register.least (min w.result Register.greatest) = w.result := by omega
      rw [hdone, hclamp]

namespace Machine

/-- The registers and the flag. -/
def dials (m : Machine) : Bank × Int := (m.registers, m.zx)

end Machine

namespace Represents

variable {m : Machine} {s : ByteMachine}

/-- One line does to the registers and the flag what it tells, and nothing if it tells nothing. -/
theorem dials_execute (h : Represents m s) (decoded : Except LineFault Instruction) :
    (m.execute decoded).dials =
      (Event.mk s decoded.toOption).message?.elim m.dials fun message =>
        (Change.ofMessage message).apply m.dials := by
  rcases decoded with fault | ⟨v, d⟩ | ⟨op, a, d⟩ | ⟨c, t⟩
  · rfl
  · have hmessage : (Event.mk s (some (.move v d))).message? =
        some (Event.Write.message ⟨d, v, .moved v d⟩) :=
      Event.message?_of_write? (Event.write?_of_move rfl)
    have hdone : (Change.ofMessage (.moved v d)).apply m.dials =
        (m.registers.write d v, m.zx) := rfl
    rw [Except.toOption, hmessage, Option.elim_some, Change.apply_message hdone fun _ => rfl]
    rfl
  · have hmessage : (Event.mk s (some (.combine op a d))).message? =
        some (Event.Write.message
          ⟨d, op.exact (s.registers d) (s.registers a), .combined op a d⟩) :=
      Event.message?_of_write? (Event.write?_of_combine rfl)
    have hresult : op.result (m.registers.read d) (m.registers.read a) =
        op.exact (s.registers d) (s.registers a) := by
      rw [h.registers, h.registers, op.result_toNat]
    have hdone : (Change.ofMessage (.combined op a d)).apply m.dials =
        (m.registers.write d (op.exact (s.registers d) (s.registers a)),
          m.flagAfter op (m.registers.read d) (m.registers.read a)) := by
      rw [← hresult]
      rfl
    -- A comparison is in range, so a command that warns leaves the flag alone.
    have hflag : 255 < op.exact (s.registers d) (s.registers a) ∨
        op.exact (s.registers d) (s.registers a) < 0 →
        m.flagAfter op (m.registers.read d) (m.registers.read a) = m.zx := by
      rintro (habove | hbelow)
      · rw [Operation.eq_add_of_exact_gt habove]
        rfl
      · rw [Operation.eq_sub_of_exact_neg hbelow]
        rfl
    rw [Except.toOption, hmessage, Option.elim_some, Change.apply_message hdone hflag, ← hresult]
    rfl
  · rw [Except.toOption, Event.message?_of_jump rfl, Machine.execute]
    split_ifs <;> rfl

end Represents

namespace Machine

theorem replayEntries_proceed {m : Machine} {s : ByteMachine} (h : Represents m s)
    (hm : replayEntries m.log.toList = m.dials) (lines : List Text) :
    replayEntries (m.proceed lines).log.toList = (m.proceed lines).dials := by
  cases hline : lines[m.pc.toNat]? with
  | none => rwa [proceed_of_getElem?_eq_none hline]
  | some line =>
      have hlog := h.log_execute (Instruction.decodeLine (m.pc + 1) line)
      have hdials := h.dials_execute (Instruction.decodeLine (m.pc + 1) line)
      rw [proceed_of_getElem?_eq_some hline]
      change replayEntries (m.execute _).log.toList = (m.execute _).dials
      rw [hlog, hdials]
      cases (Event.mk s (Instruction.decodeLine (m.pc + 1) line).toOption).message? with
      | none => simpa using hm
      | some message =>
          rw [Option.map_some, Option.toList_some, replayEntries_append, hm]
          rfl

theorem replayEntries_course (m : Machine) (lines : List Text) (k : Nat) :
    replayEntries (m.course lines k).log.toList = (m.course lines k).dials := by
  induction k with
  | zero => rfl
  | succ k ih =>
      rw [course, Function.iterate_succ_apply']
      exact replayEntries_proceed (represents_course m lines k) ih lines

theorem replayEntries_note {m : Machine} (h : replayEntries m.log.toList = m.dials) :
    replayEntries (m.note .tooManyCommands).log.toList = (m.note .tooManyCommands).dials := by
  rw [note, Array.toList_push, replayEntries_append, h]
  rfl

theorem replayEntries_run (m : Machine) (code : Text) :
    replayEntries (m.run code).log.toList = (m.run code).dials := by
  have hcourse := replayEntries_course m (Text.lines code) commandLimit
  rw [run_eq]
  split
  · exact replayEntries_note hcourse
  · exact hcourse

/-- The log alone determines the registers and the flag: they are what its replay gives, so runs of
any two programs with the same log end with the same registers and the same flag. -/
theorem log_determines_registers_and_flag :
    (∀ (m : Machine) (code : Text),
      replay (m.run code).snapshot.log = ((m.run code).registers, (m.run code).zx)) ∧
    ∀ (m₁ m₂ : Machine) (code₁ code₂ : Text),
      (m₁.run code₁).snapshot.log = (m₂.run code₂).snapshot.log →
        (m₁.run code₁).registers = (m₂.run code₂).registers ∧
          (m₁.run code₁).zx = (m₂.run code₂).zx := by
  have hreplay : ∀ (m : Machine) (code : Text),
      replay (m.run code).snapshot.log = ((m.run code).registers, (m.run code).zx) := by
    intro m code
    have htext := replay_map_text (m.run code).log.toList
    rwa [replayEntries_run] at htext
  refine ⟨hreplay, fun m₁ m₂ code₁ code₂ hlog => ?_⟩
  have heq := hreplay m₁ code₁
  rw [hlog, hreplay m₂ code₂, Prod.mk.injEq] at heq
  exact ⟨heq.1.symm, heq.2.symm⟩

end Machine

end LineMachine
