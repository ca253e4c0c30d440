import LineMachine.Machine.Snapshot
import LineMachine.Proofs.Locale.Pattern

/-!
# What a run depends on

A run starts with a reset, so of the machine before it only the verbosity is left, and no step looks
at that. Hence two runs of a program text end in the same machine, apart from the verbosity.

The entries of the log are messages, and a message is made from a pattern and arguments in the
locale of the moment. All arguments are texts: numbers have been put into digits before, in the same
way everywhere. So the locale cannot be told from the log (`Entry.written_eq_text`).
-/

namespace LineMachine

/-! ### Messages in a locale -/

namespace Message

/-- The pattern of a message. -/
def pattern : Message → Text
  | .unknownCommand =>
    Text.ascii "*** ERROR: Unknown command; Remember, all commands and registers are case-sensitive. ***"
  | .moved _ _ => Text.ascii "Moving %v into %v"
  | .combined .add _ _ => Text.ascii "Adding %v to %v"
  | .combined .sub _ _ => Text.ascii "Subtracting %v from %v"
  | .combined .copy _ _ => Text.ascii "Copying %v to %v"
  | .combined .and _ _ => Text.ascii "ANDing %v with %v"
  | .combined .or _ _ => Text.ascii "ORing %v with %v"
  | .combined .cmp _ _ => Text.ascii "Comparing %v with %v"
  | .jumped .always _ => Text.ascii "Jumping to line %v"
  | .jumped .equal _ => Text.ascii "ZX is 1. Jumping to line %v"
  | .jumped .notEqual _ => Text.ascii "ZX is 0. Jumping to line %v"
  | .noSuchLine _ => Text.ascii "*** ERROR: Line %v does not exist. ***"
  | .below _ =>
    Text.ascii "*** WARNING: Line %v has set %v to a value below 0. It has been clamped to 0.***"
  | .above _ =>
    Text.ascii "*** WARNING: Line %v has set %v to a value above 255. It has been clamped to 255.***"
  | .tooManyCommands => Text.ascii "*** ERROR: Too many commands; exiting. ***"

/-- What fills the places of the pattern, for a message of line `number`. -/
def arguments (number : Int) : Message → List Locale.Argument
  | .unknownCommand | .tooManyCommands => []
  | .moved v d => [.text (Text.ofNat v), .text d.name]
  | .combined _ s d => [.text s.name, .text d.name]
  | .jumped _ t | .noSuchLine t => [.text (Text.ofNat t)]
  | .below d | .above d => [.text (Text.ofInt number), .text d.name]

/-- A message of line `number` as it is written in a locale. -/
def written (l : Locale) (number : Int) (message : Message) : Text :=
  l.format message.pattern (message.arguments number)

/-- The pattern cut at its places. -/
def template (number : Int) : Message → Locale.Template
  | .unknownCommand => ⟨text number .unknownCommand, []⟩
  | .moved v d =>
    ⟨Text.ascii "Moving ", [(.text (Text.ofNat v), Text.ascii " into "), (.text d.name, [])]⟩
  | .combined op s d => ⟨op.words.1, [(.text s.name, op.words.2), (.text d.name, [])]⟩
  | .jumped c t => ⟨c.words ++ Text.ascii "Jumping to line ", [(.text (Text.ofNat t), [])]⟩
  | .noSuchLine t =>
    ⟨Text.ascii "*** ERROR: Line ", [(.text (Text.ofNat t), Text.ascii " does not exist. ***")]⟩
  | .below d => warningTemplate d "below" "0"
  | .above d => warningTemplate d "above" "255"
  | .tooManyCommands => ⟨text number .tooManyCommands, []⟩
where
  warningTemplate (d : Register) (side bound : String) : Locale.Template :=
    ⟨Text.ascii "*** WARNING: Line ",
      [(.text (Text.ofInt number), Text.ascii " has set "),
        (.text d.name, Text.ascii " to a value " ++ Text.ascii side ++ Text.ascii " " ++
          Text.ascii bound ++ Text.ascii ". It has been clamped to " ++ Text.ascii bound ++
          Text.ascii ".***")]⟩

variable (number : Int) (message : Message)

theorem pattern_template : (message.template number).pattern = message.pattern := by
  cases message with
  | combined op s d =>
      cases op <;>
        simp [template, Locale.Template.pattern, Operation.words, pattern, ← Text.ascii_append]
  | jumped c t =>
      cases c <;>
        simp [template, Locale.Template.pattern, Condition.words, pattern, ← Text.ascii_append]
  | _ =>
      simp [template, template.warningTemplate, text, Locale.Template.pattern, pattern,
        ← Text.ascii_append]

theorem isPlain_template : (message.template number).isPlain = true := by
  cases message with
  | combined op s d => cases op <;> rfl
  | jumped c t => cases c <;> rfl
  | _ => rfl

theorem arguments_template : (message.template number).arguments = message.arguments number := by
  cases message <;> rfl

theorem written_template (l : Locale) :
    (message.template number).written l = message.text number := by
  cases message <;>
    simp [template, template.warningTemplate, text, warning, Locale.Template.written,
      Locale.Argument.plain]

theorem written_eq_text (l : Locale) : message.written l number = message.text number := by
  rw [written, ← pattern_template number, ← arguments_template,
    Locale.Template.format_pattern l (message.isPlain_template number), written_template]

end Message

namespace Entry

/-- An entry as it is written in a locale. The message is put in words first. -/
def written (l : Locale) : Entry → Text
  | .reset => l.format (Text.ascii "Resetting all registers to their defaults...") []
  | .line number message =>
    l.format (Text.ascii "Line %v: %v")
      [.text (Text.ofInt number), .text (message.written l number)]

theorem written_eq_text (l : Locale) (e : Entry) : e.written l = e.text := by
  cases e with
  | reset =>
      have hformat := Locale.Template.format_pattern l
        (t := ⟨Text.ascii "Resetting all registers to their defaults...", []⟩) (by decide)
      exact hformat
  | line number message =>
      have hformat := Locale.Template.format_pattern l (t := ⟨Text.ascii "Line ",
        [(.text (Text.ofInt number), Text.ascii ": "), (.text (message.written l number), [])]⟩) rfl
      refine hformat.trans ?_
      simp [Locale.Template.written, Locale.Argument.plain, text, message.written_eq_text]

end Entry

/-! ### Two runs -/

namespace Machine

/-- The log as it is written in a locale. -/
def writtenLog (l : Locale) (m : Machine) : List Text := m.log.toList.map (Entry.written l)

theorem writtenLog_eq (l : Locale) (m : Machine) : m.writtenLog l = m.snapshot.log :=
  List.map_congr_left fun e _ => e.written_eq_text l

/-- The machine with another verbosity. -/
def withVerbose (b : Bool) (m : Machine) : Machine := { m with verbose := b }

theorem execute_withVerbose (b : Bool) (m : Machine) (decoded : Except LineFault Instruction) :
    (m.withVerbose b).execute decoded = (m.execute decoded).withVerbose b := by
  cases decoded with
  | error fault => rfl
  | ok i =>
      cases i with
      | move v d => rfl
      | combine op s d => rfl
      | jump c t =>
          change (if c.holds m.zx then _ else _) = withVerbose b (if c.holds m.zx then _ else _)
          split
          · split <;> rfl
          · rfl

theorem step_withVerbose (b : Bool) (m : Machine) (decoded : Except LineFault Instruction) :
    (m.withVerbose b).step decoded = (m.step decoded).withVerbose b := by
  rw [step, execute_withVerbose]
  rfl

theorem resume_withVerbose (b : Bool) (lines : Array Text) (n : Nat) (m : Machine)
    (told : Array Diagnostic) :
    (resume lines n (m.withVerbose b) told).1 = (resume lines n m told).1.withVerbose b := by
  induction n generalizing m told with
  | zero => rfl
  | succ n ih =>
      have hpc : (m.withVerbose b).pc = m.pc := rfl
      rw [resume, resume, hpc]
      cases lines[m.pc.toNat]? with
      | none => rfl
      | some line =>
          simp only [step_withVerbose]
          exact ih _ _

/-- Two runs of a text differ in the verbosity only. -/
theorem run_eq_withVerbose (m m' : Machine) (code : Text) :
    m.run code = (m'.run code).withVerbose m.verbose :=
  resume_withVerbose m.verbose (Text.lines code).toArray commandLimit m'.reset #[.reset]

/-- A run depends on the program text only. Whatever two machines held before and whether they are
verbose, and in whatever locales their messages are written, they hold the same afterwards, and
their logs are the same byte by byte. -/
theorem run_depends_on_text_only (code : Text) (m m' : Machine) (l l' : Locale) :
    (m.run code).registers = (m'.run code).registers ∧ (m.run code).zx = (m'.run code).zx ∧
      (m.run code).pc = (m'.run code).pc ∧ (m.run code).steps = (m'.run code).steps ∧
      (m.run code).writtenLog l = (m'.run code).writtenLog l' ∧
      (m.run code).writtenLog l = (m.run code).snapshot.log := by
  have hlog : (m.run code).writtenLog l = (m'.run code).writtenLog l' := by
    rw [writtenLog_eq, writtenLog_eq, run_eq_withVerbose m m']
    rfl
  rw [run_eq_withVerbose m m'] at hlog ⊢
  exact ⟨rfl, rfl, rfl, rfl, hlog, writtenLog_eq l _⟩

end Machine

end LineMachine
