import LineMachine.Locale.Basic
import LineMachine.Machine.Decode
import LineMachine.Text.Lines

/-!
# Diagnostics

A verbose machine, emulator or lesson tells step by step what it does. A diagnostic is kept as what
it is about; it becomes text only when it is written, in the locale of that moment. Only the number
of a line that could not be decoded follows the locale.
-/

namespace LineMachine

/-- The wording of a line that is no instruction. -/
def LineFault.message (l : Locale) (f : LineFault) : Text :=
  Text.ascii "line " ++ l.ofInt f.number ++ Text.ascii " '" ++ f.line ++ Text.ascii "' " ++
    f.cause.message

/-- One thing that a verbose run tells. -/
inductive Diagnostic where
  | reset
  | faulty (fault : LineFault)
  | executing (number : Int) (instruction : Instruction)
  | finished (steps : Int)
  | stopped (steps : Int)
  | loaded (name : Text) (size : Nat)
  | saved (name : Text)
  | played (run : Nat) (steps : Int) (entries : Nat)
  | lessonRun (place : Text) (entries : Nat)
  deriving DecidableEq, Repr

namespace Diagnostic

/-- What a verbose machine tells of line `number` before it executes it. -/
def ofLine (number : Int) : Except LineFault Instruction → Diagnostic
  | .ok i => .executing number i
  | .error f => .faulty f

/-- A diagnostic in words. -/
def text (l : Locale) : Diagnostic → Text
  | .reset => Text.ascii "machine: reset"
  | .faulty f => Text.ascii "machine: " ++ f.message l
  | .executing n i =>
    Text.ascii "machine: line " ++ Text.ofInt n ++ Text.ascii ": " ++ i.text
  | .finished n =>
    Text.ascii "machine: done after " ++ Text.ofInt n ++ Text.ascii " lines"
  | .stopped n =>
    Text.ascii "machine: command limit after " ++ Text.ofInt n ++ Text.ascii " lines"
  | .loaded name size =>
    Text.ascii "emulator: loaded " ++ name ++ Text.ascii " (" ++ Text.ofNat size ++
      Text.ascii " bytes)"
  | .saved name => Text.ascii "emulator: saved " ++ name
  | .played run steps entries =>
    Text.ascii "emulator: run " ++ Text.ofNat run ++ Text.ascii ": " ++ Text.ofInt steps ++
      Text.ascii " lines executed, " ++ Text.ofNat entries ++ Text.ascii " log entries"
  | .lessonRun place entries =>
    Text.ascii "script: " ++ place ++ Text.ascii ": run, " ++ Text.ofNat entries ++
      Text.ascii " log entries"

/-- A record of the diagnostic stream: the text and a line feed, unless it ends with one. -/
def closeLine (t : Text) : Text :=
  if t.getLast? = some Text.newline then t else t ++ [Text.newline]

/-- What a list of diagnostics writes. -/
def stream (l : Locale) (ds : List Diagnostic) : Text :=
  (ds.map fun d => closeLine (d.text l)).flatten

/-- The lines of what a list of diagnostics writes. -/
def streamLines (l : Locale) (ds : List Diagnostic) : List Text :=
  let t := stream l ds
  if t.isEmpty then [] else (Text.splitOn Text.newline t).dropLast

end Diagnostic

end LineMachine
