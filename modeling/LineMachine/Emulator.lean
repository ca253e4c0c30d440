import LineMachine.Document
import LineMachine.Machine.Snapshot

/-!
# The emulator

An emulator is a machine together with the program text that it plays. It counts how often it has
played. Whether it is verbose reaches its machine at the next play or reset, not before.
-/

namespace LineMachine

/-- A machine and its program text. -/
structure Emulator where
  verbose : Bool := false
  machine : Machine := {}
  text : Text := []
  runs : Nat := 0

namespace Emulator

/-- The machine with the verbosity of the emulator. -/
def preparedMachine (e : Emulator) : Machine := { e.machine with verbose := e.verbose }

/-- Replace the program text. -/
def setText (e : Emulator) (text : Text) : Emulator := { e with text }

/-- Run the program text on the machine. -/
def play (e : Emulator) : Emulator × List Diagnostic :=
  let (machine, told) := e.preparedMachine.runTelling e.text
  let runs := e.runs + 1
  ({ e with machine, runs },
    told ++ if e.verbose then [.played runs machine.steps machine.log.size] else [])

/-- Reset the machine. -/
def reset (e : Emulator) : Emulator × List Diagnostic :=
  let (machine, told) := e.preparedMachine.resetTelling
  ({ e with machine }, told)

/-- Run a program on the machine past the emulator: neither its text nor its count changes. -/
def runCode (e : Emulator) (code : Text) : Emulator × List Diagnostic :=
  let (machine, told) := e.machine.runTelling code
  ({ e with machine }, told)

/-- The rows of the machine's panel. -/
def panel (e : Emulator) : Feed (Text × Text) := e.machine.snapshot.rows

section

variable {δ φ : Type} {m : Type → Type} [Monad m]

/-- Replace the program text by a document. If that fails nothing changes. -/
def load (s : Shelf δ m) (d : δ) (name : Text) (e : Emulator) :
    m (Emulator × Except DocumentError Unit × List Diagnostic) := do
  match ← (Document.load s d name).run with
  | .error err => return (e, .error err, [])
  | .ok text =>
    return ({ e with text }, .ok (), if e.verbose then [.loaded name text.length] else [])

/-- Save the program text as a document. -/
def save (s : Store δ φ m) (d : δ) (name : Text) (e : Emulator) :
    m (Except DocumentError Unit × List Diagnostic) := do
  match ← (Document.save s d name e.text).run with
  | .error err => return (.error err, [])
  | .ok () => return (.ok (), if e.verbose then [.saved name] else [])

end

end Emulator

end LineMachine
