import LineMachine.Feed
import LineMachine.Machine.Run

/-!
# Snapshots

A snapshot is what can be seen of a machine: registers, flag, number of executed lines and log. The
panel shows nine rows, one for each register in binary and one for the flag in decimal.
-/

namespace LineMachine

/-- What can be seen of a machine. -/
structure Snapshot where
  registers : Bank
  zx : Int
  steps : Int
  log : List Text

/-- What can be seen of a machine now. -/
def Machine.snapshot (m : Machine) : Snapshot :=
  { registers := m.registers, zx := m.zx, steps := m.steps, log := m.log.toList.map Entry.text }

namespace Snapshot

/-- The value of the register numbered `i`, and zero if there is none. -/
def value (s : Snapshot) (i : Int) : Int :=
  match Register.ofIndex? i with
  | some r => s.registers.read r
  | none => 0

/-- The values of the registers by name. -/
def values (s : Snapshot) : List (Text × Int) :=
  Register.all.map fun r => (r.name, s.registers.read r)

/-- The log with a line feed between two entries. -/
def logText (s : Snapshot) : Text := Text.join [Text.newline] s.log

/-- The rows of the registers. -/
def registerRows (s : Snapshot) : Feed (Text × Text) :=
  .ofList (Register.all.map fun r => (r.name, Text.binary8 (s.registers.read r)))

/-- The row of the flag. -/
def flagRow (s : Snapshot) : Feed (Text × Text) := .ofList [(Text.ascii "ZX", Text.ofInt s.zx)]

/-- The rows of the panel. -/
def rows (s : Snapshot) : Feed (Text × Text) := .concat [s.registerRows, s.flagRow]

/-- A row as a line of the panel. -/
def rowText (row : Text × Text) : Text := row.1 ++ Text.ascii ": " ++ row.2 ++ [Text.newline]

/-- The panel. -/
def panel (s : Snapshot) : Text := ((s.rows.collect none).map rowText).flatten

/-- The report of a run: the panel, an empty line and the log. -/
def report (s : Snapshot) : Text :=
  s.panel ++ [Text.newline] ++ s.logText ++ [Text.newline]

end Snapshot

end LineMachine
