import LineMachine.Diagnostic
import LineMachine.Machine.Log

/-!
# Running a program

The machine holds the registers, the flag `zx`, the index `pc` of the line to be executed next, the
number of lines executed since the last reset, and the log. All of them can be set from outside to
any integer, yet a run starts with a reset, so what they held before does not matter.

A line computes its exact result first and is clamped to the range of a register afterwards. The two
operands are read before the one write, so a register may be both source and destination.

A run ends after the last line or after `commandLimit` executed lines, whichever comes first; if both
happen at once the limit is told. `resume` counts the lines that may still be executed, which makes
the recursion end.
-/

namespace LineMachine

/-- The state of the machine. -/
structure Machine where
  registers : Bank := Bank.zero
  zx : Int := 0
  pc : Int := 0
  steps : Int := 0
  log : Array Entry := #[.reset]
  verbose : Bool := false

namespace Machine

/-- The number of lines after which a run is abandoned. -/
def commandLimit : Nat := 10000

/-- The machine with all registers, the flag and both counters at zero and a fresh log. -/
def reset (m : Machine) : Machine := { verbose := m.verbose }

/-- Add an entry for the line at `pc`. -/
def note (m : Machine) (message : Message) : Machine :=
  { m with log := m.log.push (.line (m.pc + 1) message) }

/-- Move on to the next line. -/
def advance (m : Machine) : Machine := { m with pc := m.pc + 1 }

/-- The value nearest to `v` that a register can hold. -/
def clamp (v : Int) : Int := max Register.least (min v Register.greatest)

/-- What the write of `v` into `dst` tells: `done`, unless `v` is out of range. -/
def outcome (dst : Register) (v : Int) (done : Message) : Message :=
  if v < Register.least then .below dst
  else if Register.greatest < v then .above dst
  else done

/-- Write a result into a register and tell what was done. -/
def put (m : Machine) (dst : Register) (v : Int) (done : Message) : Machine :=
  { m with registers := m.registers.write dst (clamp v) }.note (outcome dst v done)

end Machine

/-- The exact result of a command with two registers, from the values of destination and source. A
comparison leaves the destination as it is. -/
def Operation.result (op : Operation) (dst src : Int) : Int :=
  match op with
  | .add => dst + src
  | .sub => dst - src
  | .copy => src
  | .and => (dst.toNat &&& src.toNat : Nat)
  | .or => (dst.toNat ||| src.toNat : Nat)
  | .cmp => dst

/-- A jump is taken when the flag is `zx`. -/
def Condition.holds (c : Condition) (zx : Int) : Bool :=
  match c with
  | .always => true
  | .equal => zx = 1
  | .notEqual => zx = 0

namespace Machine

/-- The flag after a command with two registers. Only a comparison changes it. -/
def flagAfter (m : Machine) (op : Operation) (dst src : Int) : Int :=
  if op = .cmp then (if dst = src then 1 else 0) else m.zx

/-- Execute what the line at `pc` decodes to. -/
def execute (m : Machine) : Except LineFault Instruction → Machine
  | .error _ => (m.note .unknownCommand).advance
  | .ok (.move v d) => (m.put d v (.moved v d)).advance
  | .ok (.combine op s d) =>
    let src := m.registers.read s
    let dst := m.registers.read d
    let m := { m with zx := m.flagAfter op dst src }
    (m.put d (op.result dst src) (.combined op s d)).advance
  | .ok (.jump c t) =>
    if c.holds m.zx then
      if t = 0 then (m.note (.noSuchLine t)).advance
      else { m.note (.jumped c t) with pc := t - 1 }
    else m.advance

/-- Execute a line and count it. -/
def step (m : Machine) (decoded : Except LineFault Instruction) : Machine :=
  let m := m.execute decoded
  { m with steps := m.steps + 1 }

/-- Execute lines from `pc` on until the last one has been passed or `n` more have been executed. The
second result is what a verbose machine tells meanwhile, added to `told`. -/
def resume (lines : Array Text) : Nat → Machine → Array Diagnostic → Machine × Array Diagnostic
  | 0, m, told => (m.note .tooManyCommands, told.push (.stopped m.steps))
  | n + 1, m, told =>
    match lines[m.pc.toNat]? with
    | none => (m, told.push (.finished m.steps))
    | some line =>
      let decoded := Instruction.decodeLine (m.pc + 1) line
      resume lines n (m.step decoded) (told.push (.ofLine (m.pc + 1) decoded))

/-- Reset the machine. A verbose machine tells so. -/
def resetTelling (m : Machine) : Machine × List Diagnostic :=
  (m.reset, if m.verbose then [.reset] else [])

/-- Reset the machine and run a program text on it. A verbose machine tells what it does. -/
def runTelling (m : Machine) (code : Text) : Machine × List Diagnostic :=
  let (after, told) := resume (Text.lines code).toArray commandLimit m.reset #[.reset]
  (after, if m.verbose then told.toList else [])

/-- Reset the machine and run a program text on it. -/
def run (m : Machine) (code : Text) : Machine := (m.runTelling code).1

end Machine

end LineMachine
