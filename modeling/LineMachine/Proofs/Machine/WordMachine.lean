import LineMachine.Machine.Snapshot
import Mathlib.Data.Int.Bitwise

/-!
# The word machine

The word machine is the machine as a processor runs it. Its numbers are signed words of 64 bits, its
registers are an array, an instruction is a record of numbers, the lines of the program are looked
up by their index and the operands of a command are read by the pattern of its shape. Each of these can
go wrong, and a word machine for which one does ends in a `Trap`: a sum that no word can hold, an
index outside of its array, a shape without a pattern. The loop has two exits, of which one is the
limit, and a machine that has not left it after `commandLimit` turns is trapped as well.

The log holds texts, in which numbers and registers are written from the numbers of the code.
`run` answers with the machine at every point of the run: after the reset, after each executed line,
and after the entry of the limit.
-/

namespace LineMachine

/-- What can go wrong in a word machine. -/
inductive Trap where
  | overflow
  | registerIndex
  | lineIndex
  | missingPattern
  | endless
  deriving DecidableEq, Repr

/-- The state of a word machine. -/
structure WordMachine where
  registers : Bank
  zx : Int
  pc : Int
  steps : Int
  log : List Text

namespace WordMachine

/-- The result of an operation on words, which has to be a word itself. -/
def word (i : Int) : Except Trap Int :=
  if -(Instruction.numberLimit : Int) - 1 ≤ i ∧ i ≤ Instruction.numberLimit then .ok i
  else .error .overflow

/-- The register at an index. -/
def fetch (b : Bank) (i : Int) : Except Trap Int :=
  if h : 0 ≤ i ∧ i < Register.count then .ok (b.get ⟨i.toNat, by omega⟩)
  else .error .registerIndex

/-- The registers with a number stored at an index. -/
def store (b : Bank) (i v : Int) : Except Trap Bank :=
  if h : 0 ≤ i ∧ i < Register.count then .ok (b.set i.toNat v (by omega))
  else .error .registerIndex

/-- The line at an index. -/
def lineAt (lines : List Text) (i : Int) : Except Trap Text :=
  if h : 0 ≤ i ∧ i < lines.length then .ok (lines.get ⟨i.toNat, by omega⟩)
  else .error .lineIndex

section Decoding

/-- The commands with their numbers. -/
def operations : List (Text × Int) :=
  [(Text.ascii "MOV", 1), (Text.ascii "ADD", 2), (Text.ascii "SUB", 3), (Text.ascii "COPY", 4),
    (Text.ascii "AND", 5), (Text.ascii "OR", 6), (Text.ascii "CMP", 7), (Text.ascii "JMP", 8),
    (Text.ascii "JEQ", 9), (Text.ascii "JNEQ", 10)]

/-- The number of the register with a given name: its letter, counted from `A`. -/
def registerNumber? : Text → Option Int
  | [b, x] =>
    if Text.byte 'A' ≤ b ∧ b ≤ Text.byte 'H' ∧ x = Text.byte 'X' then
      some (b - Text.byte 'A').toNat
    else none
  | _ => none

/-- Read a number and a register. -/
def numberRegister? (t : Text) : Option Code := do
  let (v, d) ← Instruction.pair? t
  return { value := ← Instruction.number? v, dst := ← registerNumber? d }

/-- Read two registers. -/
def registers? (t : Text) : Option Code := do
  let (s, d) ← Instruction.pair? t
  return { src := ← registerNumber? s, dst := ← registerNumber? d }

/-- Read a number. -/
def number? (t : Text) : Option Code := do
  return { value := ← Instruction.number? t }

/-- The pattern of a shape. A command that takes nothing has none. -/
def pattern? : Shape → Option (Text → Option Code)
  | .numberRegister => some numberRegister?
  | .registers => some registers?
  | .number => some number?
  | .bare => none

/-- Read a line as a record of numbers. -/
def decode (line : Text) : Except Trap (Except DecodeError Code) :=
  match line.dropWhile (· != Text.byte ' ') with
  | [] => .ok (.error .commandUnknown)
  | _ :: operands =>
    match operations.lookup (line.takeWhile (· != Text.byte ' ')) with
    | none => .ok (.error .commandUnknown)
    | some op =>
      match pattern? (Code.shapeOf op) with
      | none => .error .missingPattern
      | some read =>
        match read operands with
        | none => .ok (.error .operandInvalid)
        | some c => .ok (.ok { c with op })

end Decoding

/-- The machine with all registers, the flag and both counters at zero and a fresh log. -/
def reset (_ : WordMachine) : WordMachine :=
  { registers := Bank.zero, zx := 0, pc := 0, steps := 0
    log := [Text.ascii "Resetting all registers to their defaults..."] }

/-- Add an entry for the line at `pc`. -/
def note (w : WordMachine) (message : Text) : Except Trap WordMachine := do
  let number ← word (w.pc + 1)
  return { w with log := w.log ++
    [Text.ascii "Line " ++ Text.ofInt number ++ Text.ascii ": " ++ message] }

/-- A warning that line `number` has left the range of the register at an index. -/
def warning (number reg : Int) (side bound : String) : Text :=
  Text.ascii "*** WARNING: Line " ++ Text.ofInt number ++ Text.ascii " has set " ++
    Register.nameOfIndex reg ++ Text.ascii " to a value " ++ Text.ascii side ++ Text.ascii " " ++
    Text.ascii bound ++ Text.ascii ". It has been clamped to " ++ Text.ascii bound ++
    Text.ascii ".***"

/-- Force a register into its range. The second result says whether that was needed. -/
def clamp (w : WordMachine) (reg : Int) : Except Trap (WordMachine × Bool) := do
  let number ← word (w.pc + 1)
  let v ← fetch w.registers reg
  if v < Register.least then
    let w ← w.note (warning number reg "below" "0")
    return ({ w with registers := ← store w.registers reg Register.least }, true)
  else if Register.greatest < v then
    let w ← w.note (warning number reg "above" "255")
    return ({ w with registers := ← store w.registers reg Register.greatest }, true)
  else return (w, false)

/-- Store a number in a register and clamp it. The message is for a number in range. -/
def write (w : WordMachine) (reg v : Int) (message : Text) : Except Trap WordMachine := do
  let w := { w with registers := ← store w.registers reg v }
  let (w, clamped) ← w.clamp reg
  if clamped then return w else w.note message

/-- Execute a register instruction. Both operands are read first, whether they are used or not. -/
def alu (w : WordMachine) (c : Code) : Except Trap WordMachine := do
  let src ← fetch w.registers c.src
  let dst ← fetch w.registers c.dst
  let s := Register.nameOfIndex c.src
  let d := Register.nameOfIndex c.dst
  if c.op = 1 then
    w.write c.dst c.value (Text.ascii "Moving " ++ Text.ofInt c.value ++ Text.ascii " into " ++ d)
  else if c.op = 2 then
    w.write c.dst (← word (dst + src)) (Text.ascii "Adding " ++ s ++ Text.ascii " to " ++ d)
  else if c.op = 3 then
    w.write c.dst (← word (dst - src))
      (Text.ascii "Subtracting " ++ s ++ Text.ascii " from " ++ d)
  else if c.op = 4 then
    w.write c.dst src (Text.ascii "Copying " ++ s ++ Text.ascii " to " ++ d)
  else if c.op = 5 then
    w.write c.dst (Int.land dst src) (Text.ascii "ANDing " ++ s ++ Text.ascii " with " ++ d)
  else if c.op = 6 then
    w.write c.dst (Int.lor dst src) (Text.ascii "ORing " ++ s ++ Text.ascii " with " ++ d)
  else if c.op = 7 then
    let w := { w with zx := if dst = src then 1 else 0 }
    w.write c.dst dst (Text.ascii "Comparing " ++ s ++ Text.ascii " with " ++ d)
  else return w

/-- Tell a jump, and answer with the index of the line it goes to. -/
def jump (w : WordMachine) (target : Int) (message : Text) : Except Trap (WordMachine × Int) := do
  if target < 1 then
    let w ← w.note
      (Text.ascii "*** ERROR: Line " ++ Text.ofInt target ++ Text.ascii " does not exist. ***")
    return (w, ← word (w.pc + 1))
  else
    let w ← w.note message
    return (w, ← word (target - 1))

/-- Execute a jump, where `next` is the index of the line that follows. -/
def branch (w : WordMachine) (c : Code) (next : Int) : Except Trap (WordMachine × Int) :=
  let line := Text.ascii "Jumping to line " ++ Text.ofInt c.value
  if c.op = 8 then w.jump c.value line
  else if c.op = 9 ∧ w.zx = 1 then w.jump c.value (Text.ascii "ZX is 1. " ++ line)
  else if c.op = 10 ∧ w.zx = 0 then w.jump c.value (Text.ascii "ZX is 0. " ++ line)
  else return (w, next)

/-- Execute a line, and answer with the index of the line to be executed next. -/
def step (w : WordMachine) (line : Text) : Except Trap (WordMachine × Int) := do
  let next ← word (w.pc + 1)
  match ← decode line with
  | .error _ =>
    let w ← w.note (Text.ascii
      "*** ERROR: Unknown command; Remember, all commands and registers are case-sensitive. ***")
    return (w, next)
  | .ok c => if c.isJump then w.branch c next else return (← w.alu c, next)

/-- Execute a line, move on and count it. -/
def turn (w : WordMachine) (line : Text) : Except Trap WordMachine := do
  let (w, next) ← w.step line
  return { w with pc := next, steps := ← word (w.steps + 1) }

/-- Execute lines until the last one has been passed or the limit is reached. -/
def loop (lines : List Text) : Nat → WordMachine → Except Trap (List WordMachine)
  | 0, _ => .error .endless
  | n + 1, w => do
    if w.pc < lines.length then
      let after ← w.turn (← lineAt lines w.pc)
      if (Machine.commandLimit : Int) ≤ after.steps then
        return [w, after,
          ← after.note (Text.ascii "*** ERROR: Too many commands; exiting. ***")]
      else return w :: (← loop lines n after)
    else return [w]

/-- Reset the machine and run a program text on it. -/
def run (w : WordMachine) (code : Text) : Except Trap (List WordMachine) :=
  loop (Text.lines code) Machine.commandLimit w.reset

end WordMachine

end LineMachine
