import LineMachine.Machine.Instruction

/-!
# Reading a line

A line is read as a whole: a command, one space, and the operands that the command takes, with a
comma and one space between two operands. Nothing else is accepted, no other white space and no
other letter case. A number has one or more digits, with leading zeros if one likes, and is cut off
at `numberLimit`.

A line fails in two ways. It has no space, or what stands before its first space is no command; or
the command is one, and the rest is not what it takes.
-/

namespace LineMachine

/-- Why a line is no instruction. -/
inductive DecodeError where
  | commandUnknown
  | operandInvalid
  deriving DecidableEq, Repr

/-- The wording of a decode error. -/
def DecodeError.message : DecodeError → Text
  | .commandUnknown => Text.ascii "command unknown"
  | .operandInvalid => Text.ascii "operand invalid"

namespace Instruction

/-- The greatest number that an instruction holds, which is the greatest of 64 bits with a sign. -/
def numberLimit : Nat := 0x7FFFFFFFFFFFFFFF

/-- Read a number operand. -/
def number? (t : Text) : Option Nat :=
  if !t.isEmpty && t.all Text.isDigit then some (min (Text.value t) numberLimit) else none

/-- The texts before and after the first comma, which a space has to follow. -/
def pair? (t : Text) : Option (Text × Text) :=
  match t.dropWhile (· != Text.byte ',') with
  | _ :: b :: rest =>
    if b = Text.byte ' ' then some (t.takeWhile (· != Text.byte ','), rest) else none
  | _ => none

/-- Read the operands of `MOV`. -/
def move? (t : Text) : Option Instruction := do
  let (v, d) ← pair? t
  return .move (← number? v) (← Register.ofName? d)

/-- Read the operands of a command with two registers. -/
def combine? (op : Operation) (t : Text) : Option Instruction := do
  let (s, d) ← pair? t
  return .combine op (← Register.ofName? s) (← Register.ofName? d)

/-- Read the operand of a jump. -/
def jump? (c : Condition) (t : Text) : Option Instruction := (number? t).map (.jump c)

/-- The commands, each with the reader of its operands. -/
def commands : List (Text × (Text → Option Instruction)) :=
  [(Text.ascii "MOV", move?),
    (Text.ascii "ADD", combine? .add),
    (Text.ascii "SUB", combine? .sub),
    (Text.ascii "COPY", combine? .copy),
    (Text.ascii "AND", combine? .and),
    (Text.ascii "OR", combine? .or),
    (Text.ascii "CMP", combine? .cmp),
    (Text.ascii "JMP", jump? .always),
    (Text.ascii "JEQ", jump? .equal),
    (Text.ascii "JNEQ", jump? .notEqual)]

/-- Read a whole line as one instruction. -/
def decode (line : Text) : Except DecodeError Instruction :=
  match line.dropWhile (· != Text.byte ' ') with
  | [] => .error .commandUnknown
  | _ :: operands =>
    match commands.lookup (line.takeWhile (· != Text.byte ' ')) with
    | none => .error .commandUnknown
    | some read =>
      match read operands with
      | none => .error .operandInvalid
      | some i => .ok i

/-- The numeric form of what a line decodes to; a line that does not decode has the form of the
command that does not exist. -/
def codeOf (decoded : Except DecodeError Instruction) : Code :=
  match decoded with
  | .ok i => i.code
  | .error _ => {}

end Instruction

/-- A line that is no instruction, with its number. -/
structure LineFault where
  number : Int
  line : Text
  cause : DecodeError
  deriving DecidableEq, Repr

/-- Read line `number` of a program. -/
def Instruction.decodeLine (number : Int) (line : Text) : Except LineFault Instruction :=
  (decode line).mapError fun cause => { number, line, cause }

end LineMachine
