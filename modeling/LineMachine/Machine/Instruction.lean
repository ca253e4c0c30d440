import LineMachine.Machine.Register

/-!
# Instructions

There are ten commands in three forms: `MOV` has a number and a register, six commands have two
registers, and three jumps have a line number. `Instruction` holds exactly the well-formed ones.

`Code` is the numeric form of an instruction, a record of four integers. Each instruction has one
(`Instruction.code`), yet most records are the form of no instruction: an operation number may name
no command, a register number no register, and a form leaves some fields unused. A code is printed
by what its operation number asks for, whatever the other fields hold.
-/

namespace LineMachine

/-- The commands with two registers. -/
inductive Operation where
  | add | sub | copy | and | or | cmp
  deriving DecidableEq, Repr

/-- When a jump is taken: always, if the flag is set, or if it is clear. -/
inductive Condition where
  | always | equal | notEqual
  deriving DecidableEq, Repr

/-- A well-formed instruction. Line numbers count from one; a jump to line zero can be written, and
goes nowhere. -/
inductive Instruction where
  | move (value : Nat) (dst : Register)
  | combine (op : Operation) (src dst : Register)
  | jump (cond : Condition) (target : Nat)
  deriving DecidableEq, Repr

/-- What a command takes: nothing, a number and a register, two registers, or a number. -/
inductive Shape where
  | bare | numberRegister | registers | number
  deriving DecidableEq, Repr

namespace Operation

/-- The number of the command. -/
def number : Operation → Int
  | .add => 2 | .sub => 3 | .copy => 4 | .and => 5 | .or => 6 | .cmp => 7

end Operation

namespace Condition

/-- The number of the jump. -/
def number : Condition → Int
  | .always => 8 | .equal => 9 | .notEqual => 10

end Condition

/-- The numeric form of an instruction. -/
structure Code where
  op : Int := 0
  src : Int := 0
  dst : Int := 0
  value : Int := 0
  deriving DecidableEq, Repr

namespace Code

/-- The commands by their numbers; number zero is the command that does not exist. -/
def mnemonics : List Text :=
  ["?", "MOV", "ADD", "SUB", "COPY", "AND", "OR", "CMP", "JMP", "JEQ", "JNEQ"].map Text.ascii

/-- What is printed for the operation numbered `op`. -/
def mnemonic (op : Int) : Text :=
  match if op < 0 then none else mnemonics[op.toNat]? with
  | some m => m
  | none => Text.ascii "Op(" ++ Text.ofInt op ++ Text.ascii ")"

/-- What the operation numbered `op` takes. -/
def shapeOf (op : Int) : Shape :=
  if op = 1 then .numberRegister
  else if 2 ≤ op ∧ op ≤ 7 then .registers
  else if 8 ≤ op ∧ op ≤ 10 then .number
  else .bare

/-- What the operation of a code takes. -/
def shape (c : Code) : Shape := shapeOf c.op

/-- The operation of a code is a jump. -/
def isJump (c : Code) : Bool := c.shape = .number

/-- A code in words. -/
def text (c : Code) : Text :=
  let name := mnemonic c.op
  match c.shape with
  | .numberRegister =>
    name ++ Text.ascii " " ++ Text.ofInt c.value ++ Text.ascii ", " ++ Register.nameOfIndex c.dst
  | .registers =>
    name ++ Text.ascii " " ++ Register.nameOfIndex c.src ++ Text.ascii ", " ++
      Register.nameOfIndex c.dst
  | .number => name ++ Text.ascii " " ++ Text.ofInt c.value
  | .bare => name

end Code

namespace Instruction

/-- The numeric form of an instruction. Fields that its form does not use are zero. -/
def code : Instruction → Code
  | .move v d => { op := 1, dst := d.index.val, value := v }
  | .combine op s d => { op := op.number, src := s.index.val, dst := d.index.val }
  | .jump c t => { op := c.number, value := t }

/-- The canonical line of an instruction. -/
def text (i : Instruction) : Text := i.code.text

end Instruction

end LineMachine
