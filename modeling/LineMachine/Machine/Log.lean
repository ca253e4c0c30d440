import LineMachine.Machine.Instruction

/-!
# The execution log

The log starts with the entry of the reset. Each executed line adds one entry with its number, but a
conditional jump that is not taken adds none. A line whose result leaves the range of a register
tells so instead of what it did. Numbers in the log are never grouped, and no entry quotes the
program text.
-/

namespace LineMachine

/-- What an executed line tells. -/
inductive Message where
  | unknownCommand
  | moved (value : Nat) (dst : Register)
  | combined (op : Operation) (src dst : Register)
  | jumped (cond : Condition) (target : Nat)
  | noSuchLine (target : Nat)
  | below (dst : Register)
  | above (dst : Register)
  | tooManyCommands
  deriving DecidableEq, Repr

/-- An entry of the log. -/
inductive Entry where
  | reset
  | line (number : Int) (message : Message)
  deriving DecidableEq, Repr

namespace Operation

/-- What a command with two registers does, in words that stand before and between its registers. -/
def words : Operation → Text × Text
  | .add => (Text.ascii "Adding ", Text.ascii " to ")
  | .sub => (Text.ascii "Subtracting ", Text.ascii " from ")
  | .copy => (Text.ascii "Copying ", Text.ascii " to ")
  | .and => (Text.ascii "ANDing ", Text.ascii " with ")
  | .or => (Text.ascii "ORing ", Text.ascii " with ")
  | .cmp => (Text.ascii "Comparing ", Text.ascii " with ")

end Operation

namespace Condition

/-- Why a jump is taken. -/
def words : Condition → Text
  | .always => []
  | .equal => Text.ascii "ZX is 1. "
  | .notEqual => Text.ascii "ZX is 0. "

end Condition

namespace Message

/-- A warning that line `number` has left the range of a register. -/
def warning (number : Int) (dst : Register) (side bound : String) : Text :=
  Text.ascii "*** WARNING: Line " ++ Text.ofInt number ++ Text.ascii " has set " ++ dst.name ++
    Text.ascii " to a value " ++ Text.ascii side ++ Text.ascii " " ++ Text.ascii bound ++
    Text.ascii ". It has been clamped to " ++ Text.ascii bound ++ Text.ascii ".***"

/-- A message of line `number` in words. -/
def text (number : Int) : Message → Text
  | .unknownCommand =>
    Text.ascii "*** ERROR: Unknown command; Remember, all commands and registers are case-sensitive. ***"
  | .moved v d => Text.ascii "Moving " ++ Text.ofNat v ++ Text.ascii " into " ++ d.name
  | .combined op s d => op.words.1 ++ s.name ++ op.words.2 ++ d.name
  | .jumped c t => c.words ++ Text.ascii "Jumping to line " ++ Text.ofNat t
  | .noSuchLine t =>
    Text.ascii "*** ERROR: Line " ++ Text.ofNat t ++ Text.ascii " does not exist. ***"
  | .below d => warning number d "below" "0"
  | .above d => warning number d "above" "255"
  | .tooManyCommands => Text.ascii "*** ERROR: Too many commands; exiting. ***"

end Message

namespace Entry

/-- An entry in words. -/
def text : Entry → Text
  | .reset => Text.ascii "Resetting all registers to their defaults..."
  | .line number message =>
    Text.ascii "Line " ++ Text.ofInt number ++ Text.ascii ": " ++ message.text number

end Entry

end LineMachine
