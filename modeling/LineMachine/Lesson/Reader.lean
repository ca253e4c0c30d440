import LineMachine.Lesson.Layout
import LineMachine.Lesson.Statement

/-!
# Readers of tokens

A reader has one token of look-ahead. A message about a token that does not fit points to the
position after that token, but where an expression is missing it points to the start of the token. A
token that could not be read at all is complained of as soon as it becomes the look-ahead.
-/

namespace LineMachine.Lesson

/-- Why a source is no lesson. -/
inductive GrammarFault where
  | unreadable (message : Text)
  | unexpected (got : Token) (wanted : Text)
  | notIdentifier
  | trailingComma
  | keywordForm
  | choiceWithoutElse
  | notAssociative (first second : BinaryOp)
  | loadModule
  | loadOperand (got : Token)
  | loadUnnamed (x : Text)
  | loadUnquoted (x : Text)
  | loadNothing
  | tooDeep
  deriving DecidableEq, Repr

namespace GrammarFault

/-- The wording of a fault. -/
def message : GrammarFault → Text
  | .unreadable m => m
  | .unexpected got wanted =>
    Text.ascii "got " ++ got.describe ++ Text.ascii ", want " ++ wanted
  | .notIdentifier => Text.ascii "not an identifier"
  | .trailingComma => Text.ascii "unparenthesized tuple with trailing comma"
  | .keywordForm => Text.ascii "keyword argument must have form name=expr"
  | .choiceWithoutElse => Text.ascii "conditional expression without else clause"
  | .notAssociative a b =>
    Text.ascii (a.spelling ++ " does not associate with " ++ b.spelling ++ " (use parens)")
  | .loadModule => Text.ascii "first operand of load statement must be a string literal"
  | .loadOperand got =>
    Text.ascii "load operand must be \"name\" or localname=\"name\" (got " ++ got.describe ++
      Text.ascii ")"
  | .loadUnnamed x =>
    Text.ascii "load operand must be \"" ++ x ++ Text.ascii "\" or " ++ x ++
      Text.ascii "=\"originalname\" (want '=' after " ++ x ++ Text.ascii ")"
  | .loadUnquoted x =>
    Text.ascii "original name of loaded symbol must be quoted: " ++ x ++
      Text.ascii "=\"originalname\""
  | .loadNothing => Text.ascii "load statement must import at least 1 symbol"
  | .tooDeep => Text.ascii "nesting is too deep"

end GrammarFault

/-- A reader of tokens. -/
abbrev Reader := StateT (List Lexeme) (Except (Position × GrammarFault))

namespace Reader

/-- The look-ahead. -/
def peek : Reader Lexeme := do return (← get).headD ⟨.endOfFile, {}, {}⟩

/-- The token of the look-ahead. -/
def token : Reader Token := do return (← peek).token

/-- Stop at a position. -/
def stop {α : Type} (p : Position) (f : GrammarFault) : Reader α := throw (p, f)

/-- Stop behind the look-ahead. -/
def refuse {α : Type} (f : GrammarFault) : Reader α := do stop (← peek).stop f

/-- Stop because the look-ahead is not what is wanted. -/
def unexpected {α : Type} (wanted : Text) : Reader α := do
  refuse (.unexpected (← token) wanted)

/-- Stop at the start of the look-ahead because it is not what is wanted. -/
def unexpectedStart {α : Type} (wanted : Text) : Reader α := do
  let l ← peek
  stop l.start (.unexpected l.token wanted)

/-- Complain of a look-ahead that could not be read. -/
def settle : Reader Unit := do
  let l ← peek
  match l.token with
  | .fault m => stop l.start (.unreadable m)
  | _ => return ()

/-- Go on to the next token. The answer is the position of the token that is left behind. -/
def advance : Reader Position := do
  let l ← peek
  modify List.tail
  settle
  return l.start

/-- The look-ahead is a certain token. -/
def isNext (t : Token) : Reader Bool := do return (← token) == t

/-- Leave a certain token behind. -/
def consume (t : Token) : Reader Position := do
  if ← isNext t then advance else unexpected t.describe

/-- Leave a certain symbol behind. -/
def symbol (s : String) : Reader Position := consume (.symbol s)

/-- Leave a name behind. -/
def identifier : Reader (Position × Text) := do
  match ← token with
  | .name x => return (← advance, x)
  | _ => refuse .notIdentifier

/-- Read `not in` as one operator. -/
def joinNotIn : Reader Unit := do
  if ← isNext (.word "not") then
    let _ ← advance
    if ← isNext (.word "in") then
      modify fun
        | l :: ls => { l with token := .word "not in" } :: ls
        | [] => []
    else unexpected (Text.ascii "in")

/-- The operator that the look-ahead stands for. -/
def operator : Reader (Option BinaryOp) := do
  match ← token with
  | .symbol s | .word s => return BinaryOp.all.find? fun op => op.spelling == s
  | _ => return none

/-- The look-ahead ends a list of expressions. -/
def endsList : Reader Bool := do
  return [.endOfFile, .newline, .symbol "=", .symbol "\x7d", .symbol "]", .symbol ")",
    .symbol ";"].contains (← token)

end Reader

end LineMachine.Lesson
