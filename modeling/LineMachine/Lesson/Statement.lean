import LineMachine.Lesson.Token

/-!
# Statements of a lesson

The tree of a lesson. Positions are kept where a message may point to them: the start of a name, of a
literal and of a statement, and the opening parenthesis of a call.
-/

namespace LineMachine.Lesson

/-- An operator between two operands. -/
inductive BinaryOp where
  | or | and
  | eq | ne | lt | gt | le | ge | isIn | notIn
  | pipe | caret | amp | shiftLeft | shiftRight
  | minus | plus
  | times | percent | divide | floorDivide
  deriving DecidableEq, Repr

namespace BinaryOp

/-- The operator as it is written. -/
def spelling : BinaryOp → String
  | .or => "or" | .and => "and"
  | .eq => "==" | .ne => "!=" | .lt => "<" | .gt => ">" | .le => "<=" | .ge => ">="
  | .isIn => "in" | .notIn => "not in"
  | .pipe => "|" | .caret => "^" | .amp => "&" | .shiftLeft => "<<" | .shiftRight => ">>"
  | .minus => "-" | .plus => "+"
  | .times => "*" | .percent => "%" | .divide => "/" | .floorDivide => "//"

/-- How tightly an operator binds: a higher level binds tighter. Level two is that of `not`. -/
def level : BinaryOp → Nat
  | .or => 0 | .and => 1
  | .eq | .ne | .lt | .gt | .le | .ge | .isIn | .notIn => 3
  | .pipe => 4 | .caret => 5 | .amp => 6 | .shiftLeft | .shiftRight => 7
  | .minus | .plus => 8
  | .times | .percent | .divide | .floorDivide => 9

/-- The level of comparisons, which do not associate. -/
def comparisonLevel : Nat := 3

/-- The number of levels. -/
def levels : Nat := 10

/-- All operators. -/
def all : List BinaryOp :=
  [.or, .and, .eq, .ne, .lt, .gt, .le, .ge, .isIn, .notIn, .pipe, .caret, .amp, .shiftLeft,
    .shiftRight, .minus, .plus, .times, .percent, .divide, .floorDivide]

/-- The operators that may be joined with an assignment. -/
def updating : List BinaryOp :=
  [.plus, .minus, .times, .divide, .floorDivide, .percent, .amp, .pipe, .caret, .shiftLeft,
    .shiftRight]

end BinaryOp

/-- An operator before its operand. -/
inductive UnaryOp where
  | not | minus | plus | tilde
  deriving DecidableEq, Repr

/-- The operator as it is written. -/
def UnaryOp.spelling : UnaryOp → String
  | .not => "not" | .minus => "-" | .plus => "+" | .tilde => "~"

/-- A literal. -/
inductive Literal where
  | int (n : Nat)
  | float (x : Binary64)
  | string (t : Text)
  | bytes (t : Text)
  deriving DecidableEq, Repr

mutual

/-- An expression. -/
inductive Expr where
  | name (p : Position) (x : Text)
  | literal (p : Position) (v : Literal)
  | paren (p : Position) (e : Expr)
  | list (p : Position) (items : List Expr)
  | tuple (p : Position) (items : List Expr)
  | dict (p : Position) (entries : List Entry)
  | comprehension (p : Position) (body : Yield) (vars source : Expr) (clauses : List Clause)
  | choice (cond yes no : Expr)
  | unary (p : Position) (op : UnaryOp) (e : Expr)
  | binary (op : BinaryOp) (left right : Expr)
  | call (f : Expr) (p : Position) (args : List Argument)
  | index (e i : Expr)
  | slice (e : Expr) (low high step : Option Expr)
  | member (e : Expr) (x : Text)
  | lambda (p : Position) (params : List Parameter) (body : Expr)

/-- What a comprehension gives each time: an item of a list, or an entry of a dictionary. -/
inductive Yield where
  | item (e : Expr)
  | entry (key value : Expr)

/-- An entry of a dictionary. -/
inductive Entry where
  | mk (key value : Expr)

/-- A further clause of a comprehension. -/
inductive Clause where
  | each (vars source : Expr)
  | only (cond : Expr)

/-- An argument of a call. The last two kinds give the members of a sequence as arguments, or the
entries of a dictionary as named ones. -/
inductive Argument where
  | positional (e : Expr)
  | named (p : Position) (x : Text) (e : Expr)
  | sequence (p : Position) (e : Expr)
  | mapping (p : Position) (e : Expr)

/-- A parameter of a function. The last two kinds take up further arguments and further named ones. A
`sequence` without a name takes up none: the parameters after it have to be given by name. -/
inductive Parameter where
  | required (p : Position) (x : Text)
  | optional (p : Position) (x : Text) (e : Expr)
  | sequence (p : Position) (x : Option (Position × Text))
  | mapping (p q : Position) (x : Text)

end

/-- The argument is given by its place. -/
def Argument.isPositional : Argument → Bool
  | .positional _ => true
  | _ => false

/-- The argument is given by its name. -/
def Argument.isNamed : Argument → Bool
  | .named .. => true
  | _ => false

/-- The position of the first character of an expression. -/
def Expr.start : Expr → Position
  | .name p _ | .literal p _ | .paren p _ | .list p _ | .tuple p _ | .dict p _
  | .comprehension p .. | .unary p .. | .lambda p .. => p
  | .choice _ yes _ => yes.start
  | .binary _ e _ | .call e .. | .index e _ | .slice e .. | .member e _ => e.start

/-- The words that stand alone as a statement. -/
inductive Jump where
  | leave | next | pass
  deriving DecidableEq, Repr

/-- The word as it is written. -/
def Jump.spelling : Jump → String
  | .leave => "break" | .next => "continue" | .pass => "pass"

/-- A name that a lesson asks another one for, and what it is to be called here. -/
structure LoadedName where
  position : Position
  exported : Text
  localPosition : Position
  localName : Text
  deriving Repr

/-- A statement. -/
inductive Statement where
  | expr (e : Expr)
  | assign (target value : Expr)
  | update (op : BinaryOp) (target value : Expr)
  | define (p : Position) (x : Text) (params : List Parameter) (body : List Statement)
  | result (p : Position) (e : Option Expr)
  | jump (p : Position) (j : Jump)
  | conditional (p : Position) (cond : Expr) (yes no : List Statement)
  | loop (p : Position) (vars source : Expr) (body : List Statement)
  | whileLoop (p : Position) (cond : Expr) (body : List Statement)
  | load (p : Position) (names : List LoadedName)

end LineMachine.Lesson
