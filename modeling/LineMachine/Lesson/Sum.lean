import LineMachine.Lesson.Statement

/-!
# Sums

A chain of plus signs is one sum, also where parentheses stand around its first operands. Before a sum
is worked out, neighbours that are written as strings, as bytes, as lists or as tuples become one
operand. So bytes can be joined where they are written side by side, though no operator joins two
values of this type, and the items of lists side by side are all evaluated before anything is added.
-/

namespace LineMachine.Lesson

namespace Expr

/-- The expression without the parentheses around it. -/
def bare : Expr → Expr
  | .paren _ e => e.bare
  | e => e

/-- The operands of a sum, from left to right, with `rest` behind them. An expression that is no sum is
its only operand. -/
def summands : Expr → List Expr → List Expr
  | .paren _ e, rest => e.summands rest
  | .binary .plus a b, rest => a.summands (b.bare :: rest)
  | e, rest => e :: rest

/-- Two operands of one kind, written side by side, as one. -/
def join? : Expr → Expr → Option Expr
  | .literal p (.string s), .literal _ (.string t) => some (.literal p (.string (s ++ t)))
  | .literal p (.bytes s), .literal _ (.bytes t) => some (.literal p (.bytes (s ++ t)))
  | .list p es, .list _ fs => some (.list p (es ++ fs))
  | .tuple p es, .tuple _ fs => some (.tuple p (es ++ fs))
  | _, _ => none

/-- Put an operand before others, where it is joined to the first of them if it can be. -/
def joinOnto (e : Expr) : List Expr → List Expr
  | [] => [e]
  | f :: rest =>
    match e.join? f with
    | some g => g :: rest
    | none => e :: f :: rest

/-- The operands of a sum after neighbours have been joined. -/
def joinedSummands (e : Expr) : List Expr := (e.summands []).foldr joinOnto []

end Expr

end LineMachine.Lesson
