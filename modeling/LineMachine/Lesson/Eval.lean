import LineMachine.Lesson.Dialogue

/-!
# Steps of a running lesson

A step changes the world of the lesson, may make calls, and may give the lesson up.
-/

namespace LineMachine.Lesson

/-- A step of a running lesson. -/
abbrev Eval := StateT World Dialogue

namespace Eval

/-- Make a call. -/
def call (c : Call) : Eval Value := fun w => .call c w .done

/-- Give the lesson up. -/
def fail {α : Type} (e : EvalError) : Eval α := fun _ => .fail e

/-- Go on unless there is an error. -/
def check {α : Type} : Except EvalError α → Eval α
  | .ok a => pure a
  | .error e => fail e

/-- Change the world unless there is an error. -/
def change (f : World → Except EvalError World) : Eval Unit := do set (← check (f (← get)))

/-- Make a list. -/
def newList (items : List Value) : Eval Value := modifyGet fun w => w.newList items

end Eval

end LineMachine.Lesson
