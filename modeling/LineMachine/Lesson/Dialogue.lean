import LineMachine.Lesson.Value

/-!
# Calls of a lesson

A lesson does not touch the emulator itself. It calls one of the functions that every lesson knows, is
given a value, and goes on. So a running lesson is a dialogue, and all that it can bring about is the
effect of its calls, one after the other. A call that is refused gives the lesson up.
-/

namespace LineMachine.Lesson

/-- A call of a function that every lesson knows. The place is where in the lesson it is made. -/
structure Call where
  function : Builtin
  place : Text
  args : List Value := []
  named : List (Text × Value) := []

/-- A dialogue that ends with an answer or is given up, or makes a call and goes on with its value. The
world of the lesson is handed over with the call and comes back with the value. -/
inductive Dialogue (α : Type) where
  | done (a : α)
  | fail (e : EvalError)
  | call (c : Call) (w : World) (next : Value × World → Dialogue α)

namespace Dialogue

variable {α β : Type}

/-- Go on after the end of a dialogue. -/
def bind : Dialogue α → (α → Dialogue β) → Dialogue β
  | .done a, f => f a
  | .fail e, _ => .fail e
  | .call c w next, f => .call c w fun v => (next v).bind f

instance : Monad Dialogue where
  pure := .done
  bind := Dialogue.bind

end Dialogue

end LineMachine.Lesson
