import LineMachine.Document

/-!
# Rehearsals

A rehearsal is a store and a shelf without files. It writes down each call that is made on it, and
answers it with the next of the outcomes that have been prepared; when these have run out, every call
succeeds. It shows which calls are made, and what is made of their failures.
-/

namespace LineMachine

/-- A call on a store or a shelf. -/
inductive Call where
  | enter (name : Text)
  | makeFolder (name : Text) (mode : Nat)
  | create (name : Text)
  | write (data : Text)
  | close
  | stat (name : Text)
  | read (name : Text)
  deriving DecidableEq, Repr

/-- What a call is to answer. -/
inductive Outcome where
  | success
  | bare (f : Fault)
  | path (f : Fault)
  | other (message : Text)
  deriving DecidableEq, Repr

namespace Call

/-- The name of the operation that is called. -/
def operation : Call → Text
  | .enter _ => Text.ascii "sub"
  | .makeFolder .. => Text.ascii "mkdir"
  | .create _ => Text.ascii "create"
  | .write _ => Text.ascii "write"
  | .close => Text.ascii "close"
  | .stat _ => Text.ascii "stat"
  | .read _ => Text.ascii "readfile"

/-- The text that a call is about. -/
def argument : Call → Text
  | .enter n | .makeFolder n _ | .create n | .write n | .stat n | .read n => n
  | .close => []

/-- What a call answers for an outcome. -/
def answer (c : Call) : Outcome → Except FileError Unit
  | .success => .ok ()
  | .bare f => .error (.bare f)
  | .path f => .error (.path c.operation c.argument (.fault f))
  | .other m => .error (.other m)

end Call

/-- The outcomes that are still to come, and the calls that have been made, the first one first. -/
structure Rehearsal where
  outcomes : List Outcome := []
  calls : List Call := []
  deriving Repr

namespace Rehearsal

/-- Make a call. -/
def call (c : Call) : ExceptT FileError (StateM Rehearsal) Unit :=
  ExceptT.mk fun r =>
    (c.answer (r.outcomes.headD .success),
      { outcomes := r.outcomes.tail, calls := r.calls ++ [c] })

/-- The store of a rehearsal. A folder that has been entered is the same store again. -/
def store : Store Unit Unit (StateM Rehearsal) where
  enter _ name := call (.enter name)
  makeFolder _ name mode := call (.makeFolder name mode)
  create _ name := call (.create name)
  write _ data := call (.write data)
  close _ := call .close

/-- The shelf of a rehearsal, where every name stands for the same contents. -/
def shelf (regular : Bool) (data : Text) : Shelf Unit (StateM Rehearsal) where
  isRegular _ name := do call (.stat name); return regular
  read _ name := do call (.read name); return data

end Rehearsal

end LineMachine
