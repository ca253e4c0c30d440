import LineMachine.Emulator
import LineMachine.Lesson.Evaluation
import LineMachine.Lesson.Grammar

/-!
# Sessions

A session is an emulator on which lessons are executed one after the other. It counts the checks that
the lessons make. Its text, machine and counts are kept from one lesson to the next, also when a
lesson is given up halfway; what is printed and told is that of the latest lesson.

A lesson ends well only if no check of the session has failed so far.
-/

namespace LineMachine.Lesson

/-- Why a lesson does not end well. -/
inductive LessonError where
  | grammar (file : Text) (p : Position) (f : GrammarFault)
  | scope (file : Text) (p : Position) (f : ScopeFault)
  | eval (e : EvalError)
  | checks (failed total : Nat)
  deriving DecidableEq, Repr

/-- The wording of failed checks. The numbers follow the locale. -/
def checksMessage (l : Locale) (failed total : Int) : Text :=
  l.ofInt failed ++ Text.ascii " of " ++ l.ofInt total ++ Text.ascii " checks failed"

/-- The wording of an error. -/
def LessonError.message (l : Locale) : LessonError → Text
  | .grammar file p f => p.text file ++ Text.ascii ": " ++ f.message
  | .scope file p f => p.text file ++ Text.ascii ": " ++ f.message file
  | .eval e => e.message
  | .checks failed total => checksMessage l failed total

/-- An emulator on which lessons are executed. -/
structure Session where
  verbose : Bool := false
  emulator : Emulator := {}
  checks : Nat := 0
  failed : Nat := 0
  output : Array Text := #[]
  told : Array Diagnostic := #[]

namespace Session

/-- Play the program text, and tell so if the session is verbose. -/
def play (s : Session) (place : Text) : Session :=
  let (emulator, told) := s.emulator.play
  let more : List Diagnostic :=
    if s.verbose then [.lessonRun place emulator.machine.log.size] else []
  { s with emulator, told := s.told ++ told ++ more }

/-- The line for a failed check. -/
def failedLine (message place : Text) : Text :=
  place ++ Text.ascii ": check failed: " ++ message ++ [Text.newline]

/-- Do what an accepted call asks for. -/
def perform (s : Session) : Request → Session
  | .run code place => { s with emulator := s.emulator.setText code }.play place
  | .play place => s.play place
  | .reset =>
    let (emulator, told) := s.emulator.reset
    { s with emulator, told := s.told ++ told }
  | .register _ | .zx | .log | .value _ => s
  | .print line => { s with output := s.output.push (line ++ [Text.newline]) }
  | .check holds message place =>
    if holds then { s with checks := s.checks + 1 }
    else
      { s with
        checks := s.checks + 1
        failed := s.failed + 1
        output := s.output.push (failedLine message place) }

/-- Answer a call that a lesson makes in a world. A call that is refused changes nothing. -/
def answer (s : Session) (c : Call) (w : World) : Except EvalError (Value × World) × Session :=
  match c.request w with
  | .error e => (.error e, s)
  | .ok r =>
    let s := s.perform r
    (.ok (r.result w s.emulator.machine), s)

end Session

/-- Hold a dialogue with a session. It ends with the first call that is refused. -/
def Dialogue.hold {α : Type} : Dialogue α → Session → Except EvalError α × Session
  | .done a, s => (.ok a, s)
  | .fail e, s => (.error e, s)
  | .call c w next, s =>
    match s.answer c w with
    | (.ok v, s) => (next v).hold s
    | (.error e, s) => (.error e, s)

/-- The dialogue of a lesson, unless the source is no lesson or may not run. -/
def dialogue (file source : Text) : Except LessonError (Dialogue Unit) :=
  match statements source with
  | .error (p, f) => .error (.grammar file p f)
  | .ok ss =>
    match scopeFault? (fun x => (wellKnown.lookup x).isSome) ss with
    | some (p, f) => .error (.scope file p f)
    | none =>
      let depth := depthOf (tokens source).length
      .ok (((runStatements file depth ss).run {}).bind fun _ => .done ())

namespace Session

/-- How a lesson ends whose own evaluation ended with `r`. -/
def verdict (s : Session) (r : Except LessonError Unit) : Except LessonError Unit := do
  r
  if 0 < s.failed then throw (.checks s.failed s.checks)

/-- Evaluate a lesson, whatever its checks say. -/
def evaluate (s : Session) (file source : Text) : Except LessonError Unit × Session :=
  match dialogue file source with
  | .error e => (.error e, s)
  | .ok d =>
    let (r, s) := d.hold s
    (r.mapError .eval, s)

/-- Execute a lesson. -/
def execute (s : Session) (file source : Text) : Except LessonError Unit × Session :=
  let (r, s) := { s with output := #[], told := #[] }.evaluate file source
  (s.verdict r, s)

/-- What the latest lesson has printed. -/
def printed (s : Session) : Text := s.output.toList.flatten

end Session

end LineMachine.Lesson
