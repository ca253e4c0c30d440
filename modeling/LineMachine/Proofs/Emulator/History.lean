import LineMachine.Emulator
import LineMachine.Proofs.Machine.Independence

/-!
# What an emulator is after a history

Whatever is done with an emulator leaves an event. The emulator after a history of events is told by
the latest event of each kind alone: its text by the latest new text, its machine by the latest
play, reset or run, and the verbosity of the machine by the latest play or reset. So `latest?` gives
the latest event of a kind together with the events before it, and `textAfter`, `machineAfter` and
the like spell the state of the emulator out from a history.

What one event does to an emulator is `undergo`. Each operation does what its event tells
(`emulator_perform`), and an emulator that `Follows` a history still does so after one more event.
-/

namespace LineMachine

section Latest

variable {α β : Type}

/-- The latest event for which `f` gives something: the events before it, and what is given. -/
def latest? (f : α → Option β) : List α → Option (List α × β)
  | [] => none
  | e :: es =>
    match latest? f es with
    | some (before, b) => some (e :: before, b)
    | none => (f e).map ([], ·)

/-- One more event is the latest one, if it is of the kind at all. -/
theorem latest?_concat (f : α → Option β) (es : List α) (e : α) :
    latest? f (es ++ [e]) = ((f e).map (es, ·)).or (latest? f es) := by
  induction es with
  | nil => cases h : f e <;> simp [latest?, h]
  | cons e' es ih => cases h : f e <;> simp [latest?, ih, h]

end Latest

namespace Emulator

/-- How the machine of an emulator is driven. -/
inductive Drive where
  | play
  | reset
  | run (code : Text)

/-- What has happened to an emulator. -/
inductive Event where
  | textSet (text : Text)
  | loaded (r : Except DocumentError Text)
  | saved (r : Except DocumentError Unit)
  | driven (d : Drive)
  | verboseSet (on : Bool)
  | looked

namespace Event

/-- The program text that an event brings. -/
def text? : Event → Option Text
  | .textSet text | .loaded (.ok text) => some text
  | _ => none

def verbose? : Event → Option Bool
  | .verboseSet on => some on
  | _ => none

def drive? : Event → Option Drive
  | .driven d => some d
  | _ => none

/-- The event hands the verbosity of the emulator on to its machine. -/
def prepares? : Event → Option Unit
  | .driven .play | .driven .reset => some ()
  | _ => none

def isPlay : Event → Bool
  | .driven .play => true
  | _ => false

end Event

/-! ### Functions of a history -/

def textAfter (es : List Event) : Text := ((latest? Event.text? es).map Prod.snd).getD []

def verboseAfter (es : List Event) : Bool := ((latest? Event.verbose? es).map Prod.snd).getD false

/-- What the machine holds, apart from its verbosity. A play runs the text of its own time. -/
def machineAfter (es : List Event) : Machine :=
  match latest? Event.drive? es with
  | some (before, .play) => Machine.run {} (textAfter before)
  | some (_, .run code) => Machine.run {} code
  | some (_, .reset) | none => {}

def machineVerboseAfter (es : List Event) : Bool :=
  ((latest? Event.prepares? es).map fun (before, _) => verboseAfter before).getD false

section

variable (es : List Event) (ev : Event)

theorem textAfter_concat : textAfter (es ++ [ev]) = ev.text?.getD (textAfter es) := by
  rw [textAfter, latest?_concat]
  cases ev.text? <;> simp [textAfter]

theorem verboseAfter_concat :
    verboseAfter (es ++ [ev]) = ev.verbose?.getD (verboseAfter es) := by
  rw [verboseAfter, latest?_concat]
  cases ev.verbose? <;> simp [verboseAfter]

theorem machineAfter_concat :
    machineAfter (es ++ [ev]) =
      match ev.drive? with
      | some .play => Machine.run {} (textAfter es)
      | some (.run code) => Machine.run {} code
      | some .reset => {}
      | none => machineAfter es := by
  rw [machineAfter, latest?_concat]
  rcases ev.drive? with _ | _ | _ | code <;> simp [machineAfter]

theorem machineVerboseAfter_concat :
    machineVerboseAfter (es ++ [ev]) =
      (ev.prepares?.map fun _ => verboseAfter es).getD (machineVerboseAfter es) := by
  rw [machineVerboseAfter, latest?_concat]
  cases ev.prepares? <;> simp [machineVerboseAfter]

end

/-! ### One event -/

/-- What an event does to an emulator. -/
def undergo (e : Emulator) : Event → Emulator
  | .textSet text | .loaded (.ok text) => e.setText text
  | .driven .play => e.play.1
  | .driven .reset => e.reset.1
  | .driven (.run code) => (e.runCode code).1
  | .verboseSet on => { e with verbose := on }
  | .loaded (.error _) | .saved _ | .looked => e

section

variable (e : Emulator) (ev : Event)

theorem text_undergo : (e.undergo ev).text = ev.text?.getD e.text := by
  rcases ev with _ | (_ | _) | _ | (_ | _ | _) | _ | _ <;> rfl

theorem runs_undergo : (e.undergo ev).runs = e.runs + [ev].countP Event.isPlay := by
  rcases ev with _ | (_ | _) | _ | (_ | _ | _) | _ | _ <;> rfl

theorem verbose_undergo : (e.undergo ev).verbose = ev.verbose?.getD e.verbose := by
  rcases ev with _ | (_ | _) | _ | (_ | _ | _) | _ | _ <;> rfl

/-- A play and a reset take the verbosity of the emulator, a run keeps that of the machine. -/
theorem machine_undergo :
    (e.undergo ev).machine =
      match ev.drive? with
      | some .play => (Machine.run {} e.text).withVerbose e.verbose
      | some (.run code) => (Machine.run {} code).withVerbose e.machine.verbose
      | some .reset => Machine.withVerbose e.verbose {}
      | none => e.machine := by
  rcases ev with _ | (_ | _) | _ | (_ | _ | code) | _ | _
  case driven.play => exact Machine.run_eq_withVerbose e.preparedMachine {} e.text
  case driven.run => exact Machine.run_eq_withVerbose e.machine {} code
  all_goals rfl

end

/-! ### Operations -/

/-- The emulator is what the history makes of a new one. -/
structure Follows (e : Emulator) (es : List Event) : Prop where
  text : e.text = textAfter es
  runs : e.runs = es.countP Event.isPlay
  verbose : e.verbose = verboseAfter es
  machine : e.machine = (machineAfter es).withVerbose (machineVerboseAfter es)

theorem Follows.undergo {e : Emulator} {es : List Event} (h : e.Follows es) (ev : Event) :
    (e.undergo ev).Follows (es ++ [ev]) where
  text := by rw [text_undergo, textAfter_concat, h.text]
  runs := by rw [runs_undergo, List.countP_append, h.runs]
  verbose := by rw [verbose_undergo, verboseAfter_concat, h.verbose]
  machine := by
    rw [machine_undergo, machineAfter_concat, machineVerboseAfter_concat, h.text, h.verbose,
      h.machine]
    rcases ev with _ | _ | _ | (_ | _ | _) | _ | _ <;> rfl

/-- What can be done with an emulator. Documents are loaded from folders of type `δ` and saved to
folders of type `δ'`. -/
inductive Operation (δ δ' : Type) where
  | setText (text : Text)
  | load (d : δ) (name : Text)
  | save (d : δ') (name : Text)
  | play
  | reset
  | runCode (code : Text)
  | setVerbose (on : Bool)
  | text
  | panel
  | snapshot

section

variable {δ δ' φ σ : Type} (shelf : Shelf δ (StateM σ)) (store : Store δ' φ (StateM σ))

/-- Perform an operation, and tell what has happened. What a load has found is asked of the document
itself, as it was before the load. -/
def perform (e : Emulator) : Operation δ δ' → StateM σ (Emulator × Event)
  | .setText text => return (e.setText text, .textSet text)
  | .load d name => do
    let (found, _) := (Document.load shelf d name).run.run (← get)
    let (after, _, _) ← e.load shelf d name
    return (after, .loaded found)
  | .save d name => do
    let (r, _) ← e.save store d name
    return (e, .saved r)
  | .play => return (e.play.1, .driven .play)
  | .reset => return (e.reset.1, .driven .reset)
  | .runCode code => return ((e.runCode code).1, .driven (.run code))
  | .setVerbose on => return ({ e with verbose := on }, .verboseSet on)
  | .text | .panel | .snapshot => return (e, .looked)

/-- Perform operations one after the other. -/
def performAll (e : Emulator) : List (Operation δ δ') → StateM σ (Emulator × List Event)
  | [] => return (e, [])
  | op :: ops => do
    let (e, ev) ← perform shelf store e op
    let (e, evs) ← performAll e ops
    return (e, ev :: evs)

theorem run_load (e : Emulator) (d : δ) (name : Text) (files : σ) :
    ((e.load shelf d name).run files).1.1 =
      e.undergo (.loaded ((Document.load shelf d name).run.run files).1) := by
  rw [load, StateT.run_bind]
  rcases (Document.load shelf d name).run.run files with ⟨_ | text, after⟩ <;> rfl

/-- An operation does what its event tells. -/
theorem emulator_perform (e : Emulator) (op : Operation δ δ') (files : σ) :
    ((perform shelf store e op).run files).1.1 =
      e.undergo ((perform shelf store e op).run files).1.2 := by
  cases op with
  | load d name => exact run_load shelf e d name files
  | _ => rfl

theorem Follows.performAll {e : Emulator} {es : List Event} (h : e.Follows es)
    (ops : List (Operation δ δ')) (files : σ) :
    ((performAll shelf store e ops).run files).1.1.Follows
      (es ++ ((performAll shelf store e ops).run files).1.2) := by
  induction ops generalizing e es files with
  | nil =>
      rw [← List.append_nil es] at h
      exact h
  | cons op ops ih =>
      -- The history grows by the event of the first operation, and the others go on from there.
      have hfirst := h.undergo ((perform shelf store e op).run files).1.2
      rw [← emulator_perform] at hfirst
      have hrest := ih hfirst ((perform shelf store e op).run files).2
      rw [List.append_assoc] at hrest
      exact hrest

end

end Emulator

end LineMachine
