import LineMachine.Lesson.Session
import LineMachine.Proofs.Computation
import Mathlib.Data.List.Forall2

/-!
# What the calls of lessons bring about

A lesson reaches the emulator and the counts of its session by its calls only. `Dialogue.calls`
lists the calls that a dialogue makes, each with the world it is made in. What they bring about can
be told from the arguments: `Call.isCheck` and `Call.isFailedCheck` say what is counted, and
`Call.act` says what is done to the emulator.

`Answered s cs s'` says that a session has changed by just what the calls bring about. This holds
for one call, because accepted arguments fit the parameters of the function
(`Slot.takes_of_unpack`). It is then carried from calls to dialogues, from dialogues to lessons and
from lessons to sequences of them.
-/

namespace LineMachine.Lesson

/-! ### Arguments -/

namespace Slot

/-- A parameter has a value of its type, or none. -/
def Fits (s : Slot) (v : Option Value) : Prop := ∀ x ∈ v, s.isText = true → ∃ t, x = .string t

/-- Parameters of a list have been filled with values that fit. -/
def Filled : List Slot → List (Slot × Option Value) → Prop :=
  List.Forall₂ fun s p => p.1 = s ∧ s.Fits p.2

theorem fits_of_accept {f label : Text} {s : Slot} {v : Value} (h : s.accept f label v = .ok ()) :
    s.Fits (some v) := by
  rintro x ⟨⟩ htext
  cases v with
  | string t => exact ⟨t, rfl⟩
  | _ => simp [accept, htext] at h

theorem filled_fill {f : Text} {slots : List Slot} {args : List Value}
    {filled : List (Slot × Option Value)} (h : fill f slots args = .ok filled) :
    Filled slots filled := by
  induction slots generalizing args filled with
  | nil =>
      rw [fill, Except.ok.injEq] at h
      exact h ▸ .nil
  | cons s slots ih =>
      cases args with
      | nil =>
          obtain ⟨rest, hrest, hfilled⟩ := bind_eq_ok_iff.mp h
          exact Except.ok.inj hfilled ▸ .cons ⟨rfl, nofun⟩ (ih hrest)
      | cons v args =>
          obtain ⟨⟨⟩, haccept, h⟩ := bind_eq_ok_iff.mp h
          obtain ⟨rest, hrest, hfilled⟩ := bind_eq_ok_iff.mp h
          exact Except.ok.inj hfilled ▸ .cons ⟨rfl, fits_of_accept haccept⟩ (ih hrest)

theorem Filled.put {f x : Text} {v : Value} {slots : List Slot}
    {filled filled' : List (Slot × Option Value)} (h : Filled slots filled)
    (hput : put f x v filled = .ok (some filled')) : Filled slots filled' := by
  induction h generalizing filled' with
  | nil => cases hput
  | @cons s p slots filled hp hrest ih =>
      obtain ⟨s, former⟩ := p
      obtain ⟨rfl, hfits⟩ := hp
      rw [Slot.put] at hput
      by_cases hname : s.name = x
      · rw [if_pos hname, ite_throw_eq_ok_iff] at hput
        obtain ⟨-, hput⟩ := hput
        obtain ⟨⟨⟩, haccept, hput⟩ := bind_eq_ok_iff.mp hput
        obtain rfl := Option.some.inj (Except.ok.inj hput)
        exact .cons ⟨rfl, fits_of_accept haccept⟩ hrest
      · rw [if_neg hname] at hput
        obtain ⟨found, hfound, hput⟩ := bind_eq_ok_iff.mp hput
        obtain ⟨rest, rfl, rfl⟩ := Option.map_eq_some_iff.mp (Except.ok.inj hput)
        exact .cons ⟨rfl, hfits⟩ (ih hfound)

theorem Filled.fillNamed {f : Text} {slots : List Slot} {named : List (Text × Value)}
    {filled filled' : List (Slot × Option Value)} (h : Filled slots filled)
    (hfill : fillNamed f filled named = .ok filled') : Filled slots filled' := by
  induction named generalizing filled with
  | nil => exact Except.ok.inj hfill ▸ h
  | cons p named ih =>
      obtain ⟨x, v⟩ := p
      obtain ⟨found, hput, hrest⟩ := bind_eq_ok_iff.mp hfill
      cases found with
      | none => cases hrest
      | some filled => exact ih (h.put hput) hrest

/-- The parameter may have the value in an accepted call. -/
def Takes (s : Slot) (v : Option Value) : Prop := s.Fits v ∧ (v = none → s.isOptional = true)

theorem Filled.takes {slots : List Slot} {filled : List (Slot × Option Value)}
    (h : Filled slots filled) (hneeded : ∀ p ∈ filled, p.2 = none → p.1.isOptional = true) :
    List.Forall₂ Takes slots (filled.map Prod.snd) := by
  induction h with
  | nil => exact .nil
  | @cons s p slots filled hp _ ih =>
      obtain ⟨rfl, hfits⟩ := hp
      exact .cons ⟨hfits, hneeded p (.head _)⟩ (ih fun q hq => hneeded q (.tail _ hq))

theorem takes_of_unpack {f : Text} {slots : List Slot} {args : List Value}
    {named : List (Text × Value)} {vs : List (Option Value)}
    (h : unpack f slots args named = .ok vs) : List.Forall₂ Takes slots vs := by
  rw [unpack, ite_throw_eq_ok_iff] at h
  obtain ⟨filled, hfill, hrest⟩ := bind_eq_ok_iff.mp h.2
  obtain ⟨filled', hnamed, hvalues⟩ := bind_eq_ok_iff.mp hrest
  cases hmissing : filled'.find? fun s => !s.1.isOptional && s.2.isNone with
  | some s =>
      rw [hmissing] at hvalues
      cases hvalues
  | none =>
      rw [hmissing] at hvalues
      rw [← Except.ok.inj hvalues]
      apply ((filled_fill hfill).fillNamed hnamed).takes
      intro p hp hnone
      simpa [hnone] using List.find?_eq_none.mp hmissing p hp

end Slot

namespace Call

/-! ### What a call brings about -/

/-- The call is a check, and its arguments are accepted. -/
def isCheck (c : Call) : Bool := c.function = .check && c.arguments.isOk

/-- The call is an accepted check whose condition is false in the world. -/
def isFailedCheck (c : Call) (w : World) : Bool :=
  match c.function, c.arguments with
  | .check, .ok (some v :: _) => !w.truth v
  | _, _ => false

/-- What the call does to an emulator: an accepted `run` sets the text and plays it. -/
def act (c : Call) (e : Emulator) : Emulator :=
  match c.function, c.arguments with
  | .run, .ok (some (.string code) :: _) => (e.setText code).play.1
  | .play, .ok _ => e.play.1
  | .reset, .ok _ => e.reset.1
  | _, _ => e

theorem arguments_run {c : Call} {vs : List (Option Value)} (hc : c.function = .run)
    (h : c.arguments = .ok vs) : ∃ code, vs = [some (.string code)] := by
  have htakes := Slot.takes_of_unpack h
  rw [hc] at htakes
  obtain _ | ⟨⟨hfits, hneeded⟩, _ | _⟩ := htakes
  rename_i v
  cases v with
  | none => cases hneeded rfl
  | some x =>
      obtain ⟨code, rfl⟩ := hfits x rfl rfl
      exact ⟨code, rfl⟩

theorem arguments_check {c : Call} {vs : List (Option Value)} (hc : c.function = .check)
    (h : c.arguments = .ok vs) : ∃ v m, vs = [some v, m] := by
  have htakes := Slot.takes_of_unpack h
  rw [hc] at htakes
  obtain _ | ⟨⟨-, hneeded⟩, _ | ⟨-, _ | _⟩⟩ := htakes
  rename_i v m
  cases v with
  | none => cases hneeded rfl
  | some x => exact ⟨x, m, rfl⟩

theorem isCheck_of_isFailedCheck {c : Call} {w : World} (h : c.isFailedCheck w = true) :
    c.isCheck = true := by
  rw [isFailedCheck] at h
  split at h
  · next hf ha => simp [isCheck, hf, ha, Except.isOk, Except.toBool]
  · cases h

end Call

/-- The function may change the emulator or the counts. -/
def Builtin.acts : Builtin → Bool
  | .run | .play | .reset | .check => true
  | _ => false

/-- The request leaves the emulator and the counts alone. -/
def Request.isQuiet : Request → Bool
  | .register _ | .zx | .log | .print _ | .value _ => true
  | _ => false

theorem Call.isQuiet_of_request {c : Call} {w : World} {r : Request}
    (hc : c.function.acts = false) (h : c.request w = .ok r) : r.isQuiet = true := by
  rw [Call.request] at h
  cases hf : c.function <;> rw [hf] at hc h
  case run | play | reset | check => cases hc
  case register =>
    obtain ⟨vs, -, h⟩ := bind_eq_ok_iff.mp h
    cases hr : Register.ofName? (textOf vs[0]?) with
    | none =>
        simp only [hr] at h
        cases h
    | some r =>
        simp only [hr] at h
        cases h
        rfl
  all_goals
    obtain ⟨v, -, h⟩ := bind_eq_ok_iff.mp h
    cases h
    rfl

theorem Call.request_of_arguments_error {c : Call} {e : EvalError} (hc : c.function.acts = true)
    (h : c.arguments = .error e) (w : World) : c.request w = .error e := by
  rw [Call.request, h]
  cases hf : c.function <;> rw [hf] at hc
  case run | play | reset | check => rfl
  all_goals cases hc

/-! ### Sessions -/

/-- A session has changed by what calls bring about. -/
structure Answered (s : Session) (cs : List (Call × World)) (s' : Session) : Prop where
  checks : s'.checks = s.checks + cs.countP fun c => c.1.isCheck
  failed : s'.failed = s.failed + cs.countP fun c => c.1.isFailedCheck c.2
  emulator : s'.emulator = cs.foldl (fun e c => c.1.act e) s.emulator

namespace Answered

variable {s s' s'' : Session} {c : Call} {w : World} {cs cs' : List (Call × World)}

theorem refl (s : Session) : Answered s [] s := ⟨rfl, rfl, rfl⟩

theorem append (h : Answered s cs s') (h' : Answered s' cs' s'') : Answered s (cs ++ cs') s'' where
  checks := by rw [h'.checks, h.checks, List.countP_append, Nat.add_assoc]
  failed := by rw [h'.failed, h.failed, List.countP_append, Nat.add_assoc]
  emulator := by rw [h'.emulator, h.emulator, List.foldl_append]

/-- A call of another function and a call with wrong arguments bring nothing about. -/
theorem of_idle (hidle : c.function.acts = false ∨ ∃ e, c.arguments = .error e)
    (hchecks : s'.checks = s.checks) (hfailed : s'.failed = s.failed)
    (hemulator : s'.emulator = s.emulator) : Answered s [(c, w)] s' := by
  have hcall : c.isCheck = false ∧ c.isFailedCheck w = false ∧ c.act s.emulator = s.emulator := by
    rcases hidle with hc | ⟨e, h⟩
    · cases hf : c.function <;> rw [hf] at hc
      case run | play | reset | check => cases hc
      all_goals simp [Call.isCheck, Call.isFailedCheck, Call.act, hf]
    · simp [Call.isCheck, Call.isFailedCheck, Call.act, h, Except.isOk, Except.toBool]
  obtain ⟨hcheck, hfail, hact⟩ := hcall
  exact ⟨by simp [hchecks, hcheck], by simp [hfailed, hfail], by simp [hemulator, hact]⟩

end Answered

theorem Session.answer_of_error {c : Call} {w : World} {e : EvalError} (h : c.request w = .error e)
    (s : Session) : s.answer c w = (.error e, s) := by
  rw [Session.answer, h]

theorem Session.answer_of_ok {c : Call} {w : World} {r : Request} (h : c.request w = .ok r)
    (s : Session) :
    s.answer c w = (.ok (r.result w (s.perform r).emulator.machine), s.perform r) := by
  rw [Session.answer, h]

theorem Session.perform_of_isQuiet {r : Request} (h : r.isQuiet = true) (s : Session) :
    (s.perform r).checks = s.checks ∧ (s.perform r).failed = s.failed ∧
      (s.perform r).emulator = s.emulator := by
  cases r
  case run | play | reset | check => cases h
  all_goals exact ⟨rfl, rfl, rfl⟩

/-- An accepted call of an acting function brings about what its arguments say. -/
theorem answered_perform {c : Call} {vs : List (Option Value)} (hc : c.function.acts = true)
    (ha : c.arguments = .ok vs) (s : Session) (w : World) :
    ∃ r, c.request w = .ok r ∧ Answered s [(c, w)] (s.perform r) := by
  cases hf : c.function <;> rw [hf] at hc
  case run =>
    obtain ⟨code, rfl⟩ := Call.arguments_run hf ha
    refine ⟨.run code c.place, by rw [Call.request, ha, hf]; rfl, ?_⟩
    constructor <;>
      simp [Call.isCheck, Call.isFailedCheck, Call.act, hf, ha, Session.perform, Session.play]
  case play =>
    refine ⟨.play c.place, by rw [Call.request, ha, hf]; rfl, ?_⟩
    constructor <;>
      simp [Call.isCheck, Call.isFailedCheck, Call.act, hf, ha, Session.perform, Session.play]
  case reset =>
    refine ⟨.reset, by rw [Call.request, ha, hf]; rfl, ?_⟩
    constructor <;>
      simp [Call.isCheck, Call.isFailedCheck, Call.act, hf, ha, Session.perform]
  case check =>
    obtain ⟨v, m, rfl⟩ := Call.arguments_check hf ha
    refine ⟨.check (w.truth v) (textOf (some m)) c.place, by rw [Call.request, ha, hf]; rfl, ?_⟩
    cases htruth : w.truth v <;> constructor <;>
      simp [Call.isCheck, Call.isFailedCheck, Call.act, hf, ha, Session.perform, htruth,
        Except.isOk, Except.toBool]
  all_goals cases hc

theorem answered_answer (s : Session) (c : Call) (w : World) :
    Answered s [(c, w)] (s.answer c w).2 := by
  by_cases hacts : c.function.acts = true
  · cases ha : c.arguments with
    | error e =>
        rw [Session.answer_of_error (Call.request_of_arguments_error hacts ha w)]
        exact .of_idle (.inr ⟨e, ha⟩) rfl rfl rfl
    | ok vs =>
        obtain ⟨r, hr, hperform⟩ := answered_perform hacts ha s w
        rwa [Session.answer_of_ok hr]
  · rw [Bool.not_eq_true] at hacts
    cases hr : c.request w with
    | error e =>
        rw [Session.answer_of_error hr]
        exact .of_idle (.inl hacts) rfl rfl rfl
    | ok r =>
        obtain ⟨hchecks, hfailed, hemulator⟩ :=
          s.perform_of_isQuiet (Call.isQuiet_of_request hacts hr)
        rw [Session.answer_of_ok hr]
        exact .of_idle (.inl hacts) hchecks hfailed hemulator

/-! ### Dialogues -/

section

variable {α : Type}

/-- The calls that a dialogue with a session makes, each with the world it is made in. -/
def Dialogue.calls : Dialogue α → Session → List (Call × World)
  | .done _, _ | .fail _, _ => []
  | .call c w next, s =>
    (c, w) ::
      match s.answer c w with
      | (.ok v, s) => (next v).calls s
      | (.error _, _) => []

theorem answered_hold (d : Dialogue α) (s : Session) : Answered s (d.calls s) (d.hold s).2 := by
  induction d generalizing s with
  | done a => exact .refl s
  | fail e => exact .refl s
  | call c w next ih =>
      have hcall := answered_answer s c w
      rw [Dialogue.hold, Dialogue.calls]
      generalize s.answer c w = answer at hcall ⊢
      rcases answer with ⟨e | v, s'⟩
      · exact hcall
      · exact hcall.append (ih v s')

/-- A call that is refused is the last one, and the dialogue ends with its error. -/
theorem hold_of_refused {d : Dialogue α} {s : Session} {before after : List (Call × World)}
    {c : Call} {w : World} {e : EvalError} (hcalls : d.calls s = before ++ (c, w) :: after)
    (hc : c.request w = .error e) : after = [] ∧ (d.hold s).1 = .error e := by
  induction d generalizing s before with
  | done a => simp [Dialogue.calls] at hcalls
  | fail e => simp [Dialogue.calls] at hcalls
  | call c' w' next ih =>
      rw [Dialogue.calls] at hcalls
      rw [Dialogue.hold]
      cases before with
      | nil =>
          obtain ⟨⟨rfl, rfl⟩, hafter⟩ := by simpa using hcalls
          rw [Session.answer_of_error hc] at hafter ⊢
          exact ⟨hafter.symm, rfl⟩
      | cons first before =>
          obtain ⟨-, hrest⟩ := List.cons.inj hcalls
          rcases hanswer : s.answer c' w' with ⟨e' | v, s'⟩
          · simp [hanswer] at hrest
          · rw [hanswer] at hrest
            exact ih v hrest

end

namespace Session

variable (s : Session) (file source : Text)

/-- The session at the start of a lesson. -/
def cleared : Session := { s with output := #[], told := #[] }

/-- How the evaluation of a lesson ends, before its checks are looked at. -/
def evaluated : Except LessonError Unit := (s.cleared.evaluate file source).1

/-- The calls that a lesson makes. One that is no lesson or may not run makes none. -/
def calls : List (Call × World) :=
  match dialogue file source with
  | .error _ => []
  | .ok d => d.calls s.cleared

/-- The session after lessons. -/
def executeAll (lessons : List (Text × Text)) : Session :=
  lessons.foldl (fun s l => (s.execute l.1 l.2).2) s

/-- The calls that lessons make one after the other. -/
def callsAll (s : Session) : List (Text × Text) → List (Call × World)
  | [] => []
  | l :: lessons => s.calls l.1 l.2 ++ (s.execute l.1 l.2).2.callsAll lessons

theorem answered_execute : Answered s (s.calls file source) (s.execute file source).2 := by
  have hcleared : Answered s [] s.cleared := ⟨rfl, rfl, rfl⟩
  change Answered s _ (s.cleared.evaluate file source).2
  rw [calls, evaluate]
  cases dialogue file source with
  | error e => exact hcleared
  | ok d => exact hcleared.append (answered_hold d s.cleared)

theorem answered_executeAll (lessons : List (Text × Text)) :
    Answered s (s.callsAll lessons) (s.executeAll lessons) := by
  induction lessons generalizing s with
  | nil => exact .refl s
  | cons l lessons ih => exact (s.answered_execute l.1 l.2).append (ih _)

theorem evaluated_of_refused {before after : List (Call × World)} {c : Call} {w : World}
    {e : EvalError} (hcalls : s.calls file source = before ++ (c, w) :: after)
    (hc : c.request w = .error e) : after = [] ∧ s.evaluated file source = .error (.eval e) := by
  rw [calls] at hcalls
  rw [evaluated, evaluate]
  cases hd : dialogue file source with
  | error e =>
      rw [hd] at hcalls
      simp at hcalls
  | ok d =>
      rw [hd] at hcalls
      obtain ⟨hafter, hhold⟩ := hold_of_refused hcalls hc
      exact ⟨hafter, by simp [hhold, Except.mapError]⟩

end Session

/-- The checks of a session are counted, and its emulator is driven, by the accepted calls of its
lessons and by nothing else, whether or not a lesson ends well. The two counts add up over lessons.
A lesson ends with the error of its evaluation, or else with the counts if a check of the session
has failed, or else well. A refused call is the last one of its lesson. -/
theorem execute_counts_accepted_calls (verbose : Bool) (e : Emulator) (lessons : List (Text × Text))
    (file source : Text) :
    let start : Session := { verbose, emulator := e }
    let s := start.executeAll lessons
    let cs := start.callsAll lessons ++ s.calls file source
    let (r, s') := s.execute file source
    (s'.checks = cs.countP (fun c => c.1.isCheck) ∧
      s'.failed = cs.countP (fun c => c.1.isFailedCheck c.2) ∧
      s'.emulator = cs.foldl (fun e c => c.1.act e) e) ∧
    (s'.failed ≤ s'.checks ∧ s.checks ≤ s'.checks ∧ s.failed ≤ s'.failed) ∧
    (∀ err, s.evaluated file source = .error err → r = .error err) ∧
    (s.evaluated file source = .ok () →
      r = if 0 < s'.failed then .error (.checks s'.failed s'.checks) else .ok ()) ∧
    ∀ before c w after err, s.calls file source = before ++ (c, w) :: after →
      c.request w = .error err → after = [] ∧ s.evaluated file source = .error (.eval err) := by
  intro start s cs
  have hbefore : Answered start (start.callsAll lessons) s := start.answered_executeAll lessons
  have hlast := s.answered_execute file source
  have hall := hbefore.append hlast
  have hverdict : (s.execute file source).1 =
      (s.execute file source).2.verdict (s.evaluated file source) := rfl
  generalize s.execute file source = executed at hlast hall hverdict ⊢
  obtain ⟨r, s'⟩ := executed
  obtain ⟨hchecks, hfailed, hemulator⟩ := hall
  have hchecks : s'.checks = cs.countP fun c => c.1.isCheck := hchecks.trans (Nat.zero_add _)
  have hfailed : s'.failed = cs.countP fun c => c.1.isFailedCheck c.2 :=
    hfailed.trans (Nat.zero_add _)
  refine ⟨⟨hchecks, hfailed, hemulator⟩, ⟨?_, ?_, ?_⟩, fun err h => ?_, fun h => ?_,
    fun before c w after err => s.evaluated_of_refused file source⟩
  · rw [hchecks, hfailed]
    exact List.countP_mono_left fun c _ => Call.isCheck_of_isFailedCheck
  · exact hlast.checks ▸ Nat.le_add_right _ _
  · exact hlast.failed ▸ Nat.le_add_right _ _
  · rw [h] at hverdict
    exact hverdict
  · rw [h] at hverdict
    exact hverdict

end LineMachine.Lesson
