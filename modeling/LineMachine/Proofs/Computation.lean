/-!
# Computations that may fail

A value of type `Except ε α` is a result or an error. A compound value is a result if and only if all
its parts are.

A computation of type `ExceptT ε (StateM σ) α` changes a state, also when it fails. Its run from a
state is a pair of its result and the state after it. The run of a compound computation follows from
the runs of its parts: one lemma for a part that succeeds and one for a part that fails. `recording`
is the same computation beside a list, in which it writes down what it has done.
-/

namespace LineMachine

/-! ### Results and errors -/

section

variable {ε α β : Type}

theorem ok_bind (a : α) (f : α → Except ε β) : (Except.ok a >>= f) = f a := rfl

theorem bind_eq_ok_iff {x : Except ε α} {f : α → Except ε β} {b : β} :
    x >>= f = .ok b ↔ ∃ a, x = .ok a ∧ f a = .ok b := by
  cases x with
  | error e => simp [bind, Except.bind]
  | ok a => simp [bind, Except.bind]

theorem pure_eq_ok_iff {a b : α} : (pure a : Except ε α) = .ok b ↔ b = a := by
  simp [pure, Except.pure, eq_comm]

theorem ite_throw_eq_ok_iff {c : Prop} [Decidable c] {e : ε} {f : α → Except ε β}
    {x : Except ε β} {b : β} : (if c then throw e >>= f else x) = .ok b ↔ ¬c ∧ x = .ok b := by
  by_cases hc : c <;> simp [hc, throw, throwThe, MonadExceptOf.throw, bind, Except.bind]

end

/-! ### Runs -/

variable {ε σ α β : Type} {x : ExceptT ε (StateM σ) α} {before between : σ}

/-- An operation that succeeds hands its result and the state on. -/
theorem run_bind_of_eq_ok {a : α} (h : x.run.run before = (.ok a, between))
    (f : α → ExceptT ε (StateM σ) β) : (x >>= f).run.run before = (f a).run.run between := by
  rw [ExceptT.run_bind, StateT.run_bind, h]
  rfl

/-- An operation that fails is the last one. -/
theorem run_bind_of_eq_error {e : ε} (h : x.run.run before = (.error e, between))
    (f : α → ExceptT ε (StateM σ) β) : (x >>= f).run.run before = (.error e, between) := by
  rw [ExceptT.run_bind, StateT.run_bind, h]
  rfl

theorem run_tryCatch_of_eq_ok {a : α} (h : x.run.run before = (.ok a, between))
    (f : ε → ExceptT ε (StateM σ) α) : (tryCatch x f).run.run before = (.ok a, between) := by
  rw [ExceptT.run_tryCatch, StateT.run_bind, h]
  rfl

theorem run_tryCatch_of_eq_error {e : ε} (h : x.run.run before = (.error e, between))
    (f : ε → ExceptT ε (StateM σ) α) :
    (tryCatch x f).run.run before = (f e).run.run between := by
  rw [ExceptT.run_tryCatch, StateT.run_bind, h]
  rfl

/-! ### Recorded runs -/

section

variable {ν : Type}

/-- Do the same and write down what there is to note of the result, behind the notes so far. -/
def recording (x : ExceptT ε (StateM σ) α) (notes : Except ε α → List ν) :
    ExceptT ε (StateM (σ × List ν)) α :=
  ExceptT.mk fun (state, noted) =>
    let (r, after) := x.run.run state
    (r, after, noted ++ notes r)

theorem run_recording {r : Except ε α} {after : σ} (h : x.run.run before = (r, after))
    (notes : Except ε α → List ν) (noted : List ν) :
    (recording x notes).run.run (before, noted) = (r, after, noted ++ notes r) := by
  have hrun : (recording x notes).run.run (before, noted) =
      ((x.run.run before).1, (x.run.run before).2, noted ++ notes (x.run.run before).1) := rfl
  rw [hrun, h]

/-- What has been written down after a recorded run. -/
theorem noted_of_run_recording (notes : Except ε α → List ν) {start after : σ × List ν}
    {r : Except ε α} (h : (recording x notes).run.run start = (r, after)) :
    after.2 = start.2 ++ notes r := by
  obtain ⟨state, noted⟩ := start
  rw [run_recording (Prod.eta (x.run.run state)).symm] at h
  obtain ⟨rfl, rfl⟩ := Prod.mk.inj h
  rfl

end

end LineMachine
