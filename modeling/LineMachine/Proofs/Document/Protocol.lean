import LineMachine.Document
import LineMachine.Proofs.Computation
import LineMachine.Proofs.File.Path

/-!
# The calls of a save

A store may be anything: its folders, its handles and its state are arbitrary types, and each call
may succeed or fail as it likes. What can be said of saving on all stores alike is which calls it
makes, on which folder or handle, and what it makes of their answers. An `Event` is a call together
with its answer. `Performed` says that a list of events is what happens on a store from one state to
another, and `recorded` is a store that also writes down its events.

`Entering`, `EnteringAll`, `Filing` and `Saving` are the protocol, one relation for each function
that takes part in a save: they list the events that there may be together with the result. Which
case applies is decided by the answers alone.
-/

namespace LineMachine

namespace Document

/-- A call on a store and its answer. -/
inductive Event (δ φ : Type) where
  | enter (folder : δ) (name : Text) (answer : Except FileError δ)
  | makeFolder (folder : δ) (name : Text) (mode : Nat) (answer : Except FileError Unit)
  | create (folder : δ) (name : Text) (answer : Except FileError φ)
  | write (file : φ) (data : Text) (answer : Except FileError Unit)
  | close (file : φ) (answer : Except FileError Unit)

variable {δ φ σ α β : Type}

namespace Event

/-- The store answers the call in this way, and its state changes as told. -/
def Happens (s : Store δ φ (StateM σ)) (before after : σ) : Event δ φ → Prop
  | enter d name r => (s.enter d name).run.run before = (r, after)
  | makeFolder d name mode r => (s.makeFolder d name mode).run.run before = (r, after)
  | create d name r => (s.create d name).run.run before = (r, after)
  | write file data r => (s.write file data).run.run before = (r, after)
  | close file r => (s.close file).run.run before = (r, after)

def Succeeds : Event δ φ → Prop
  | enter _ _ (.ok _) | makeFolder _ _ _ (.ok _) | create _ _ (.ok _) | write _ _ (.ok _)
  | close _ (.ok _) => True
  | _ => False

/-- The call asked for a folder that is missing. -/
def Misses : Event δ φ → Prop
  | enter _ _ (.error e) => e.isMissing = true
  | _ => False

/-- The call was to make a folder. -/
def isMaking : Event δ φ → Bool
  | makeFolder .. => true
  | _ => false

end Event

/-- Every call succeeded, apart from those that missed a folder which had not just been made. -/
def Faultless (made : Bool) : List (Event δ φ) → Prop
  | [] => True
  | e :: es => (e.Succeeds ∨ e.Misses ∧ made = false) ∧ Faultless e.isMaking es

/-- The events happen on a store one after the other. -/
inductive Performed (s : Store δ φ (StateM σ)) : σ → List (Event δ φ) → σ → Prop where
  | nil (state : σ) : Performed s state [] state
  | cons {before between after : σ} {e : Event δ φ} {es : List (Event δ φ)} :
      e.Happens s before between → Performed s between es after → Performed s before (e :: es) after

theorem Performed.append {s : Store δ φ (StateM σ)} {before between after : σ}
    {es es' : List (Event δ φ)} (h : Performed s before es between)
    (h' : Performed s between es' after) : Performed s before (es ++ es') after := by
  induction h with
  | nil => exact h'
  | cons hhead _ ih => exact .cons hhead (ih h')

theorem performed_append_iff {s : Store δ φ (StateM σ)} {before after : σ}
    {es es' : List (Event δ φ)} : Performed s before (es ++ es') after ↔
      ∃ between, Performed s before es between ∧ Performed s between es' after := by
  constructor
  · intro h
    induction es generalizing before with
    | nil => exact ⟨before, .nil before, h⟩
    | cons e es ih =>
        cases h with
        | cons hhead htail =>
            obtain ⟨between, hleft, hright⟩ := ih htail
            exact ⟨between, .cons hhead hleft, hright⟩
  · rintro ⟨between, hleft, hright⟩
    exact hleft.append hright

/-! ### The protocol -/

/-- Entering one folder. A missing one is made and entered again. -/
inductive Entering (d : δ) (name : Text) : List (Event δ φ) → Except FileError δ → Prop where
  | atOnce (sub : δ) : Entering d name [.enter d name (.ok sub)] (.ok sub)
  | refused {e : FileError} (h : e.isMissing = false) :
      Entering d name [.enter d name (.error e)] (.error e)
  | notMade {e : FileError} (h : e.isMissing = true) (e' : FileError) :
      Entering d name [.enter d name (.error e), .makeFolder d name 0o755 (.error e')] (.error e')
  | made {e : FileError} (h : e.isMissing = true) (r : Except FileError δ) :
      Entering d name
        [.enter d name (.error e), .makeFolder d name 0o755 (.ok ()), .enter d name r] r

/-- Entering folders one after the other, each in the one before. -/
inductive EnteringAll : δ → List Text → List (Event δ φ) → Except FileError δ → Prop where
  | nil (d : δ) : EnteringAll d [] [] (.ok d)
  | stop {d : δ} {name : Text} {names : List Text} {es : List (Event δ φ)} {e : FileError} :
      Entering d name es (.error e) → EnteringAll d (name :: names) es (.error e)
  | next {d d' : δ} {name : Text} {names : List Text} {es es' : List (Event δ φ)}
      {r : Except FileError δ} : Entering d name es (.ok d') → EnteringAll d' names es' r →
      EnteringAll d (name :: names) (es ++ es') r

/-- Creating a file, writing a text to it and closing it. It is closed after a failed write too, and
then it does not matter how the close ends. -/
inductive Filing (d : δ) (name text : Text) :
    List (Event δ φ) → Except FileError Unit → Prop where
  | notCreated (e : FileError) : Filing d name text [.create d name (.error e)] (.error e)
  | notWritten (file : φ) (e : FileError) (r : Except FileError Unit) :
      Filing d name text
        [.create d name (.ok file), .write file text (.error e), .close file r] (.error e)
  | written (file : φ) (r : Except FileError Unit) :
      Filing d name text [.create d name (.ok file), .write file text (.ok ()), .close file r] r

/-- Saving a text in a file named `base`, in the last of `folders`. -/
inductive Saving (d : δ) (folders : List Text) (base text : Text) :
    List (Event δ φ) → Except FileError Unit → Prop where
  | notEntered {es : List (Event δ φ)} {e : FileError} :
      EnteringAll d folders es (.error e) → Saving d folders base text es (.error e)
  | filed {d' : δ} {es es' : List (Event δ φ)} {r : Except FileError Unit} :
      EnteringAll d folders es (.ok d') → Filing d' base text es' r →
      Saving d folders base text (es ++ es') r

/-! ### What follows from the protocol -/

section

variable {d : δ} {name base text : Text} {names : List Text} {es : List (Event δ φ)}

theorem Entering.length_le {r : Except FileError δ} (h : Entering d name es r) :
    es.length ≤ 3 := by
  cases h <;> simp

theorem EnteringAll.length_le {r : Except FileError δ} (h : EnteringAll d names es r) :
    es.length ≤ 3 * names.length := by
  induction h with
  | nil => exact Nat.zero_le _
  | stop h =>
      have hfirst := h.length_le
      rw [List.length_cons]
      omega
  | next h _ ih =>
      have hfirst := h.length_le
      rw [List.length_append, List.length_cons]
      omega

theorem Saving.length_le {r : Except FileError Unit} (h : Saving d names base text es r) :
    es.length ≤ 3 * names.length + 3 := by
  cases h with
  | notEntered h => exact Nat.le_add_right_of_le h.length_le
  | filed h hfile =>
      rw [List.length_append]
      exact Nat.add_le_add h.length_le (by cases hfile <;> simp)

/-- After a folder has been entered, what follows is judged on its own. -/
theorem Entering.faultless_append {d' : δ} (h : Entering d name es (.ok d'))
    (es' : List (Event δ φ)) : Faultless false (es ++ es') ↔ Faultless false es' := by
  cases h with
  | atOnce => simp [Faultless, Event.Succeeds, Event.isMaking]
  | made h => simp [Faultless, Event.Succeeds, Event.Misses, Event.isMaking, h]

theorem Entering.not_faultless {e : FileError} (h : Entering d name es (.error e)) :
    ¬Faultless false es := by
  cases h with
  | refused h => simp [Faultless, Event.Succeeds, Event.Misses, h]
  | notMade h => simp [Faultless, Event.Succeeds, Event.Misses, Event.isMaking]
  | made h => simp [Faultless, Event.Succeeds, Event.Misses, Event.isMaking]

theorem EnteringAll.faultless_append {d' : δ} (h : EnteringAll d names es (.ok d'))
    (es' : List (Event δ φ)) : Faultless false (es ++ es') ↔ Faultless false es' := by
  generalize hr : Except.ok d' = r at h
  induction h with
  | nil => rfl
  | stop => cases hr
  | next hfirst _ ih => rw [List.append_assoc, hfirst.faultless_append, ih hr]

theorem EnteringAll.not_faultless {e : FileError} (h : EnteringAll d names es (.error e)) :
    ¬Faultless false es := by
  generalize hr : Except.error e = r at h
  induction h with
  | nil => cases hr
  | stop hfirst => exact hfirst.not_faultless
  | next hfirst _ ih => rw [hfirst.faultless_append]; exact ih hr

theorem Filing.faultless_iff {r : Except FileError Unit} (h : Filing d base text es r) :
    Faultless false es ↔ r = .ok () := by
  cases h with
  | notCreated => simp [Faultless, Event.Succeeds, Event.Misses]
  | notWritten => simp [Faultless, Event.Succeeds, Event.Misses, Event.isMaking]
  | written file => cases r <;> simp [Faultless, Event.Succeeds, Event.Misses, Event.isMaking]

theorem Saving.eq_ok_iff_faultless {r : Except FileError Unit}
    (h : Saving d names base text es r) : r = .ok () ↔ Faultless false es := by
  cases h with
  | notEntered h => simp [h.not_faultless]
  | filed h hfile => rw [h.faultless_append, hfile.faultless_iff]

theorem Entering.create_not_mem {r : Except FileError δ} (h : Entering d name es r) (d' : δ)
    (n : Text) (a : Except FileError φ) : Event.create d' n a ∉ es := by
  cases h <;> simp

theorem EnteringAll.create_not_mem {r : Except FileError δ} (h : EnteringAll d names es r) (d' : δ)
    (n : Text) (a : Except FileError φ) : Event.create d' n a ∉ es := by
  induction h with
  | nil => exact List.not_mem_nil
  | stop h => exact h.create_not_mem d' n a
  | next h _ ih => simp [h.create_not_mem d' n a, ih]

theorem Filing.eq_of_create {r : Except FileError Unit} {d' : δ} {file : φ}
    {earlier later : List (Event δ φ)} (h : Filing d base text es r)
    (hes : es = earlier ++ .create d' name (.ok file) :: later) :
    ∃ a a', later = [.write file text a, .close file a'] := by
  cases h with
  | notCreated e =>
      have hmem : Event.create d' name (.ok file) ∈ [Event.create d base (.error e)] := by
        simp [hes]
      simp at hmem
  | notWritten f e r | written f r =>
      cases earlier with
      | nil =>
          rw [List.nil_append, List.cons.injEq, Event.create.injEq, Except.ok.injEq] at hes
          obtain ⟨⟨-, -, rfl⟩, rfl⟩ := hes
          exact ⟨_, _, rfl⟩
      | cons first earlier =>
          rw [List.cons_append, List.cons.injEq] at hes
          have hmem := List.mem_append_right earlier
            (List.mem_cons_self (a := Event.create d' name (.ok file)) (l := later))
          rw [← hes.2] at hmem
          simp at hmem

/-- A file that has been created is written to once and closed once, and that is all. -/
theorem Saving.eq_of_create {r : Except FileError Unit} {d' : δ} {file : φ}
    {earlier later : List (Event δ φ)} (h : Saving d names base text es r)
    (hes : es = earlier ++ .create d' name (.ok file) :: later) :
    ∃ a a', later = [.write file text a, .close file a'] := by
  cases h with
  | notEntered h => exact absurd (by simp [hes]) (h.create_not_mem d' name (.ok file))
  | filed h hfile =>
      rcases List.append_eq_append_iff.mp hes with ⟨rest, -, hrest⟩ | ⟨rest, hentered, hrest⟩
      · exact hfile.eq_of_create hrest
      · cases rest with
        | nil => exact hfile.eq_of_create (show _ = [] ++ _ from hrest.symm)
        | cons first rest =>
            rw [List.cons_append, List.cons.injEq] at hrest
            rw [← hrest.1] at hentered
            exact absurd (by simp [hentered]) (h.create_not_mem d' name (.ok file))

end

/-! ### What the functions of a save perform -/

/-- From every state, events happen that are, together with the result, as `P` says. -/
def Performs (s : Store δ φ (StateM σ)) (x : ExceptT FileError (StateM σ) α)
    (P : List (Event δ φ) → Except FileError α → Prop) : Prop :=
  ∀ before, ∃ es r after, Performed s before es after ∧ x.run.run before = (r, after) ∧ P es r

namespace Performs

variable {s : Store δ φ (StateM σ)} {x : ExceptT FileError (StateM σ) α}
  {P P' : List (Event δ φ) → Except FileError α → Prop}
  {Q : List (Event δ φ) → Except FileError β → Prop}

theorem mono (h : Performs s x P) (hP : ∀ es r, P es r → P' es r) : Performs s x P' := by
  intro before
  obtain ⟨es, r, after, hperformed, hrun, h⟩ := h before
  exact ⟨es, r, after, hperformed, hrun, hP es r h⟩

theorem of_happens {e : Except FileError α → Event δ φ}
    (h : ∀ before r after, x.run.run before = (r, after) → (e r).Happens s before after) :
    Performs s x fun es r => es = [e r] :=
  fun before => ⟨_, _, _, .cons (h before _ _ rfl) (.nil _), rfl, rfl⟩

theorem ret {a : α} (h : P [] (.ok a)) : Performs s (pure a) P :=
  fun before => ⟨[], .ok a, before, .nil before, rfl, h⟩

theorem fail {e : FileError} (h : P [] (.error e)) : Performs s (throw e) P :=
  fun before => ⟨[], .error e, before, .nil before, rfl, h⟩

theorem bind {f : α → ExceptT FileError (StateM σ) β} (hx : Performs s x P)
    (hstop : ∀ es e, P es (.error e) → Q es (.error e))
    (hf : ∀ es a, P es (.ok a) → Performs s (f a) fun es' r => Q (es ++ es') r) :
    Performs s (x >>= f) Q := by
  intro before
  obtain ⟨es, r, between, hperformed, hrun, hP⟩ := hx before
  cases r with
  | error e =>
      exact ⟨es, .error e, between, hperformed, run_bind_of_eq_error hrun f, hstop es e hP⟩
  | ok a =>
      obtain ⟨es', r', after, hperformed', hrun', hQ⟩ := hf es a hP between
      exact ⟨es ++ es', r', after, hperformed.append hperformed',
        (run_bind_of_eq_ok hrun f).trans hrun', hQ⟩

theorem handle {f : FileError → ExceptT FileError (StateM σ) α} (hx : Performs s x P)
    (hdone : ∀ es a, P es (.ok a) → P' es (.ok a))
    (hf : ∀ es e, P es (.error e) → Performs s (f e) fun es' r => P' (es ++ es') r) :
    Performs s (tryCatch x f) P' := by
  intro before
  obtain ⟨es, r, between, hperformed, hrun, hP⟩ := hx before
  cases r with
  | ok a => exact ⟨es, .ok a, between, hperformed, run_tryCatch_of_eq_ok hrun f, hdone es a hP⟩
  | error e =>
      obtain ⟨es', r', after, hperformed', hrun', hP'⟩ := hf es e hP between
      exact ⟨es ++ es', r', after, hperformed.append hperformed',
        (run_tryCatch_of_eq_error hrun f).trans hrun', hP'⟩

end Performs

section

variable (s : Store δ φ (StateM σ)) (d : δ) (name text : Text)

theorem performs_enter : Performs s (s.enter d name) fun es r => es = [.enter d name r] :=
  .of_happens fun _ _ _ h => h

theorem performs_makeFolder (mode : Nat) :
    Performs s (s.makeFolder d name mode) fun es r => es = [.makeFolder d name mode r] :=
  .of_happens fun _ _ _ h => h

theorem performs_create : Performs s (s.create d name) fun es r => es = [.create d name r] :=
  .of_happens fun _ _ _ h => h

theorem performs_write (file : φ) :
    Performs s (s.write file text) fun es r => es = [.write file text r] :=
  .of_happens fun _ _ _ h => h

theorem performs_close (file : φ) : Performs s (s.close file) fun es r => es = [.close file r] :=
  .of_happens fun _ _ _ h => h

theorem performs_enterOrMake : Performs s (enterOrMake s d name) (Entering d name) := by
  apply (performs_enter s d name).handle
  · rintro es sub rfl
    exact .atOnce sub
  · rintro es e rfl
    by_cases hmissing : e.isMissing = true
    · rw [if_pos hmissing]
      apply (performs_makeFolder s d name folderMode).bind
      · rintro es e' rfl
        exact .notMade hmissing e'
      · rintro es a rfl
        apply (performs_enter s d name).mono
        rintro es r rfl
        exact .made hmissing r
    · rw [if_neg hmissing]
      exact .fail (.refused (eq_false_of_ne_true hmissing))

theorem performs_enterAll (names : List Text) :
    Performs s (enterAll s d names) (EnteringAll d names) := by
  induction names generalizing d with
  | nil => exact .ret (.nil d)
  | cons name names ih =>
      apply (performs_enterOrMake s d name).bind
      · exact fun es e h => .stop h
      · intro es d' h
        exact (ih d').mono fun es' r h' => .next h h'

/-- What is done with a created file. The events of `Filing` after the first one. -/
theorem performs_writeAndClose (file : φ) :
    Performs s (writeAndClose s file text) fun es r =>
      Filing d name text (.create d name (.ok file) :: es) r := by
  have hwrite : Performs s
      (tryCatch (s.write file text) fun err => do
        tryCatch (s.close file) fun _ => pure ()
        throw err)
      fun es r =>
        (r = .ok () ∧ es = [.write file text (.ok ())]) ∨
          ∃ e r', r = .error e ∧ es = [.write file text (.error e), .close file r'] := by
    apply (performs_write s text file).handle
    · rintro es a rfl
      exact .inl ⟨rfl, rfl⟩
    · rintro es e rfl
      have hclose : Performs s (tryCatch (s.close file) fun _ => pure ()) fun es r =>
          r = .ok () ∧ ∃ r', es = [.close file r'] := by
        apply (performs_close s file).handle
        · rintro es a rfl
          exact ⟨rfl, _, rfl⟩
        · rintro es e' rfl
          exact .ret ⟨rfl, _, rfl⟩
      apply hclose.bind
      · rintro es e' ⟨h, -⟩
        cases h
      · rintro es a ⟨-, r', rfl⟩
        exact .fail (.inr ⟨e, r', rfl, rfl⟩)
  apply hwrite.bind
  · rintro es e (⟨h, -⟩ | ⟨e', r', h, rfl⟩)
    · cases h
    · cases h
      exact .notWritten file e r'
  · rintro es a (⟨-, rfl⟩ | ⟨e', r', h, -⟩)
    · apply (performs_close s file).mono
      rintro es r rfl
      exact .written file r
    · cases h

theorem saveAs_of_refused (h : Path.isName name = false ∨ name = Path.dot) :
    saveAs s d name text = throw (.bare .invalid) := by
  have hrefused : (!Path.isName name || name == Path.dot) = true := by
    rcases h with h | h <;> simp [h]
  rw [saveAs, if_pos hrefused]
  rfl

theorem isName_of_run_save {before after : σ} {a : Unit}
    (h : (save s d name text).run.run before = (.ok a, after)) :
    Path.isName name = true ∧ name ≠ Path.dot := by
  by_contra hrefused
  rw [not_and_or, Bool.not_eq_true, not_not] at hrefused
  rw [save, saveAs_of_refused s d name text hrefused] at h
  cases h

theorem saveAs_of_isName (hname : Path.isName name = true) (hdot : name ≠ Path.dot) :
    saveAs s d name text =
      enterAll s d (Path.elements name).dropLast >>= fun folder =>
        s.create folder (Path.base name) >>= fun file => writeAndClose s file text := by
  have hrefused : ¬(!Path.isName name || name == Path.dot) = true := by simp [hname, hdot]
  rw [saveAs, if_neg hrefused]

theorem performs_saveAs (hname : Path.isName name = true) (hdot : name ≠ Path.dot) :
    Performs s (saveAs s d name text)
      (Saving d (Path.elements name).dropLast (Path.base name) text) := by
  rw [saveAs_of_isName s d name text hname hdot]
  apply (performs_enterAll s d _).bind
  · exact fun es e h => .notEntered h
  · intro es d' h
    apply (performs_create s d' (Path.base name)).bind
    · rintro es' e rfl
      exact .filed h (.notCreated e)
    · rintro es' file rfl
      apply (performs_writeAndClose s d' (Path.base name) text file).mono
      intro es'' r h'
      exact .filed h h'

end

theorem saving_of_run_save {s : Store δ φ (StateM σ)} {d : δ} {name text : Text}
    {r : Except DocumentError Unit} {before after : σ} (hname : Path.isName name = true)
    (hdot : name ≠ Path.dot) (h : (save s d name text).run.run before = (r, after)) :
    ∃ es r', Performed s before es after ∧ r = r'.mapError (⟨name, ·⟩) ∧
      Saving d (Path.elements name).dropLast (Path.base name) text es r' := by
  obtain ⟨es, r', after', hperformed, hrun, hsaving⟩ :=
    performs_saveAs s d name text hname hdot before
  rw [save, run_named hrun name] at h
  obtain ⟨rfl, rfl⟩ := Prod.mk.inj h
  exact ⟨es, r', hperformed, rfl, hsaving⟩

/-! ### Recorded stores -/

/-- The store that does the same as `s` and writes down all events, the first one first. -/
def recorded (s : Store δ φ (StateM σ)) : Store δ φ (StateM (σ × List (Event δ φ))) where
  enter d name := recording (s.enter d name) fun r => [.enter d name r]
  makeFolder d name mode := recording (s.makeFolder d name mode) fun r => [.makeFolder d name mode r]
  create d name := recording (s.create d name) fun r => [.create d name r]
  write file text := recording (s.write file text) fun r => [.write file text r]
  close file := recording (s.close file) fun r => [.close file r]

theorem Event.Happens.recorded {s : Store δ φ (StateM σ)} {e : Event δ φ}
    {before after : σ × List (Event δ φ)} (h : e.Happens (recorded s) before after) :
    after.2 = before.2 ++ [e] := by
  cases e <;> exact noted_of_run_recording (fun _ => [_]) h

theorem Performed.recorded {s : Store δ φ (StateM σ)} {es : List (Event δ φ)}
    {before after : σ × List (Event δ φ)} (h : Performed (recorded s) before es after) :
    after.2 = before.2 ++ es := by
  induction h with
  | nil => simp
  | cons hhead _ ih => rw [ih, hhead.recorded, List.append_assoc, List.singleton_append]

/-- A save makes the calls of the protocol, whatever the store answers, and no others. Under a name
that is refused it makes none. Else the result is that of the protocol, with the document named in
an error; the save succeeds if and only if every call did, apart from those that missed a folder
which had not just been made; a file that has been created is written to and closed once, and the
close is the last call; and there are at most three calls for each folder and three for the file. -/
theorem save_follows_protocol (s : Store δ φ (StateM σ)) (d : δ) (name text : Text) (before : σ) :
    ∃ result after es,
      (save (recorded s) d name text).run.run (before, []) = (result, after, es) ∧
      ((Path.isName name = false ∨ name = Path.dot) →
        es = [] ∧ result = .error ⟨name, .bare .invalid⟩) ∧
      (Path.isName name = true → name ≠ Path.dot →
        ∃ folders base r, Path.elements name = folders ++ [base] ∧
          result = r.mapError (⟨name, ·⟩) ∧ Saving d folders base text es r ∧
          (result = .ok () ↔ Faultless false es) ∧
          (∀ earlier d' n file later, es = earlier ++ .create d' n (.ok file) :: later →
            ∃ a a', later = [.write file text a, .close file a']) ∧
          es.length ≤ 3 * folders.length + 3) := by
  by_cases hrefused : Path.isName name = false ∨ name = Path.dot
  · have hrun : (saveAs (recorded s) d name text).run.run (before, []) =
        (.error (.bare .invalid), before, []) := by
      rw [saveAs_of_refused (recorded s) d name text hrefused]
      rfl
    refine ⟨_, _, _, run_named hrun name, fun _ => ⟨rfl, rfl⟩, fun hname hdot => ?_⟩
    simp [hname, hdot] at hrefused
  · obtain ⟨hname, hdot⟩ := not_or.mp hrefused
    generalize hrun : (save (recorded s) d name text).run.run (before, []) = run
    obtain ⟨result, after, written⟩ := run
    obtain ⟨es, r, hperformed, rfl, hsaving⟩ :=
      saving_of_run_save (eq_true_of_ne_false hname) hdot hrun
    obtain rfl : written = es := hperformed.recorded
    refine ⟨_, _, _, rfl, fun h => absurd h hrefused, fun _ _ => ?_⟩
    have hsuccess : r.mapError (DocumentError.mk name) = .ok () ↔ r = .ok () := by
      cases r <;> simp [Except.mapError]
    exact ⟨_, _, r, (Path.dropLast_elements_append name).symm, rfl, hsaving,
      hsuccess.trans hsaving.eq_ok_iff_faultless, fun _ _ _ _ _ => hsaving.eq_of_create,
      hsaving.length_le⟩

end Document

end LineMachine
