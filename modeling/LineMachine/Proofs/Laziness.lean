import LineMachine.Proofs.Machine.Panel
import Mathlib.Logic.Function.Basic

/-!
# Feeds one after the other are lazy

A consumer that stops at its `t`-th element (`StopsAfter`) is handed the first `t` elements of the
feeds that are put behind one another, and no further element is produced. To see what is produced
and not only what is handed on, a sequence may count its elements while it produces them (`tallied`).
Its count is an effect of the sequence itself, so an element that is produced and then dropped would
be counted too.

Feeds put behind one another may be feeds of this kind themselves, to any depth (`Nesting`). It makes
no difference: the feeds at the bottom are driven in order.
-/

namespace LineMachine.Feed

variable {α σ : Type} {m : Type → Type} [Monad m]

/-! ### What a consumer is handed -/

/-- It is the loop over the list, which the consumer leaves when it stops. -/
theorem value_driveList [LawfulMonad m] (consume : σ → α → m (ForInStep σ)) (as : List α) (s : σ) :
    ForInStep.value <$> driveList consume as s = forIn as s fun a s => consume s a := by
  induction as generalizing s with
  | nil => rw [driveList, map_pure, ForInStep.value_yield, List.forIn_nil]
  | cons a as ih =>
      rw [driveList, map_bind, List.forIn_cons]
      apply bind_congr
      intro step
      cases step with
      | done s => exact map_pure _ _
      | yield s => exact ih s

/-- The consumer stops at the `t`-th element of a list, if the list does not end before. -/
inductive StopsAfter (consume : σ → α → ForInStep σ) : Nat → σ → List α → Prop
  | ended (t : Nat) (s : σ) : StopsAfter consume (t + 1) s []
  | stop {s s' : σ} {a : α} (h : consume s a = .done s') (as : List α) :
      StopsAfter consume 1 s (a :: as)
  | more {t : Nat} {s s' : σ} {a : α} {as : List α} (h : consume s a = .yield s')
      (rest : StopsAfter consume t s' as) : StopsAfter consume (t + 1) s (a :: as)

section

variable {consume : σ → α → ForInStep σ} {s s' : σ} {a : α} {as bs : List α} {t : Nat}

theorem exists_stopsAfter (consume : σ → α → ForInStep σ) (s : σ) (as : List α) :
    ∃ t, StopsAfter consume t s as := by
  induction as generalizing s with
  | nil => exact ⟨1, .ended 0 s⟩
  | cons a as ih =>
      cases h : consume s a with
      | done s' => exact ⟨1, .stop h as⟩
      | yield s' =>
          obtain ⟨t, ht⟩ := ih s'
          exact ⟨t + 1, .more h ht⟩

theorem serve_cons_of_eq_done (h : consume s a = .done s') (as : List α) :
    (ofList (a :: as)).serve consume s = .done s' := by
  change Id.run (unlessDone _ (consume s a)) = _
  rw [h]
  rfl

theorem serve_cons_of_eq_yield (h : consume s a = .yield s') (as : List α) :
    (ofList (a :: as)).serve consume s = (ofList as).serve consume s' := by
  change Id.run (unlessDone _ (consume s a)) = _
  rw [h]
  rfl

theorem serve_append_of_eq_done (h : (ofList as).serve consume s = .done s') (bs : List α) :
    (ofList (as ++ bs)).serve consume s = .done s' := by
  have happend := driveList_append (m := Id) (fun s a => pure (consume s a)) as bs s
  exact happend.trans (congrArg (unlessDone _) h)

theorem serve_append_of_eq_yield (h : (ofList as).serve consume s = .yield s') (bs : List α) :
    (ofList (as ++ bs)).serve consume s = (ofList bs).serve consume s' := by
  have happend := driveList_append (m := Id) (fun s a => pure (consume s a)) as bs s
  exact happend.trans (congrArg (unlessDone _) h)

namespace StopsAfter

/-- The elements up to the stop are all that the consumer gets to see. -/
theorem value_serve (h : StopsAfter consume t s as) :
    ((ofList as).serve consume s).value =
      (as.take t).foldl (fun s a => (consume s a).value) s := by
  induction h with
  | ended t s => rfl
  | stop h as =>
      rw [serve_cons_of_eq_done h, List.take_succ_cons, List.take_zero, List.foldl_cons, h,
        List.foldl_nil]
  | more h rest ih =>
      rw [serve_cons_of_eq_yield h, List.take_succ_cons, List.foldl_cons, h, ih,
        ForInStep.value_yield]

/-- The consumer stops in the first of two lists, or in the second one after all of the first. -/
theorem cases_append (h : StopsAfter consume t s (as ++ bs)) :
    StopsAfter consume t s as ∧
      ((t ≤ as.length ∧ ∃ s', (ofList as).serve consume s = .done s') ∨
        (as.length < t ∧ ∃ s', (ofList as).serve consume s = .yield s' ∧
          StopsAfter consume (t - as.length) s' bs)) := by
  induction as generalizing s t with
  | nil =>
      have hpos : 0 < t := by cases h <;> omega
      obtain ⟨t, rfl⟩ := Nat.exists_eq_add_one.mpr hpos
      exact ⟨.ended t s, .inr ⟨hpos, s, rfl, h⟩⟩
  | cons a as ih =>
      cases h with
      | stop h =>
          exact ⟨.stop h as, .inl ⟨Nat.le_add_left 1 _, _, serve_cons_of_eq_done h as⟩⟩
      | @more t _ s' _ _ h rest =>
          obtain ⟨hfirst, hsecond⟩ := ih rest
          refine ⟨.more h hfirst, ?_⟩
          rw [serve_cons_of_eq_yield h, List.length_cons, Nat.add_le_add_iff_right,
            Nat.add_lt_add_iff_right, Nat.add_sub_add_right]
          exact hsecond

end StopsAfter

end

/-! ### What a sequence produces -/

/-- Count one more at place `i` of a tally. -/
def tick (i : Nat) : StateM (Nat → Nat) Unit := modify fun n => Function.update n i (n i + 1)

/-- The sequence of the elements of a list. It counts each element at place `i` of a tally before it
hands it out. -/
def tallied (i : Nat) (as : List α) : Feed α (StateM (Nat → Nat)) :=
  ⟨fun consume s => driveList (fun s a => do tick i; consume s a) as s⟩

/-- Sequences one after the other, each of which counts at its own place, from place `k` on. -/
def talliedFrom (k : Nat) (ls : List (List α)) : List (Feed α (StateM (Nat → Nat))) :=
  (ls.zipIdx k).map fun p => tallied p.2 p.1

/-- How many elements of the `i`-th sequence are among the first `t` of all sequences. -/
def share (t : Nat) (ls : List (List α)) (i : Nat) : Nat :=
  min (ls[i]?.getD []).length (t - ((ls.take i).map List.length).sum)

@[simp] theorem share_nil (t i : Nat) : share t ([] : List (List α)) i = 0 := by
  simp [share]

@[simp] theorem share_cons_zero (t : Nat) (as : List α) (ls : List (List α)) :
    share t (as :: ls) 0 = min as.length t := by
  simp [share]

@[simp] theorem share_cons_succ (t : Nat) (as : List α) (ls : List (List α)) (i : Nat) :
    share t (as :: ls) (i + 1) = share (t - as.length) ls i := by
  simp [share, Nat.sub_sub]

@[simp] theorem share_zero (ls : List (List α)) (i : Nat) : share 0 ls i = 0 := by
  simp [share]

section

variable {consume : σ → α → ForInStep σ} {s : σ} {as : List α} {ls : List (List α)} {t : Nat}

theorem run_bind_unlessDone_of_eq_done {τ : Type} {x : StateM τ (ForInStep σ)} {n n' : τ}
    (h : x.run n = (.done s, n')) (next : σ → StateM τ (ForInStep σ)) :
    (x >>= unlessDone next).run n = (.done s, n') := by
  rw [StateT.run_bind, h]
  rfl

theorem run_bind_unlessDone_of_eq_yield {τ : Type} {x : StateM τ (ForInStep σ)} {n n' : τ}
    (h : x.run n = (.yield s, n')) (next : σ → StateM τ (ForInStep σ)) :
    (x >>= unlessDone next).run n = (next s).run n' := by
  rw [StateT.run_bind, h]
  rfl

/-- One sequence counts what it produces, up to the stop. -/
theorem StopsAfter.run_tallied (h : StopsAfter consume t s as) (i : Nat) (n : Nat → Nat) :
    ((tallied i as).drive (fun s a => pure (consume s a)) s).run n =
      ((ofList as).serve consume s, Function.update n i (n i + min as.length t)) := by
  have hone : ∀ {n : Nat → Nat} {s : σ} {a : α} {step : ForInStep σ}, consume s a = step →
      (do tick i; pure (consume s a) : StateM (Nat → Nat) (ForInStep σ)).run n =
        (step, Function.update n i (n i + 1)) := by
    rintro n s a _ rfl
    rfl
  induction h generalizing n with
  | ended t s =>
      rw [List.length_nil, Nat.zero_min, Nat.add_zero, Function.update_eq_self]
      rfl
  | @stop s s' a h as =>
      have hmin : min (a :: as).length 1 = 1 := by simp
      rw [serve_cons_of_eq_done h, hmin]
      exact run_bind_unlessDone_of_eq_done (hone h) _
  | @more t s s' a as h rest ih =>
      have hmin : min (a :: as).length (t + 1) = 1 + min as.length t := by
        rw [List.length_cons]
        omega
      have hrest := ih (Function.update n i (n i + 1))
      rw [Function.update_self, Function.update_idem, Nat.add_assoc] at hrest
      rw [serve_cons_of_eq_yield h, hmin, ← hrest]
      exact run_bind_unlessDone_of_eq_yield (hone h) _

/-- Each of the sequences counts what it produces, up to the stop. -/
theorem StopsAfter.run_talliedFrom (h : StopsAfter consume t s ls.flatten) (k : Nat)
    (n : Nat → Nat) :
    ∃ n', (driveAll (fun s a => pure (consume s a)) (talliedFrom k ls) s).run n =
        ((ofList ls.flatten).serve consume s, n') ∧
      (∀ j < k, n' j = n j) ∧ ∀ i, n' (k + i) = n (k + i) + share t ls i := by
  induction ls generalizing s t k n with
  | nil => exact ⟨n, rfl, fun _ _ => rfl, fun i => by simp⟩
  | cons as ls ih =>
      rw [List.flatten_cons] at h ⊢
      obtain ⟨hfirst, hcases⟩ := h.cases_append
      have hrun := hfirst.run_tallied k n
      rcases hcases with ⟨hle, s', hs'⟩ | ⟨hlt, s', hs', hrest⟩
      · -- The consumer has stopped in `as`, so no other sequence is driven.
        rw [hs'] at hrun
        refine ⟨Function.update n k (n k + min as.length t), ?_,
          fun j hj => Function.update_of_ne hj.ne _ _, fun i => ?_⟩
        · rw [serve_append_of_eq_done hs']
          exact run_bind_unlessDone_of_eq_done hrun _
        · cases i with
          | zero => simp
          | succ i =>
              rw [Function.update_of_ne (by omega), share_cons_succ, Nat.sub_eq_zero_of_le hle,
                share_zero]
              exact (Nat.add_zero _).symm
      · -- All of `as` has been produced, and the consumer goes on with what is behind it.
        rw [hs'] at hrun
        obtain ⟨n', hn', hbefore, hshare⟩ := ih hrest (k + 1)
          (Function.update n k (n k + min as.length t))
        refine ⟨n', ?_, fun j hj => ?_, fun i => ?_⟩
        · rw [serve_append_of_eq_yield hs', ← hn']
          exact run_bind_unlessDone_of_eq_yield hrun _
        · rw [hbefore j (by omega), Function.update_of_ne (by omega)]
        · cases i with
          | zero =>
              rw [Nat.add_zero, hbefore k (Nat.lt_succ_self k), Function.update_self,
                share_cons_zero]
          | succ i =>
              have hplace : k + (i + 1) = k + 1 + i := by omega
              rw [hplace, hshare, share_cons_succ, Function.update_of_ne (by omega)]

end

/-! ### Feeds in parts -/

/-- Feeds that are put behind one another in parts, which may be made of parts themselves. -/
inductive Nesting (α : Type) (m : Type → Type) where
  | single (f : Feed α m)
  | parts (ns : List (Nesting α m))

namespace Nesting

mutual

/-- The feed that is made part by part. -/
def feed : Nesting α m → Feed α m
  | single f => f
  | parts ns => concat (feeds ns)

/-- The feeds of the parts. -/
def feeds : List (Nesting α m) → List (Feed α m)
  | [] => []
  | n :: ns => n.feed :: feeds ns

end

mutual

/-- The feeds at the bottom, in order. -/
def leaves : Nesting α m → List (Feed α m)
  | single f => [f]
  | parts ns => allLeaves ns

/-- The feeds at the bottom of all parts, in order. -/
def allLeaves : List (Nesting α m) → List (Feed α m)
  | [] => []
  | n :: ns => n.leaves ++ allLeaves ns

end

variable [LawfulMonad m]

mutual

/-- Parts or no parts, it is the feeds at the bottom that are driven, one after the other. -/
theorem feed_eq_concat_leaves : ∀ n : Nesting α m, n.feed = concat n.leaves
  | single f => by rw [feed, leaves, concat_singleton]
  | parts ns => by rw [feed, leaves, concat_feeds]

theorem concat_feeds : ∀ ns : List (Nesting α m), concat (feeds ns) = concat (allLeaves ns)
  | [] => by rw [feeds, allLeaves]
  | n :: ns => by
      rw [feeds, allLeaves, feed_eq_concat_leaves n, concat_append, ← concat_feeds ns,
        ← List.singleton_append, concat_append, concat_singleton]

end

end Nesting

/-! ### The first elements -/

theorem stopsAfter_collector {t : Nat} {s : List α} (h : s.length < t) (as : List α) :
    StopsAfter (collector (some t)) (t - s.length) s as := by
  induction as generalizing s with
  | nil =>
      obtain ⟨k, rfl⟩ := Nat.exists_eq_add_of_lt h
      have hleft : s.length + k + 1 - s.length = k + 1 := by omega
      rw [hleft]
      exact .ended k s
  | cons a as ih =>
      by_cases hlast : t = s.length + 1
      · have hstop : collector (some t) s a = .done (a :: s) := by simp [collector, hlast]
        have hleft : t - s.length = 1 := by omega
        rw [hleft]
        exact .stop hstop as
      · have hmore : collector (some t) s a = .yield (a :: s) := by
          rw [collector, if_neg]
          simp only [Option.some.injEq]
          omega
        have hlength : (a :: s).length = s.length + 1 := List.length_cons
        have hleft : t - s.length = t - (a :: s).length + 1 := by omega
        rw [hleft]
        exact .more hmore (ih (by omega))

theorem collect_some_ofList (as : List α) (t : Int) :
    (ofList as).collect (some t) = as.take t.toNat := by
  by_cases ht : t ≤ 0
  · simp [collect, ht, Int.toNat_of_nonpos ht]
  · obtain ⟨n, rfl⟩ := Int.eq_ofNat_of_zero_le (Int.not_le.mp ht).le
    have hpos : ([] : List α).length < n := Int.ofNat_lt.mp (Int.not_le.mp ht)
    have hvalue : (fun (s : List α) a => (collector (some (n : Int)) s a).value) =
        fun s a => a :: s := by
      funext s a
      rw [collector]
      split <;> rfl
    have hstop := (stopsAfter_collector hpos as).value_serve
    rw [hvalue] at hstop
    rw [collect, if_neg (by simpa using ht), hstop]
    simp

/-! ### One after the other -/

/-- Sequences one after the other are the one sequence of all their elements, for every consumer: it
is left in the state in which the loop over these elements leaves it. If it stops at its `t`-th
element, each sequence produces the elements that it has among the first `t` and no others, whatever
comes behind the stop. Sequences may be put together in parts, which are feeds with effects of any
kind, and it is as if there were no parts. The rows of the panel up to `t` are the first `t` of its
nine rows. -/
theorem concat_is_lazy :
    (∀ {α σ : Type} (ls : List (List α)) (consume : σ → α → ForInStep σ) (s : σ),
      ((concat (ls.map ofList)).serve consume s).value =
          Id.run (forIn ls.flatten s fun a s => pure (consume s a)) ∧
        ∃ t, StopsAfter consume t s ls.flatten) ∧
    (∀ {α σ : Type} (ls : List (List α)) (consume : σ → α → ForInStep σ) (s : σ) (t : Nat),
      StopsAfter consume t s ls.flatten →
        ∃ tally,
          ((concat (talliedFrom 0 ls)).drive (fun s a => pure (consume s a)) s).run (fun _ => 0) =
            ((concat (ls.map ofList)).serve consume s, tally) ∧
          ∀ i as, ls[i]? = some as →
            tally i = min as.length (t - ((ls.take i).map List.length).sum)) ∧
    (∀ {α : Type} {m : Type → Type} [Monad m] [LawfulMonad m] (n : Nesting α m),
      n.feed = concat n.leaves) ∧
    ∀ s : Snapshot,
      s.panelRows.length = 9 ∧ ∀ t : Int, s.rows.collect (some t) = s.panelRows.take t.toNat := by
  refine ⟨fun ls consume s => ⟨?_, exists_stopsAfter consume s _⟩, fun ls consume s t h => ?_,
    fun n => n.feed_eq_concat_leaves, fun s => ⟨rfl, fun t => ?_⟩⟩
  · rw [concat_map_ofList]
    exact value_driveList (m := Id) (fun s a => pure (consume s a)) ls.flatten s
  · obtain ⟨tally, hrun, -, hshare⟩ := h.run_talliedFrom 0 fun _ => 0
    refine ⟨tally, ?_, fun i as has => ?_⟩
    · rw [concat_map_ofList]
      exact hrun
    · have hi := hshare i
      rw [share, has, Nat.zero_add, Nat.zero_add] at hi
      exact hi
  · rw [s.rows_eq_ofList, collect_some_ofList]

/-- The stop falls on the last element of the first sequence; neither the empty sequence behind it
nor the last one is asked for anything. -/
theorem concat_is_lazy_boundary :
    let ls := [[1, 2], [], [3, 4]]
    StopsAfter (collector (some 2)) 2 [] ls.flatten ∧
      ∃ tally,
        ((concat (talliedFrom 0 ls)).drive
            (fun s a => pure (collector (some 2) s a)) []).run (fun _ => 0) =
          ((concat (ls.map ofList)).serve (collector (some 2)) [], tally) ∧
        tally 0 = 2 ∧ tally 1 = 0 ∧ tally 2 = 0 := by
  intro ls
  have hstop : StopsAfter (collector (some 2)) 2 [] ls.flatten := .more rfl (.stop rfl _)
  obtain ⟨tally, hrun, hshare⟩ := concat_is_lazy.2.1 ls _ _ _ hstop
  exact ⟨hstop, tally, hrun, hshare 0 _ rfl, hshare 1 _ rfl, hshare 2 _ rfl⟩

end LineMachine.Feed
