import LineMachine.Feed
import Mathlib.Data.List.Basic

/-!
# Feeds of lists

The feed of a list hands out its elements in order, and feeds of lists one after the other are the
feed of the joined lists. All of it is seen by any consumer, whatever its state is and whenever it
stops.

The two loops are one: hand something out, and go on `unlessDone`. Hence both of them are cut where
their list is cut (`driveList_append`, `driveAll_append`), and the laws of feeds follow from that.
-/

namespace LineMachine.Feed

variable {α σ : Type} {m : Type → Type} [Monad m]

theorem unlessDone_yield : unlessDone (fun s : σ => pure (.yield s)) = (pure : _ → m _) := by
  funext step
  cases step <;> rfl

variable [LawfulMonad m]

theorem bind_unlessDone_assoc (x : m (ForInStep σ)) (f g : σ → m (ForInStep σ)) :
    x >>= unlessDone f >>= unlessDone g = x >>= unlessDone fun s => f s >>= unlessDone g := by
  rw [bind_assoc]
  apply bind_congr
  intro step
  cases step with
  | done s => exact pure_bind _ _
  | yield s => rfl

theorem driveList_append (consume : σ → α → m (ForInStep σ)) (as bs : List α) (s : σ) :
    driveList consume (as ++ bs) s =
      driveList consume as s >>= unlessDone (driveList consume bs) := by
  induction as generalizing s with
  | nil =>
      rw [List.nil_append, driveList, pure_bind]
      rfl
  | cons a as ih =>
      rw [List.cons_append, driveList, driveList, bind_unlessDone_assoc, funext ih]

theorem driveAll_append (consume : σ → α → m (ForInStep σ)) (fs gs : List (Feed α m)) (s : σ) :
    driveAll consume (fs ++ gs) s =
      driveAll consume fs s >>= unlessDone (driveAll consume gs) := by
  induction fs generalizing s with
  | nil =>
      rw [List.nil_append, driveAll, pure_bind]
      rfl
  | cons f fs ih =>
      rw [List.cons_append, driveAll, driveAll, bind_unlessDone_assoc, funext ih]

theorem driveAll_singleton (consume : σ → α → m (ForInStep σ)) (f : Feed α m) (s : σ) :
    driveAll consume [f] s = f.drive consume s := by
  have hend : driveAll consume ([] : List (Feed α m)) = fun s => pure (.yield s) := rfl
  rw [driveAll, hend, unlessDone_yield, bind_pure]

theorem concat_singleton (f : Feed α m) : concat [f] = f := by
  simp only [concat, driveAll_singleton]

theorem concat_append (fs gs : List (Feed α m)) :
    concat (fs ++ gs) = concat [concat fs, concat gs] := by
  have hdrive : ∀ {σ : Type} (consume : σ → α → m (ForInStep σ)) (s : σ),
      driveAll consume (fs ++ gs) s = driveAll consume [concat fs, concat gs] s := by
    intro σ consume s
    rw [driveAll_append, driveAll, funext (driveAll_singleton consume (concat gs))]
    rfl
  simp only [concat, hdrive]

theorem driveAll_map_ofList (consume : σ → α → Id (ForInStep σ)) (ls : List (List α)) (s : σ) :
    driveAll consume (ls.map ofList) s = driveList consume ls.flatten s := by
  induction ls generalizing s with
  | nil => rfl
  | cons as ls ih =>
      rw [List.map_cons, List.flatten_cons, driveAll, driveList_append, funext ih]
      rfl

theorem concat_map_ofList (ls : List (List α)) : concat (ls.map ofList) = ofList ls.flatten := by
  simp only [concat, ofList, driveAll_map_ofList]

theorem serve_collector_none (as s : List α) :
    (ofList as).serve (collector none) s = .yield (as.reverse ++ s) := by
  induction as generalizing s with
  | nil => rfl
  | cons a as ih =>
      rw [List.reverse_cons, List.append_assoc, List.singleton_append]
      exact ih (a :: s)

/-- A consumer that never stops gets all elements. -/
@[simp] theorem collect_none_ofList (as : List α) : (ofList as).collect none = as := by
  simp [collect, serve_collector_none]

end LineMachine.Feed
