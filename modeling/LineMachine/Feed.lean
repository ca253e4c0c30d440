/-!
# Feeds

A feed hands its elements to a consumer one by one. The consumer has a state, and after each element
it says whether it wants more; once it has stopped, the feed produces nothing any more. `concat` puts
feeds behind one another without looking at a feed before the ones in front of it have ended.

A feed and its consumer may have effects, in a monad `m`; a feed may so tell of each element that it
produces. The feeds of the machine have no effects, and `serve` hands them to consumers without any.
-/

namespace LineMachine

/-- A feed of elements of `α`. The answer is `done` if the consumer has stopped, and `yield` if the
feed has ended before. -/
structure Feed (α : Type) (m : Type → Type := Id) where
  drive : {σ : Type} → (σ → α → m (ForInStep σ)) → σ → m (ForInStep σ)

namespace Feed

/-- Go on with `next`, unless the consumer has stopped. -/
def unlessDone {σ : Type} {m : Type → Type} [Monad m] (next : σ → m (ForInStep σ)) :
    ForInStep σ → m (ForInStep σ)
  | .done s => pure (.done s)
  | .yield s => next s

/-- Hand out the elements of a list. -/
def driveList {α σ : Type} {m : Type → Type} [Monad m] (consume : σ → α → m (ForInStep σ)) :
    List α → σ → m (ForInStep σ)
  | [], s => pure (.yield s)
  | a :: as, s => consume s a >>= unlessDone (driveList consume as)

/-- The feed of the elements of a list. -/
def ofList {α : Type} (as : List α) : Feed α := ⟨fun consume s => driveList consume as s⟩

/-- Drive feeds one after the other until the consumer stops. -/
def driveAll {α σ : Type} {m : Type → Type} [Monad m] (consume : σ → α → m (ForInStep σ)) :
    List (Feed α m) → σ → m (ForInStep σ)
  | [], s => pure (.yield s)
  | f :: fs, s => f.drive consume s >>= unlessDone (driveAll consume fs)

/-- The elements of the feeds in a list, in order. -/
def concat {α : Type} {m : Type → Type} [Monad m] (fs : List (Feed α m)) : Feed α m :=
  ⟨fun consume s => driveAll consume fs s⟩

/-- Drive a feed without effects. -/
def serve {α σ : Type} (f : Feed α) (consume : σ → α → ForInStep σ) (s : σ) : ForInStep σ :=
  Id.run (f.drive (fun s a => pure (consume s a)) s)

/-- A consumer that collects elements, the last one first, and stops when it has `limit` of them. -/
def collector {α : Type} (limit : Option Int) (s : List α) (a : α) : ForInStep (List α) :=
  if limit = some (s.length + 1 : Int) then .done (a :: s) else .yield (a :: s)

/-- The first `limit` elements of a feed, or all of them. A feed is not started at all for a limit
below one. -/
def collect {α : Type} (f : Feed α) (limit : Option Int) : List α :=
  if limit.any (· ≤ 0) then []
  else (f.serve (collector limit) []).value.reverse

end Feed

end LineMachine
