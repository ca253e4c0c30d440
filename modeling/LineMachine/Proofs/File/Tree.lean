import LineMachine.File.Tree
import LineMachine.Proofs.Computation
import LineMachine.Proofs.File.Path
import Mathlib.Data.List.Basic
import Mathlib.Tactic.SplitIfs

/-!
# Walking along a tree

What a tree holds is told by `get?`, and each operation by what it finds and by what `get?` gives
after it. The working folder stays the same. A walk that succeeds passes through folders only
(`Grounded`), so it also succeeds, and ends at the same route, in every tree that holds all of these
(`Includes`).
-/

namespace LineMachine

namespace Tree

/-! ### The view of a tree -/

theorem lookup_map_set (items : List (Route × Item)) (r r' : Route) (item : Item) :
    (items.map fun e => if e.1 = r then (r, item) else e).lookup r' =
      if r' = r then (items.lookup r).map fun _ => item else items.lookup r' := by
  induction items with
  | nil => simp
  | cons e items ih =>
      obtain ⟨k, i⟩ := e
      by_cases hk : k = r
      · by_cases hr : r' = r
        · simp [hk, hr]
        · have hne : (r' == r) = false := beq_false_of_ne hr
          simp only [List.map_cons, hk, if_true, List.lookup_cons, hne, ih, hr, if_false]
      · by_cases hr : r' = r
        · have hne : (r == k) = false := beq_false_of_ne (Ne.symm hk)
          simp only [hr] at ih
          simp only [List.map_cons, hk, if_false, List.lookup_cons, hne, ih, hr, if_true]
        · simp only [List.map_cons, hk, if_false, List.lookup_cons, ih, hr, if_false]

@[simp] theorem home_set (t : Tree) (r : Route) (item : Item) : (t.set r item).home = t.home := by
  rw [set]
  split <;> rfl

theorem get?_of_prefix_home {t : Tree} {r : Route} (h : r <+: t.home) : t.get? r = some .folder :=
  if_pos (List.isPrefixOf_iff_prefix.mpr h)

theorem get?_eq_lookup {t : Tree} {r : Route} (h : ¬r <+: t.home) : t.get? r = t.items.lookup r :=
  if_neg fun hbefore => h (List.isPrefixOf_iff_prefix.mp hbefore)

/-- An item may be put anywhere but in the place of a folder. -/
theorem get?_set (t : Tree) {r : Route} (hr : t.get? r ≠ some .folder) (item : Item) (r' : Route) :
    (t.set r item).get? r' = if r' = r then some item else t.get? r' := by
  by_cases hhome : r' <+: t.home
  · have hne : r' ≠ r := by
      rintro rfl
      exact hr (get?_of_prefix_home hhome)
    rw [if_neg hne, get?_of_prefix_home hhome, get?_of_prefix_home (by rwa [home_set])]
  · rw [get?_eq_lookup hhome, get?_eq_lookup (by rwa [home_set]), set]
    split
    · next h =>
      obtain ⟨old, hold⟩ := Option.isSome_iff_exists.mp h
      rw [lookup_map_set, hold]
      rfl
    · next h =>
      rw [Option.not_isSome_iff_eq_none] at h
      by_cases hr' : r' = r
      · simp [hr', List.lookup_append, h]
      · simp [hr', List.lookup_append, List.lookup_cons, beq_false_of_ne hr']

/-! ### Walking -/

@[simp] theorem walk_nil (t : Tree) (r : Route) : t.walk r [] = .ok r := rfl

theorem walk_cons_eq_ok_iff {t : Tree} {r q : Route} {e : Text} {es : List Text} :
    t.walk r (e :: es) = .ok q ↔ ∃ m, t.follow r e = .ok m ∧ t.walk m es = .ok q := by
  rw [walk, List.foldlM_cons, bind_eq_ok_iff]
  rfl

theorem walk_append_eq_ok_iff {t : Tree} {r q : Route} {es es' : List Text} :
    t.walk r (es ++ es') = .ok q ↔ ∃ m, t.walk r es = .ok m ∧ t.walk m es' = .ok q := by
  rw [walk, List.foldlM_append, bind_eq_ok_iff]
  rfl

theorem get?_of_follow {t : Tree} {r q : Route} {e : Text} (h : t.follow r e = .ok q) :
    t.get? r = some .folder := by
  by_contra hr
  rw [follow, if_pos hr] at h
  cases h

theorem follow_of_idle {t : Tree} {r : Route} {e : Text} (hr : t.get? r = some .folder)
    (he : e = [] ∨ e = Path.dot) : t.follow r e = .ok r := by
  have hidle : (e.isEmpty || e == Path.dot) = true := by simpa using he
  rw [follow, if_neg (not_not.mpr hr), if_pos hidle]

theorem walk_of_idle {t : Tree} {r : Route} {idle : List Text} (hr : t.get? r = some .folder)
    (h : ∀ e ∈ idle, e = [] ∨ e = Path.dot) : t.walk r idle = .ok r := by
  induction idle with
  | nil => rfl
  | cons e idle ih =>
      exact walk_cons_eq_ok_iff.mpr ⟨r, follow_of_idle hr (h e List.mem_cons_self),
        ih fun e he => h e (List.mem_cons_of_mem _ he)⟩

/-- An element of a name leads from a folder to an item in it. -/
theorem follow_eq_ok_iff {t : Tree} {r q : Route} {e : Text} (he : Path.isElement e = true) :
    t.follow r e = .ok q ↔ t.get? r = some .folder ∧ e.length ≤ elementLimit ∧
      (t.get? (r ++ [e])).isSome ∧ q = r ++ [e] := by
  obtain ⟨hempty, hdot, hdotDot⟩ := Path.isElement_iff.mp he
  have hidle : ¬(e.isEmpty || e == Path.dot) = true := by simp [hempty, hdot]
  have hup : ¬(e == Path.dotDot) = true := by simpa using hdotDot
  rw [follow, if_neg hidle, if_neg hup]
  split_ifs with hfolder hlong <;> grind

theorem follow_dotDot {t : Tree} {r : Route} (h : t.get? r = some .folder) :
    t.follow r Path.dotDot = .ok r.dropLast := by
  rw [follow, if_neg (not_not.mpr h), if_neg (by decide), if_pos (by decide)]

theorem start_prefix_home (t : Tree) (path : Text) : t.start path <+: t.home := by
  rw [start]
  split
  · exact List.nil_prefix
  · exact List.prefix_refl _

/-- Where a path starts is a folder. -/
@[simp] theorem get?_start (t : Tree) (path : Text) : t.get? (t.start path) = some .folder :=
  get?_of_prefix_home (t.start_prefix_home path)

/-- There is an item at the route, and there are folders all the way to it. -/
structure Grounded (t : Tree) (r : Route) : Prop where
  isSome : (t.get? r).isSome
  folders : ∀ r', r' <+: r → r' ≠ r → t.get? r' = some .folder

theorem grounded_start (t : Tree) (path : Text) : t.Grounded (t.start path) where
  isSome := by rw [get?_start]; rfl
  folders _ hbefore _ := get?_of_prefix_home (hbefore.trans (t.start_prefix_home path))

theorem Grounded.get?_of_folder {t : Tree} {r r' : Route} (h : t.Grounded r)
    (hr : t.get? r = some .folder) (hbefore : r' <+: r) : t.get? r' = some .folder := by
  by_cases heq : r' = r
  · rw [heq]
    exact hr
  · exact h.folders r' hbefore heq

theorem Grounded.follow {t : Tree} {r q : Route} (h : t.Grounded r) {e : Text}
    (hfollow : t.follow r e = .ok q) : t.Grounded q := by
  have hr := get?_of_follow hfollow
  rw [Tree.follow, if_neg (not_not.mpr hr)] at hfollow
  split_ifs at hfollow with _ _ _ hitem
  · rwa [← Except.ok.inj hfollow]
  · rw [← Except.ok.inj hfollow]
    have hup : ∀ r', r' <+: r.dropLast → t.get? r' = some .folder :=
      fun r' hbefore => h.get?_of_folder hr (hbefore.trans (List.dropLast_prefix r))
    exact ⟨by rw [hup _ (List.prefix_refl _)]; rfl, fun r' hbefore _ => hup r' hbefore⟩
  · rw [← Except.ok.inj hfollow]
    refine ⟨hitem, fun r' hbefore hne => ?_⟩
    rcases List.prefix_concat_iff.mp hbefore with rfl | hbefore
    · exact absurd rfl hne
    · exact h.get?_of_folder hr hbefore

theorem Grounded.walk {t : Tree} {r q : Route} (h : t.Grounded r) {es : List Text}
    (hwalk : t.walk r es = .ok q) : t.Grounded q := by
  induction es generalizing r with
  | nil =>
      rw [walk_nil] at hwalk
      rwa [← Except.ok.inj hwalk]
  | cons e es ih =>
      obtain ⟨m, hfollow, hrest⟩ := walk_cons_eq_ok_iff.mp hwalk
      exact ih (h.follow hfollow) hrest

/-- Elements of names lead straight down. -/
theorem eq_append_of_walk {t : Tree} {r q : Route} {es : List Text}
    (hes : ∀ e ∈ es, Path.isElement e = true) (hwalk : t.walk r es = .ok q) : q = r ++ es := by
  induction es generalizing r with
  | nil =>
      rw [walk_nil] at hwalk
      rw [← Except.ok.inj hwalk, List.append_nil]
  | cons e es ih =>
      obtain ⟨m, hfollow, hrest⟩ := walk_cons_eq_ok_iff.mp hwalk
      obtain ⟨-, -, -, rfl⟩ := (follow_eq_ok_iff (hes e List.mem_cons_self)).mp hfollow
      rw [ih (fun e he => hes e (List.mem_cons_of_mem _ he)) hrest, List.append_assoc,
        List.singleton_append]

/-! ### Trees that hold more -/

/-- A step needs the folder that it is made from and the item that it leads to. -/
theorem follow_congr {t t' : Tree} {r q : Route} {e : Text} (hfollow : t.follow r e = .ok q)
    (hr : t'.get? r = some .folder) (hq : (t.get? q).isSome → (t'.get? q).isSome) :
    t'.follow r e = .ok q := by
  rw [follow, if_neg (not_not.mpr (get?_of_follow hfollow))] at hfollow
  rw [follow, if_neg (not_not.mpr hr)]
  split_ifs at hfollow with hidle hup hlong hitem
  · rwa [if_pos hidle]
  · rwa [if_neg hidle, if_pos hup]
  · rw [← Except.ok.inj hfollow] at hq ⊢
    rw [if_neg hidle, if_neg hup, if_neg hlong, if_pos (hq hitem)]

/-- All items are still there, and folders are still folders. The working folder is the same. -/
structure Includes (t' t : Tree) : Prop where
  home : t'.home = t.home
  isSome : ∀ r, (t.get? r).isSome → (t'.get? r).isSome
  folder : ∀ r, t.get? r = some .folder → t'.get? r = some .folder

theorem Includes.start {t t' : Tree} (h : t'.Includes t) (path : Text) :
    t'.start path = t.start path := by
  rw [Tree.start, Tree.start, h.home]

theorem Includes.follow {t t' : Tree} (h : t'.Includes t) {r q : Route} {e : Text}
    (hfollow : t.follow r e = .ok q) : t'.follow r e = .ok q :=
  follow_congr hfollow (h.folder r (get?_of_follow hfollow)) (h.isSome q)

theorem Includes.walk {t t' : Tree} (h : t'.Includes t) {r q : Route} {es : List Text}
    (hwalk : t.walk r es = .ok q) : t'.walk r es = .ok q := by
  induction es generalizing r with
  | nil => exact hwalk
  | cons e es ih =>
      obtain ⟨m, hfollow, hrest⟩ := walk_cons_eq_ok_iff.mp hwalk
      exact walk_cons_eq_ok_iff.mpr ⟨m, h.follow hfollow, ih hrest⟩

theorem Includes.walk_start {t t' : Tree} (h : t'.Includes t) {path : Text} {q : Route}
    {es : List Text} (hwalk : t.walk (t.start path) es = .ok q) :
    t'.walk (t'.start path) es = .ok q := by
  rw [h.start]
  exact h.walk hwalk

/-- A walk to a folder only needs the folders. -/
theorem walk_of_folders {t t' : Tree} {r q : Route} {es : List Text}
    (h : ∀ r, t.get? r = some .folder → t'.get? r = some .folder) (hwalk : t.walk r es = .ok q)
    (hq : t.get? q = some .folder) : t'.walk r es = .ok q := by
  induction es generalizing r with
  | nil => exact hwalk
  | cons e es ih =>
      obtain ⟨m, hfollow, hrest⟩ := walk_cons_eq_ok_iff.mp hwalk
      refine walk_cons_eq_ok_iff.mpr ⟨m, ?_, ih hrest⟩
      have hm : t.get? m = some .folder := by
        cases es with
        | nil =>
            rw [walk_nil] at hrest
            rwa [Except.ok.inj hrest]
        | cons e' es =>
            obtain ⟨n, hnext, -⟩ := walk_cons_eq_ok_iff.mp hrest
            exact get?_of_follow hnext
      refine follow_congr hfollow (h r (get?_of_follow hfollow)) fun _ => ?_
      rw [h m hm]
      rfl

theorem includes_of_forall {t t' : Tree} (hhome : t'.home = t.home)
    (h : ∀ r, t'.get? r = t.get? r ∨ t.get? r ≠ some .folder ∧ (t'.get? r).isSome) :
    t'.Includes t := by
  refine ⟨hhome, fun r hr => ?_, fun r hr => ?_⟩
  · rcases h r with hsame | ⟨-, hsome⟩
    · rwa [hsame]
    · exact hsome
  · rcases h r with hsame | ⟨hfolder, -⟩
    · rwa [hsame]
    · exact absurd hr hfolder

/-- A file may be put anywhere but in the place of a folder. -/
theorem includes_of_get?_eq {t t' : Tree} {r : Route} {data : Text} (hhome : t'.home = t.home)
    (hr : t.get? r ≠ some .folder)
    (h : ∀ r', t'.get? r' = if r' = r then some (.file data) else t.get? r') : t'.Includes t := by
  apply includes_of_forall hhome
  intro r'
  rw [h]
  split
  · next heq => exact .inr ⟨heq ▸ hr, rfl⟩
  · exact .inl rfl

/-- There are folders at some of the routes where nothing was, and else nothing has changed. -/
structure Gains (t : Tree) (S : Route → Prop) (t' : Tree) : Prop where
  home : t'.home = t.home
  view : ∀ r, t'.get? r = t.get? r ∨ t.get? r = none ∧ t'.get? r = some .folder ∧ S r

namespace Gains

variable {t t' t'' : Tree} {S S' : Route → Prop}

theorem refl (t : Tree) (S : Route → Prop) : t.Gains S t := ⟨rfl, fun _ => .inl rfl⟩

theorem mono (h : t.Gains S t') (hS : ∀ r, S r → S' r) : t.Gains S' t' where
  home := h.home
  view r := (h.view r).imp_right fun ⟨hbefore, hafter, hr⟩ => ⟨hbefore, hafter, hS r hr⟩

theorem trans (h : t.Gains S t') (h' : t'.Gains S t'') : t.Gains S t'' := by
  refine ⟨h'.home.trans h.home, fun r => ?_⟩
  rcases h.view r with hr | ⟨hnone, hfolder, hr⟩
  · rw [← hr]
    exact h'.view r
  · rcases h'.view r with hr' | ⟨hnone', -, -⟩
    · exact .inr ⟨hnone, hr'.trans hfolder, hr⟩
    · rw [hfolder] at hnone'
      cases hnone'

theorem set_folder {r : Route} (h : t.get? r = none) (hr : S r) : t.Gains S (t.set r .folder) := by
  refine ⟨t.home_set r _, fun r' => ?_⟩
  rw [get?_set t (by simp [h])]
  by_cases hr' : r' = r
  · subst hr'
    exact .inr ⟨h, if_pos rfl, hr⟩
  · exact .inl (if_neg hr')

theorem includes (h : t.Gains S t') : t'.Includes t :=
  includes_of_forall h.home fun r => (h.view r).imp_right fun ⟨hbefore, hafter, _⟩ =>
    ⟨by simp [hbefore], by rw [hafter]; rfl⟩

end Gains

/-! ### Operations -/

/-- What a file holds that has been emptied and written to once. -/
theorem get?_append_set (t : Tree) {r : Route} (hr : t.get? r ≠ some .folder) (data : Text)
    (r' : Route) : ((t.set r (.file [])).append r data).get? r' =
      if r' = r then some (.file data) else t.get? r' := by
  have hfile : (t.set r (.file [])).get? r = some (.file []) := by rw [get?_set t hr, if_pos rfl]
  have happend : (t.set r (.file [])).append r data = (t.set r (.file [])).set r (.file data) := by
    rw [append, hfile]
    rfl
  rw [happend, get?_set _ (by simp [hfile]), get?_set t hr]
  split <;> rfl

@[simp] theorem home_append (t : Tree) (r : Route) (data : Text) :
    (t.append r data).home = t.home := by
  rw [append]
  split <;> simp

theorem accept_eq_ok_iff {path : Text} :
    accept path = .ok () ↔ 0 ∉ path ∧ path ≠ [] ∧ path.length < pathLimit := by
  rw [accept]
  split_ifs <;> simp_all

theorem resolve_eq_ok_iff {t : Tree} {path : Text} {q : Route} :
    t.resolve path = .ok q ↔
      accept path = .ok () ∧ t.walk (t.start path) (Path.elements path) = .ok q := by
  rw [resolve, bind_eq_ok_iff]
  constructor
  · rintro ⟨⟨⟩, haccept, hwalk⟩
    exact ⟨haccept, hwalk⟩
  · rintro ⟨haccept, hwalk⟩
    exact ⟨(), haccept, hwalk⟩

theorem Includes.resolve {t t' : Tree} (h : t'.Includes t) {path : Text} {q : Route}
    (hq : t.resolve path = .ok q) : t'.resolve path = .ok q := by
  rw [resolve_eq_ok_iff] at hq ⊢
  exact ⟨hq.1, h.walk_start hq.2⟩

theorem find_eq_ok_iff {t : Tree} {path : Text} {item : Item} :
    t.find path = .ok item ↔ accept path = .ok () ∧
      ∃ q, t.walk (t.start path) (Path.elements path) = .ok q ∧ t.get? q = some item := by
  have hitem : ∀ q, t.walk (t.start path) (Path.elements path) = .ok q →
      ((t.get? q).getD .folder = item ↔ t.get? q = some item) := by
    intro q hwalk
    obtain ⟨i, hi⟩ := Option.isSome_iff_exists.mp ((t.grounded_start path).walk hwalk).isSome
    rw [hi, Option.getD_some, Option.some.injEq]
  rw [find, bind_eq_ok_iff]
  constructor
  · rintro ⟨q, hresolve, hq⟩
    obtain ⟨haccept, hwalk⟩ := resolve_eq_ok_iff.mp hresolve
    exact ⟨haccept, q, hwalk, (hitem q hwalk).mp (Except.ok.inj hq)⟩
  · rintro ⟨haccept, q, hwalk, hq⟩
    exact ⟨q, resolve_eq_ok_iff.mpr ⟨haccept, hwalk⟩,
      congrArg Except.ok ((hitem q hwalk).mpr hq)⟩

theorem find_of_pathLimit_le (t : Tree) {path : Text} (hzero : 0 ∉ path)
    (hlong : pathLimit ≤ path.length) : t.find path = .error .nameTooLong := by
  have haccept : accept path = .error .nameTooLong := by
    have hne : path ≠ [] := by
      rintro rfl
      exact absurd hlong (by decide)
    simp [accept, hzero, hne, hlong]
  rw [find, resolve, haccept]
  rfl

section

variable {t : Tree} {path : Text} {before : List Text} {e : Text}

theorem lastElement_of_elements (hpath : Path.elements path = before ++ [e])
    (he : Path.isElement e = true) : lastElement path = some (before, e, false) := by
  have hempty := (Path.isElement_iff.mp he).1
  simp [lastElement, hpath, hempty]

theorem resolveNew_eq_ok_iff (hpath : Path.elements path = before ++ [e])
    (he : Path.isElement e = true) {a : Option (Route × Text × Bool)} :
    t.resolveNew path = .ok a ↔ accept path = .ok () ∧
      ∃ r, t.walk (t.start path) before = .ok r ∧ t.get? r = some .folder ∧
        a = some (r, e, false) := by
  obtain ⟨-, hdot, hdotDot⟩ := Path.isElement_iff.mp he
  have hlast : ¬(e == Path.dot || e == Path.dotDot) = true := by simp [hdot, hdotDot]
  rw [resolveNew, bind_eq_ok_iff, lastElement_of_elements hpath he]
  simp only [bind_eq_ok_iff, ite_throw_eq_ok_iff, if_neg hlast, pure_eq_ok_iff, not_not]
  constructor
  · rintro ⟨⟨⟩, haccept, hwalk⟩
    exact ⟨haccept, hwalk⟩
  · rintro ⟨haccept, hwalk⟩
    exact ⟨(), haccept, hwalk⟩

theorem createFile_eq_ok_iff (hpath : Path.elements path = before ++ [e])
    (he : Path.isElement e = true) {file : Route} {t' : Tree} :
    t.createFile path = .ok (file, t') ↔ accept path = .ok () ∧
      ∃ r, t.walk (t.start path) before = .ok r ∧ t.get? r = some .folder ∧
        e.length ≤ elementLimit ∧ t.get? (r ++ [e]) ≠ some .folder ∧
        file = r ++ [e] ∧ t' = t.set (r ++ [e]) (.file []) := by
  rw [createFile, bind_eq_ok_iff]
  simp only [resolveNew_eq_ok_iff hpath he]
  constructor
  · rintro ⟨a, ⟨haccept, r, hwalk, hfolder, rfl⟩, hcreate⟩
    simp only [ite_throw_eq_ok_iff, pure_eq_ok_iff, Prod.mk.injEq] at hcreate
    obtain ⟨-, hlong, hitem, rfl, rfl⟩ := hcreate
    exact ⟨haccept, r, hwalk, hfolder, Nat.not_lt.mp hlong, hitem, rfl, rfl⟩
  · rintro ⟨haccept, r, hwalk, hfolder, hlong, hitem, rfl, rfl⟩
    refine ⟨_, ⟨haccept, r, hwalk, hfolder, rfl⟩, ?_⟩
    simp only [ite_throw_eq_ok_iff, pure_eq_ok_iff]
    exact ⟨Bool.false_ne_true, Nat.not_lt.mpr hlong, hitem, trivial⟩

theorem createFolder_eq_ok_iff (hpath : Path.elements path = before ++ [e])
    (he : Path.isElement e = true) {t' : Tree} :
    t.createFolder path = .ok t' ↔ accept path = .ok () ∧
      ∃ r, t.walk (t.start path) before = .ok r ∧ t.get? r = some .folder ∧
        e.length ≤ elementLimit ∧ t.get? (r ++ [e]) = none ∧ t' = t.set (r ++ [e]) .folder := by
  rw [createFolder, bind_eq_ok_iff]
  simp only [resolveNew_eq_ok_iff hpath he]
  constructor
  · rintro ⟨a, ⟨haccept, r, hwalk, hfolder, rfl⟩, hcreate⟩
    simp only [ite_throw_eq_ok_iff, pure_eq_ok_iff] at hcreate
    obtain ⟨hlong, hitem, rfl⟩ := hcreate
    exact ⟨haccept, r, hwalk, hfolder, Nat.not_lt.mp hlong,
      Option.not_isSome_iff_eq_none.mp hitem, rfl⟩
  · rintro ⟨haccept, r, hwalk, hfolder, hlong, hitem, rfl⟩
    refine ⟨_, ⟨haccept, r, hwalk, hfolder, rfl⟩, ?_⟩
    simp only [ite_throw_eq_ok_iff, pure_eq_ok_iff]
    exact ⟨Nat.not_lt.mpr hlong, Option.not_isSome_iff_eq_none.mpr hitem, trivial⟩

end

end Tree

end LineMachine
