import LineMachine.Document
import LineMachine.Proofs.Computation
import LineMachine.Proofs.File.Tree
import LineMachine.Proofs.Loading

/-!
# Folders on a tree

What the operations of a folder do to a tree, each told by the operation of the tree that it comes
down to. Looking never changes the tree, and an operation that fails leaves it as it was.

Entering, creating and making folders address the joined path, which is cleaned: it leads to the
`place` of the folder, along the elements that cleaning leaves of the folder's path, and from there
along those of the name. Looking a name up goes along the folder's path as it is written.
-/

namespace LineMachine

/-- Where the cleaned path of a folder leads. -/
def Folder.place (d : Folder) (t : Tree) : Except SystemError Route :=
  t.walk (t.start d.path) (Path.cleanElements d.path)

theorem Folder.grounded_of_place {d : Folder} {t : Tree} {p : Route} (h : d.place t = .ok p) :
    t.Grounded p :=
  (t.grounded_start d.path).walk h

theorem Folder.place_of_includes {d : Folder} {t t' : Tree} {p : Route} (h : t'.Includes t)
    (hd : d.place t = .ok p) : d.place t' = .ok p :=
  h.walk_start hd

namespace Tree

section

variable {α : Type} {t : Tree} {f : Tree → Except SystemError (α × Tree)}

theorem run_change_of_eq_ok {p : α × Tree} (h : f t = .ok p) :
    (change f).run.run t = (.ok p.1, p.2) := by
  simp only [change, ExceptT.run_mk, StateT.run, h]

theorem run_change_of_eq_error {e : SystemError} (h : f t = .error e) :
    (change f).run.run t = (.error e, t) := by
  simp only [change, ExceptT.run_mk, StateT.run, h]

end

variable {t : Tree} {rooted : Bool} {es : List Text}

theorem walk_idle_append {p q : Route} {idle : List Text} (hp : t.get? p = some .folder)
    (h : ∀ e ∈ idle, e = [] ∨ e = Path.dot) :
    t.walk p (idle ++ es) = .ok q ↔ t.walk p es = .ok q := by
  rw [walk_append_eq_ok_iff]
  constructor
  · rintro ⟨m, hidle, hwalk⟩
    rw [walk_of_idle hp h] at hidle
    rwa [Except.ok.inj hidle]
  · exact fun hwalk => ⟨p, walk_of_idle hp h, hwalk⟩

/-- A canonical path leads along its elements. -/
theorem walk_canonical {q : Route} (h : Path.IsClean rooted es) :
    t.walk (t.start (Path.canonical rooted es)) (Path.elements (Path.canonical rooted es)) = .ok q ↔
      Folder.place ⟨Path.canonical rooted es⟩ t = .ok q := by
  obtain ⟨idle, helements, hidle⟩ :=
    Path.exists_elements_canonical rooted fun e he => (h.isStep e he).2.2
  rw [Folder.place, helements, walk_idle_append (t.get?_start _) hidle, h.cleanElements_canonical]

/-- A cleaned path leads to the place of its folder. -/
theorem walk_of_clean_eq {path : Text} {q : Route} (h : Path.clean path = path) :
    t.walk (t.start path) (Path.elements path) = .ok q ↔ Folder.place ⟨path⟩ t = .ok q := by
  have hwalk := walk_canonical (t := t) (q := q) (Path.isClean_cleanElements path)
  rwa [← Path.clean_eq_canonical, h] at hwalk

/-- Going on by one element leads where the cleaned way leads. A step up takes back the step down
before it. -/
theorem walk_cleanStep {p m q : Route} {e : Text} (h : Path.IsClean rooted es)
    (hp : rooted = true → p = []) (hwalk : t.walk p es = .ok m)
    (hfollow : t.follow m e = .ok q) :
    t.walk p (Path.cleanStep rooted es.reverse e).reverse = .ok q := by
  rcases Path.cleanStep_cases rooted es e with ⟨hidle, hstep⟩ | ⟨hrooted, rfl, rfl, hstep⟩ |
    ⟨front, last, rfl, hlast, rfl, hstep⟩ | ⟨-, -, hstep⟩
  · rw [hstep, List.reverse_reverse, hwalk, ← hfollow, follow_of_idle (get?_of_follow hfollow) hidle]
  · -- A step up from the root leads to the root.
    rw [walk_nil] at hwalk
    obtain rfl := Except.ok.inj hwalk
    rw [follow_dotDot (get?_of_follow hfollow), hp hrooted] at hfollow
    rw [hstep, hp hrooted]
    exact hfollow
  · obtain ⟨n, hfront, hdown⟩ := walk_append_eq_ok_iff.mp hwalk
    obtain ⟨m', hdown, hm⟩ := walk_cons_eq_ok_iff.mp hdown
    obtain ⟨hempty, hdot, -⟩ := h.isStep last (List.mem_append_right _ List.mem_cons_self)
    obtain ⟨-, -, -, rfl⟩ :=
      (follow_eq_ok_iff (Path.isElement_iff.mpr ⟨hempty, hdot, hlast⟩)).mp hdown
    rw [walk_nil] at hm
    rw [← Except.ok.inj hm] at hfollow
    rw [hstep, List.reverse_reverse, hfront, ← hfollow, follow_dotDot (get?_of_follow hfollow),
      List.dropLast_concat]
  · rw [hstep, List.reverse_cons, List.reverse_reverse]
    exact walk_append_eq_ok_iff.mpr ⟨m, hwalk, walk_cons_eq_ok_iff.mpr ⟨q, hfollow, rfl⟩⟩

theorem walk_foldl_cleanStep {p m q : Route} {raw : List Text} (h : Path.IsClean rooted es)
    (hp : rooted = true → p = []) (hraw : ∀ e ∈ raw, Path.slash ∉ e)
    (hwalk : t.walk p es = .ok m) (hrest : t.walk m raw = .ok q) :
    t.walk p (raw.foldl (Path.cleanStep rooted) es.reverse).reverse = .ok q := by
  induction raw generalizing es m with
  | nil =>
      rw [walk_nil] at hrest
      rw [List.foldl_nil, List.reverse_reverse, hwalk, hrest]
  | cons e raw ih =>
      obtain ⟨n, hfollow, hrest⟩ := walk_cons_eq_ok_iff.mp hrest
      have hnext := ih (h.cleanStep (hraw e List.mem_cons_self))
        (fun e he => hraw e (List.mem_cons_of_mem _ he)) (walk_cleanStep h hp hwalk hfollow) hrest
      rwa [List.reverse_reverse] at hnext

/-- A walk along a path as it is written ends at the place of the folder, if it ends at all. -/
theorem place_of_walk {path : Text} {q : Route}
    (h : t.walk (t.start path) (Path.elements path) = .ok q) : Folder.place ⟨path⟩ t = .ok q := by
  refine walk_foldl_cleanStep (.nil _) (fun hrooted => ?_) (fun _ he => Path.slash_not_mem he)
    (walk_nil t _) h
  rw [start, if_pos hrooted]

theorem place_of_resolve {path : Text} {q : Route} (h : t.resolve path = .ok q) :
    Folder.place ⟨path⟩ t = .ok q :=
  place_of_walk (resolve_eq_ok_iff.mp h).2

/-- The way to the last element of a canonical path. -/
theorem exists_before_canonical {e : Text} (h : Path.IsClean rooted (es ++ [e])) :
    ∃ before, Path.elements (Path.canonical rooted (es ++ [e])) = before ++ [e] ∧
      ∀ (t : Tree) (p q : Route), t.get? p = some .folder →
        (t.walk p before = .ok q ↔ t.walk p es = .ok q) := by
  obtain ⟨idle, helements, hidle⟩ :=
    Path.exists_elements_canonical rooted fun e he => (h.isStep e he).2.2
  exact ⟨idle ++ es, by rw [helements, List.append_assoc],
    fun t p q hp => walk_idle_append hp hidle⟩

end Tree

namespace Folder

variable {σ α : Type} {t t' : Tree} {d : Folder} {name : Text}

/-! ### Joined paths -/

section

variable (d : Folder) {q : Route} {item : Item}

theorem start_join (t : Tree) (hname : Path.isName name = true) (hdot : name ≠ Path.dot) :
    t.start (Path.join d.path name) = t.start d.path := by
  rw [Tree.start, Path.isRooted_join d.path hname hdot, Tree.start]

theorem place_join (hname : Path.isName name = true) (hdot : name ≠ Path.dot) :
    place ⟨Path.join d.path name⟩ t = .ok q ↔
      ∃ p, d.place t = .ok p ∧ t.walk p (Path.elements name) = .ok q := by
  rw [place, start_join d t hname hdot, Path.cleanElements_join d.path hname hdot,
    Tree.walk_append_eq_ok_iff]
  rfl

theorem find_join (hname : Path.isName name = true) (hdot : name ≠ Path.dot) :
    t.find (Path.join d.path name) = .ok item ↔ Tree.accept (Path.join d.path name) = .ok () ∧
      ∃ q, place ⟨Path.join d.path name⟩ t = .ok q ∧ t.get? q = some item := by
  rw [Tree.find_eq_ok_iff, Path.join_eq_canonical d.path hname hdot]
  simp only [Tree.walk_canonical (Path.isClean_append_elements d.path hname hdot)]

theorem zero_not_mem_of_accept_join (h : Tree.accept (Path.join d.path name) = .ok ())
    (hname : Path.isName name = true) (hdot : name ≠ Path.dot) : 0 ∉ name :=
  fun hzero => (Tree.accept_eq_ok_iff.mp h).1 ((Path.suffix_join d.path hname hdot).subset hzero)

/-- The way to a name with one element. -/
theorem exists_before_join {e : Text} (he : Path.IsSimple e) :
    ∃ before, Path.elements (Path.join d.path e) = before ++ [e] ∧
      ∀ (t : Tree) (q : Route),
        t.walk (t.start (Path.join d.path e)) before = .ok q ↔ d.place t = .ok q := by
  have hclean := Path.isClean_append_elements d.path he.isName he.ne_dot
  simp only [start_join d _ he.isName he.ne_dot]
  rw [Path.join_eq_canonical d.path he.isName he.ne_dot, he.elements_eq] at *
  obtain ⟨before, helements, hwalk⟩ := Tree.exists_before_canonical hclean
  exact ⟨before, helements, fun t q => hwalk t _ q (t.get?_start _)⟩

theorem createFile_join {e : Text} (he : Path.IsSimple e) {file : Route} :
    t.createFile (Path.join d.path e) = .ok (file, t') ↔
      Tree.accept (Path.join d.path e) = .ok () ∧
      ∃ r, d.place t = .ok r ∧ t.get? r = some .folder ∧
        e.length ≤ Tree.elementLimit ∧ t.get? (r ++ [e]) ≠ some .folder ∧
        file = r ++ [e] ∧ t' = t.set (r ++ [e]) (.file []) := by
  obtain ⟨before, helements, hwalk⟩ := exists_before_join d he
  simp only [Tree.createFile_eq_ok_iff helements he.isElement, hwalk]

theorem createFolder_join {e : Text} (he : Path.IsSimple e) :
    t.createFolder (Path.join d.path e) = .ok t' ↔
      Tree.accept (Path.join d.path e) = .ok () ∧
      ∃ r, d.place t = .ok r ∧ t.get? r = some .folder ∧
        e.length ≤ Tree.elementLimit ∧ t.get? (r ++ [e]) = none ∧
        t' = t.set (r ++ [e]) .folder := by
  obtain ⟨before, helements, hwalk⟩ := exists_before_join d he
  simp only [Tree.createFolder_eq_ok_iff helements he.isElement, hwalk]

end

/-! ### Operations that change the tree -/

theorem run_join_bind (d : Folder) (hname : Path.isName name = true) (operation : Text)
    (f : Text → ExceptT FileError (StateM σ) α) (s : σ) :
    (ExceptT.mk (pure (d.join operation name)) >>= f).run.run s =
      (f (Path.join d.path name)).run.run s := by
  apply run_bind_of_eq_ok
  rw [join, if_pos hname]
  rfl

theorem run_located_find (operation place path : Text) (t : Tree) :
    (located operation place (Tree.host.find path)).run.run t =
      ((t.find path).mapError fun e => .path operation place (.system e), t) := rfl

/-- An operation that changes the tree does so only if it succeeds. -/
theorem run_located_change {operation path : Text} {f : Tree → Except SystemError (α × Tree)}
    {r : Except FileError α}
    (h : (located operation path (Tree.change f)).run.run t = (r, t')) :
    (∃ a, r = .ok a ∧ f t = .ok (a, t')) ∨ (∃ e, r = .error e) ∧ t' = t := by
  rw [located, ExceptT.run_mk, StateT.run_bind] at h
  cases hf : f t with
  | ok p =>
      rw [Tree.run_change_of_eq_ok hf] at h
      obtain ⟨rfl, rfl⟩ := Prod.mk.inj h
      exact .inl ⟨p.1, rfl, rfl⟩
  | error e =>
      rw [Tree.run_change_of_eq_error hf] at h
      obtain ⟨rfl, rfl⟩ := Prod.mk.inj h
      exact .inr ⟨⟨_, rfl⟩, rfl⟩

theorem run_enter {r : Except FileError Folder} (hname : Path.isName name = true)
    (h : ((store Tree.host).enter d name).run.run t = (r, t')) :
    t' = t ∧ ∀ d', r = .ok d' →
      d' = ⟨Path.join d.path name⟩ ∧ t.find (Path.join d.path name) = .ok .folder := by
  have hlocated := run_located_find (Text.ascii "stat") (Path.join d.path name)
    (Path.join d.path name) t
  change (d.enter Tree.host name).run.run t = _ at h
  rw [enter, run_join_bind d hname] at h
  cases hfind : t.find (Path.join d.path name) with
  | error e =>
      rw [hfind] at hlocated
      rw [run_bind_of_eq_error hlocated] at h
      obtain ⟨rfl, rfl⟩ := Prod.mk.inj h
      exact ⟨rfl, nofun⟩
  | ok item =>
      rw [hfind] at hlocated
      rw [run_bind_of_eq_ok hlocated] at h
      cases item with
      | folder =>
          obtain ⟨rfl, rfl⟩ := Prod.mk.inj h
          exact ⟨rfl, fun d' hd' => ⟨(Except.ok.inj hd').symm, rfl⟩⟩
      | file data =>
          obtain ⟨rfl, rfl⟩ := Prod.mk.inj h
          exact ⟨rfl, nofun⟩

theorem run_makeFolder {mode : Nat} {r : Except FileError Unit} (hname : Path.isName name = true)
    (h : ((store Tree.host).makeFolder d name mode).run.run t = (r, t')) :
    (r = .ok () ∧ t.createFolder (Path.join d.path name) = .ok t') ∨
      (∃ e, r = .error e) ∧ t' = t := by
  change (d.makeFolder Tree.host name).run.run t = _ at h
  rw [makeFolder, run_join_bind d hname] at h
  refine (run_located_change h).imp_left ?_
  rintro ⟨⟨⟩, rfl, hcreate⟩
  refine ⟨rfl, ?_⟩
  cases hfolder : t.createFolder (Path.join d.path name) with
  | error e =>
      rw [hfolder] at hcreate
      cases hcreate
  | ok t'' =>
      rw [hfolder] at hcreate
      cases hcreate
      rfl

theorem run_create {r : Except FileError Route} (hname : Path.isName name = true)
    (h : ((store Tree.host).create d name).run.run t = (r, t')) :
    (∃ file, r = .ok file ∧ t.createFile (Path.join d.path name) = .ok (file, t')) ∨
      (∃ e, r = .error e) ∧ t' = t := by
  change (d.create Tree.host name).run.run t = _ at h
  rw [create, run_join_bind d hname] at h
  exact run_located_change h

/-! ### Looking things up -/

/-- The path by which a name is looked up. -/
def lookupPath (d : Folder) (name : Text) : Text :=
  if d.path.getLast? = some Path.slash then d.path ++ name else d.path ++ [Path.slash] ++ name

theorem locate_eq_ok (hname : Path.isName name = true) (hzero : 0 ∉ name) (hd : d.path ≠ [])
    (operation : Text) : d.locate operation name = .ok (d.lookupPath name) := by
  have haccepted : ¬(!Path.isName name || name.contains 0) = true := by simp [hname, hzero]
  rw [locate, if_neg (by simpa using hd), if_neg haccepted, lookupPath]
  split <;> rfl

/-- In a folder with a cleaned path a name is looked up where it is created, unless the folder is
the working folder. There the dot is put in front. -/
theorem lookupPath_eq_join (hd : Path.clean d.path = d.path) (hdot : d.path ≠ Path.dot)
    (hname : Path.isName name = true) (hname' : name ≠ Path.dot) :
    d.lookupPath name = Path.join d.path name := by
  have hclean := Path.isClean_cleanElements d.path
  rw [Path.clean_eq_canonical] at hd
  rw [Path.join_eq_canonical d.path hname hname', lookupPath]
  generalize Path.isRooted d.path = rooted at *
  generalize Path.cleanElements d.path = es at *
  have hne := Path.elements_ne_nil name
  cases es with
  | nil =>
      cases rooted with
      | false => exact absurd hd.symm hdot
      | true =>
          rw [← hd, List.nil_append, Path.canonical, Path.canonical, if_pos rfl, if_pos rfl,
            Path.ofElements_elements]
          exact if_pos rfl
  | cons e es =>
      have hjoin : Path.canonical rooted (e :: es ++ Path.elements name) =
          Path.canonical rooted (e :: es) ++ Path.slash :: name := by
        have happend := Path.ofElements_append (List.cons_ne_nil e es) hne
        rw [Path.ofElements_elements] at happend
        rw [Path.canonical, Path.canonical, happend]
        cases rooted <;> rfl
      have hlast := hclean.getLast?_canonical (List.cons_ne_nil e es)
      rw [hd] at hlast hjoin
      rw [hjoin, if_neg hlast, List.append_assoc, List.singleton_append]

theorem start_lookupPath (t : Tree) (hd : d.path ≠ []) (name : Text) :
    t.start (d.lookupPath name) = t.start d.path := by
  obtain ⟨b, rest, hpath⟩ := List.exists_cons_of_ne_nil hd
  rw [Tree.start, Tree.start, lookupPath, hpath]
  split <;> rfl

/-- Looking up leads along the folder's path and then along the name. -/
theorem walk_lookupPath (hd : d.path ≠ []) (name : Text) {q : Route} :
    t.walk (t.start (d.lookupPath name)) (Path.elements (d.lookupPath name)) = .ok q ↔
      ∃ p, t.walk (t.start d.path) (Path.elements d.path) = .ok p ∧
        t.walk p (Path.elements name) = .ok q := by
  rw [start_lookupPath t hd, lookupPath]
  split
  · next hslash =>
    -- the last slash of the path stands for an empty element, which is passed if there is a folder
    obtain ⟨front, hfront⟩ := List.getLast?_eq_some_iff.mp hslash
    obtain ⟨e, es, hname⟩ := List.exists_cons_of_ne_nil (Path.elements_ne_nil name)
    have helements : Path.elements (front ++ [Path.slash]) = Path.elements front ++ [[]] :=
      Path.elements_append_slash front []
    rw [hfront, helements, List.append_assoc, List.singleton_append, Path.elements_append_slash,
      Tree.walk_append_eq_ok_iff]
    constructor
    · rintro ⟨p, hfolder, hrest⟩
      have hrest' := hrest
      rw [hname, Tree.walk_cons_eq_ok_iff] at hrest'
      obtain ⟨m, hfollow, -⟩ := hrest'
      refine ⟨p, Tree.walk_append_eq_ok_iff.mpr ⟨p, hfolder, ?_⟩, hrest⟩
      exact Tree.walk_of_idle (Tree.get?_of_follow hfollow) (by simp)
    · rintro ⟨p, hfolder, hrest⟩
      obtain ⟨p', hfront, hidle⟩ := Tree.walk_append_eq_ok_iff.mp hfolder
      obtain ⟨m, hfollow, hm⟩ := Tree.walk_cons_eq_ok_iff.mp hidle
      have hstay := Tree.follow_of_idle (Tree.get?_of_follow hfollow) (.inl rfl)
      rw [hfollow] at hstay
      rw [Tree.walk_nil, Except.ok.inj hstay] at hm
      exact ⟨p', hfront, by rwa [Except.ok.inj hm]⟩
  · rw [List.append_assoc, List.singleton_append, Path.elements_append_slash,
      Tree.walk_append_eq_ok_iff]

theorem run_look {operation path : Text} (h : d.locate operation name = .ok path) (t : Tree) :
    (d.look Tree.host operation name).run.run t =
      ((t.find path).mapError fun e => .path operation name (.system e), t) := by
  rw [look, h]
  exact run_located_find operation name path t

end Folder

namespace Document

variable {t : Tree} {d : Folder} {name : Text}

theorem run_isRegular (hname : Path.isName name = true) (hzero : 0 ∉ name) (hd : d.path ≠ [])
    (t : Tree) :
    ((Folder.shelf Tree.host).isRegular d name).run.run t =
      (((t.find (d.lookupPath name)).mapError fun e =>
        .path (Text.ascii "stat") name (.system e)).map Folder.isFile, t) := by
  have hlook := Folder.run_look (Folder.locate_eq_ok hname hzero hd (Text.ascii "stat")) t
  change (Folder.stat Tree.host d name >>= fun item => pure (Folder.isFile item)).run.run t = _
  rw [Folder.stat]
  cases hfind : t.find (d.lookupPath name) with
  | error e =>
      rw [hfind] at hlook
      exact run_bind_of_eq_error hlook _
  | ok item =>
      rw [hfind] at hlook
      exact run_bind_of_eq_ok hlook _

/-- A file is loaded if its path leads to it, and else the error tells the name only. -/
theorem run_load_of_file {data : Text} (hname : Path.isName name = true) (hzero : 0 ∉ name)
    (hd : d.path ≠ []) (hfind : t.find (d.lookupPath name) = .ok (.file data)) :
    (load (Folder.shelf Tree.host) d name).run.run t = (.ok data.repair, t) := by
  have hregular := run_isRegular hname hzero hd t
  have hlook := Folder.run_look (Folder.locate_eq_ok hname hzero hd (Text.ascii "open")) t
  rw [hfind] at hregular hlook
  apply run_load_of_isRegular hregular
  exact run_bind_of_eq_ok hlook _

theorem run_load_of_error {e : SystemError} (hname : Path.isName name = true) (hzero : 0 ∉ name)
    (hd : d.path ≠ []) (hfind : t.find (d.lookupPath name) = .error e) :
    (load (Folder.shelf Tree.host) d name).run.run t =
      (.error ⟨name, .path (Text.ascii "stat") name (.system e)⟩, t) := by
  have hregular := run_isRegular hname hzero hd t
  rw [hfind] at hregular
  exact run_named (run_bind_of_eq_error hregular _) name

end Document

end LineMachine
