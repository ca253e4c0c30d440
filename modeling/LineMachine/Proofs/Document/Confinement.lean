import LineMachine.Proofs.Document.Protocol
import LineMachine.Proofs.File.Confinement

/-!
# The paths of a save

A save enters the folders of a name one by one and creates the file in the last of them. Each folder
is joined to the one before, so its path is what joining the elements up to there would give
(`Reaches`). Hence all paths that a host is asked for are inside of the first folder, and the file is
the one at the path of the whole name.
-/

namespace LineMachine.Document

variable {φ σ : Type}

/-- The calls by a path that an event on folders comes down to. -/
def Event.calls : Event Folder φ → List HostCall
  | enter d name _ => d.callsAt name .find
  | makeFolder d name _ _ => d.callsAt name .createFolder
  | create d name _ => d.callsAt name .createFile
  | write _ _ _ | close _ _ => []

section

variable {h : Host φ (StateM σ)} {before after : σ × List HostCall} {e : Event Folder φ}
  {es : List (Event Folder φ)}

theorem Event.Happens.calls_eq (he : e.Happens (Folder.store h.watched) before after) :
    after.2 = before.2 ++ e.calls := by
  obtain ⟨state, calls⟩ := before
  cases e with
  | enter d name r =>
      have hafter : ((d.enter h.watched name).run.run (state, calls)).2 = after :=
        congrArg Prod.snd he
      rw [← hafter]
      exact (Folder.calls_enter h d name state calls).1
  | makeFolder d name mode r =>
      have hafter : ((d.makeFolder h.watched name).run.run (state, calls)).2 = after :=
        congrArg Prod.snd he
      rw [← hafter]
      exact Folder.calls_makeFolder h d name state calls
  | create d name r =>
      have hafter : ((d.create h.watched name).run.run (state, calls)).2 = after :=
        congrArg Prod.snd he
      rw [← hafter]
      exact Folder.calls_create h d name state calls
  | write file data r => exact congrArg (fun p => (Prod.snd p).2) (Eq.symm he)
  | close file r => exact congrArg (fun p => (Prod.snd p).2) (Eq.symm he)

theorem Performed.calls_eq (hes : Performed (Folder.store h.watched) before es after) :
    after.2 = before.2 ++ es.flatMap Event.calls := by
  induction hes with
  | nil => simp
  | cons hhead _ ih => rw [ih, hhead.calls_eq, List.flatMap_cons, List.append_assoc]

/-- A folder that has been entered has the joined path. -/
theorem Performed.eq_of_enter (hes : Performed (Folder.store h.watched) before es after)
    {d d' : Folder} {name : Text} (hmem : .enter d name (.ok d') ∈ es) :
    d' = ⟨Path.join d.path name⟩ := by
  induction hes with
  | nil => cases hmem
  | cons hhead _ ih =>
      rcases List.mem_cons.mp hmem with rfl | hmem
      · exact ((Folder.calls_enter h d name _ _).2 d' (congrArg Prod.fst hhead)).2
      · exact ih hmem

end

/-! ### Folders on the way -/

/-- The folder is reached from `root` by going along `names`. -/
structure Reaches (root : Folder) (names : List Text) (d : Folder) : Prop where
  isRooted_eq : Path.isRooted d.path = Path.isRooted root.path
  cleanElements_eq : Path.cleanElements d.path = Path.cleanElements root.path ++ names

/-- The path from `root` along `names`. -/
def wayPath (root : Folder) (names : List Text) : Text :=
  Path.canonical (Path.isRooted root.path) (Path.cleanElements root.path ++ names)

namespace Reaches

variable {root d : Folder} {names : List Text} {e : Text}

theorem refl (root : Folder) : Reaches root [] root := ⟨rfl, (List.append_nil _).symm⟩

theorem join_eq (hd : Reaches root names d) (he : Path.IsSimple e) :
    Path.join d.path e = wayPath root (names ++ [e]) := by
  rw [Path.join_eq_canonical d.path he.isName he.ne_dot, hd.isRooted_eq, hd.cleanElements_eq,
    he.elements_eq, List.append_assoc, wayPath]

theorem join (hd : Reaches root names d) (he : Path.IsSimple e) :
    Reaches root (names ++ [e]) ⟨Path.join d.path e⟩ := by
  refine ⟨?_, ?_⟩
  · rw [Path.isRooted_join d.path he.isName he.ne_dot, hd.isRooted_eq]
  · rw [Path.cleanElements_join d.path he.isName he.ne_dot, hd.cleanElements_eq, he.elements_eq,
      List.append_assoc]

end Reaches

theorem inside_wayPath (root : Folder) {names : List Text}
    (h : ∀ e ∈ names, Path.IsSimple e) : Path.Inside (Path.clean root.path) (wayPath root names) :=
  Path.inside_canonical root.path fun e he =>
    ⟨(h e he).isElement, Path.slash_not_mem ((h e he).elements_eq ▸ List.mem_singleton_self e)⟩

/-- The call looks for a folder or makes one, on the way from `root` along `names`. -/
def OnWayCall (root : Folder) (names : List Text) (call : HostCall) : Prop :=
  ∃ part, part <+: names ∧
    (call = .find (wayPath root part) ∨ call = .createFolder (wayPath root part))

section

variable {h : Host φ (StateM σ)} {before after : σ × List HostCall} {root d : Folder}
  {name base text : Text} {front names : List Text} {es : List (Event Folder φ)} {call : HostCall}

theorem Entering.mem_calls {r : Except FileError Folder} (hes : Entering d name es r)
    (hname : Path.isName name = true) (hcall : call ∈ es.flatMap Event.calls) :
    call = .find (Path.join d.path name) ∨ call = .createFolder (Path.join d.path name) := by
  obtain ⟨e, he, hcall⟩ := List.mem_flatMap.mp hcall
  have hevent : (∃ r, e = .enter d name r) ∨ ∃ mode r, e = .makeFolder d name mode r := by
    cases hes <;> simp only [List.mem_cons, List.not_mem_nil, or_false] at he <;> grind
  rcases hevent with ⟨r, rfl⟩ | ⟨mode, r, rfl⟩
  · exact .inl (by simpa [Event.calls, Folder.callsAt, hname] using hcall)
  · exact .inr (by simpa [Event.calls, Folder.callsAt, hname] using hcall)

theorem Entering.enter_mem {d' : Folder} (hes : Entering d name es (.ok d')) :
    .enter d name (.ok d') ∈ es := by
  cases hes <;> simp

theorem Entering.onWay {r : Except FileError Folder} (hes : Entering d name es r)
    (hd : Reaches root front d) (hname : Path.IsSimple name) (names : List Text)
    (hcall : call ∈ es.flatMap Event.calls) : OnWayCall root (front ++ name :: names) call := by
  refine ⟨front ++ [name], (List.prefix_append_right_inj front).mpr ⟨names, rfl⟩, ?_⟩
  rw [← hd.join_eq hname]
  exact hes.mem_calls hname.isName hcall

/-- One folder after the other is looked for or made, and each is joined to the one before. -/
theorem EnteringAll.onWay {r : Except FileError Folder} (hentering : EnteringAll d names es r)
    (hes : Performed (Folder.store h.watched) before es after) (hd : Reaches root front d)
    (hnames : ∀ e ∈ names, Path.IsSimple e) :
    (∀ call ∈ es.flatMap Event.calls, OnWayCall root (front ++ names) call) ∧
      ∀ d', r = .ok d' → Reaches root (front ++ names) d' := by
  induction hentering generalizing front before with
  | nil d =>
      refine ⟨nofun, fun d' hd' => ?_⟩
      cases hd'
      rwa [List.append_nil]
  | stop hentering =>
      exact ⟨fun _ => hentering.onWay hd (hnames _ List.mem_cons_self) _, nofun⟩
  | next hentering _ ih =>
      obtain ⟨between, hperformed, hrest⟩ := performed_append_iff.mp hes
      have hname := hnames _ List.mem_cons_self
      have hd' := hd.join hname
      rw [← hperformed.eq_of_enter hentering.enter_mem] at hd'
      obtain ⟨hcalls, hreaches⟩ := ih hrest hd' fun e he => hnames e (List.mem_cons_of_mem _ he)
      rw [List.append_assoc, List.singleton_append] at hcalls hreaches
      refine ⟨fun call hcall => ?_, hreaches⟩
      rw [List.flatMap_append, List.mem_append] at hcall
      exact hcall.elim (hentering.onWay hd hname _) (hcalls call)

theorem Filing.calls_eq {r : Except FileError Unit} (hes : Filing d base text es r)
    (hbase : Path.isName base = true) :
    es.flatMap Event.calls = [.createFile (Path.join d.path base)] := by
  cases hes <;> simp [Event.calls, Folder.callsAt, hbase]

end

/-- The calls of a save under a name: first those on the way to the last folder, and then, if that
has been entered, one for the file at the joined path. -/
theorem calls_save (h : Host φ (StateM σ)) (root : Folder) {name : Text} (text : Text) (state : σ)
    (hname : Path.isName name = true) (hdot : name ≠ Path.dot) :
    ∃ result after entering filing,
      (save (Folder.store h.watched) root name text).run.run (state, []) =
        (result, after, entering ++ filing) ∧
      (∀ call ∈ entering, OnWayCall root (Path.elements name).dropLast call) ∧
      (filing = [.createFile (Path.join root.path name)] ∨ filing = [] ∧ ∃ e, result = .error e) := by
  generalize hrun : (save (Folder.store h.watched) root name text).run.run (state, []) = ran
  obtain ⟨result, after, calls⟩ := ran
  obtain ⟨es, r, hperformed, rfl, hsaving⟩ := saving_of_run_save hname hdot hrun
  obtain rfl : calls = es.flatMap Event.calls := hperformed.calls_eq
  have hsimple : ∀ e ∈ (Path.elements name).dropLast, Path.IsSimple e := fun e he =>
    Path.isSimple_of_mem_elements hname hdot (List.mem_of_mem_dropLast he)
  cases hsaving with
  | @notEntered _ e hentering =>
      refine ⟨.error ⟨name, e⟩, after, es.flatMap Event.calls, [], ?_,
        (hentering.onWay hperformed (.refl root) hsimple).1, .inr ⟨rfl, _, rfl⟩⟩
      rw [List.append_nil]
      rfl
  | filed hentering hfiling =>
      obtain ⟨between, hentered, -⟩ := performed_append_iff.mp hperformed
      obtain ⟨hcalls, hreaches⟩ := hentering.onWay hentered (.refl root) hsimple
      have hbase := Path.isSimple_base hname hdot
      have hfile := (hreaches _ rfl).join_eq hbase
      rw [List.nil_append, Path.dropLast_elements_append, wayPath,
        ← Path.join_eq_canonical root.path hname hdot] at hfile
      refine ⟨_, after, _, _, by rw [List.flatMap_append], hcalls, .inl ?_⟩
      rw [hfiling.calls_eq hbase.isName, hfile]

theorem calls_save_of_refused (h : Host φ (StateM σ)) (root : Folder) {name : Text} (text : Text)
    (state : σ) (hrefused : Path.isName name = false ∨ name = Path.dot) :
    (save (Folder.store h.watched) root name text).run.run (state, []) =
      (.error ⟨name, .bare .invalid⟩, state, []) := by
  have hrun : (saveAs (Folder.store h.watched) root name text).run.run (state, []) =
      (.error (.bare .invalid), state, []) := by
    rw [saveAs_of_refused _ root name text hrefused]
    rfl
  exact run_named hrun name

/-- Every path that a save addresses is inside of its folder, and the file that it creates is at the
joined path. -/
theorem inside_of_save (h : Host φ (StateM σ)) (root : Folder) (name text : Text) (state : σ) :
    ∃ result after calls,
      (save (Folder.store h.watched) root name text).run.run (state, []) =
        (result, after, calls) ∧
      (∀ call ∈ calls, Path.Inside (Path.clean root.path) call.path) ∧
      (∀ path, .createFile path ∈ calls →
        ∀ operation, root.join operation name = .ok path) ∧
      (result = .ok () → ∃ path, .createFile path ∈ calls) := by
  by_cases hrefused : Path.isName name = false ∨ name = Path.dot
  · exact ⟨_, _, _, calls_save_of_refused h root text state hrefused, nofun, nofun, nofun⟩
  rw [not_or, Bool.not_eq_false] at hrefused
  obtain ⟨hname, hdot⟩ := hrefused
  obtain ⟨result, after, entering, filing, hrun, hentering, hfiling⟩ :=
    calls_save h root text state hname hdot
  have hinside : ∀ call ∈ entering, Path.Inside (Path.clean root.path) call.path ∧
      ∀ path, call ≠ .createFile path := by
    intro call hcall
    obtain ⟨part, hpart, hcall⟩ := hentering call hcall
    have hsimple : ∀ e ∈ part, Path.IsSimple e := fun e he =>
      Path.isSimple_of_mem_elements hname hdot (List.mem_of_mem_dropLast (hpart.subset he))
    rcases hcall with rfl | rfl <;> exact ⟨inside_wayPath root hsimple, nofun⟩
  refine ⟨result, after, _, hrun, fun call hcall => ?_, fun path hpath operation => ?_, ?_⟩
  · rcases List.mem_append.mp hcall with hcall | hcall
    · exact (hinside call hcall).1
    · rcases hfiling with rfl | ⟨rfl, -⟩
      · rw [List.mem_singleton.mp hcall]
        exact Path.inside_join root.path hname
      · cases hcall
  · rcases List.mem_append.mp hpath with hpath | hpath
    · exact absurd rfl ((hinside _ hpath).2 path)
    · rcases hfiling with rfl | ⟨rfl, -⟩
      · cases List.mem_singleton.mp hpath
        exact Folder.join_eq_ok_iff.mpr ⟨hname, rfl⟩
      · cases hpath
  · rintro rfl
    rcases hfiling with rfl | ⟨-, e, he⟩
    · exact ⟨_, List.mem_append_right _ (List.mem_singleton_self _)⟩
    · cases he

/-- A folder is never left. A name is joined to it if and only if it is valid; then the elements of
the joined path are those of the cleaned folder and those of the name behind them, so that it is
inside, and creating, making and entering address it and nothing else. Joining two names one after
the other is joining them with a slash between them. Hence a save, which enters one folder after the
other, stays inside as well and creates the file at the path of the whole name. -/
theorem folder_is_never_left (r name : Text) :
    (∀ operation, (∃ path, Folder.join ⟨r⟩ operation name = .ok path) ↔ Path.Valid name) ∧
    (∀ operation path, Folder.join ⟨r⟩ operation name = .ok path →
      Path.clean path = path ∧ Path.steps path = Path.steps (Path.clean r) ++ Path.steps name ∧
      Path.Inside (Path.clean r) path ∧
      ∀ (h : Host φ (StateM σ)) (state : σ),
        ((Folder.create h.watched ⟨r⟩ name).run.run (state, [])).2.2 = [.createFile path] ∧
        ((Folder.makeFolder h.watched ⟨r⟩ name).run.run (state, [])).2.2 = [.createFolder path] ∧
        ((Folder.enter h.watched ⟨r⟩ name).run.run (state, [])).2.2 = [.find path] ∧
        ∀ d, ((Folder.enter h.watched ⟨r⟩ name).run.run (state, [])).1 = .ok d → d = ⟨path⟩) ∧
    (¬Path.Valid name →
      (∀ operation, Folder.join ⟨r⟩ operation name =
        .error (.path operation name (.fault .invalid))) ∧
      ∀ (h : Host φ (StateM σ)) (state : σ),
        ((Folder.create h.watched ⟨r⟩ name).run.run (state, [])).2.2 = [] ∧
        ((Folder.makeFolder h.watched ⟨r⟩ name).run.run (state, [])).2.2 = [] ∧
        ((Folder.enter h.watched ⟨r⟩ name).run.run (state, [])).2.2 = []) ∧
    (∀ a b operation, Path.Valid a → Path.Valid b → a ≠ Path.dot → b ≠ Path.dot →
      ∃ p q, Folder.join ⟨r⟩ operation a = .ok p ∧ Folder.join ⟨p⟩ operation b = .ok q ∧
        Folder.join ⟨r⟩ operation (a ++ Path.slash :: b) = .ok q) ∧
    ∀ (h : Host φ (StateM σ)) (text : Text) (state : σ), ∃ result after calls,
      (save (Folder.store h.watched) ⟨r⟩ name text).run.run (state, []) =
        (result, after, calls) ∧
      (∀ call ∈ calls, Path.Inside (Path.clean r) call.path) ∧
      (∀ path, .createFile path ∈ calls →
        ∀ operation, Folder.join ⟨r⟩ operation name = .ok path) ∧
      (result = .ok () → ∃ path, .createFile path ∈ calls) := by
  refine ⟨fun operation => ?_, fun operation path hpath => ?_, fun hrefused => ?_,
    fun a b operation ha hb hadot hbdot => ?_, fun h text => inside_of_save h ⟨r⟩ name text⟩
  · simp only [Folder.join_eq_ok_iff, exists_eq_right, Path.isName_iff_valid]
  · obtain ⟨hname, rfl⟩ := Folder.join_eq_ok_iff.mp hpath
    refine ⟨Path.clean_join r hname, Path.steps_join r hname, Path.inside_join r hname,
      fun h state => ?_⟩
    obtain ⟨henter, hentered⟩ := Folder.calls_enter h ⟨r⟩ name state []
    rw [Folder.calls_create, Folder.calls_makeFolder, henter, Folder.callsAt_of_join hpath,
      Folder.callsAt_of_join hpath, Folder.callsAt_of_join hpath]
    exact ⟨rfl, rfl, rfl, fun d hd => (hentered d hd).2⟩
  · rw [← Path.isName_iff_valid] at hrefused
    refine ⟨fun operation => if_neg hrefused, fun h state => ?_⟩
    rw [Folder.calls_create, Folder.calls_makeFolder, (Folder.calls_enter h ⟨r⟩ name state []).1,
      Folder.callsAt_of_refused hrefused, Folder.callsAt_of_refused hrefused,
      Folder.callsAt_of_refused hrefused]
    exact ⟨rfl, rfl, rfl⟩
  · rw [← Path.isName_iff_valid] at ha hb
    exact ⟨_, _, Folder.join_eq_ok_iff.mpr ⟨ha, rfl⟩, Folder.join_eq_ok_iff.mpr ⟨hb, rfl⟩,
      Folder.join_eq_ok_iff.mpr
        ⟨Path.isName_append_slash ha hb hadot hbdot, Path.join_join ha hb hadot hbdot r⟩⟩

/-- A folder by a path that is not cleaned. -/
def uncleanFolder : Folder := ⟨Text.ascii "x/..//data/."⟩

/-- In this folder a name with two elements is joined and saved to, and one that leads up is not. -/
theorem folder_is_never_left_unclean :
    Path.Valid (Text.ascii "notes") ∧ Path.Valid (Text.ascii "a.tom") ∧
      (∃ p q, uncleanFolder.join [] (Text.ascii "notes") = .ok p ∧
        Folder.join ⟨p⟩ [] (Text.ascii "a.tom") = .ok q ∧
        uncleanFolder.join [] (Text.ascii "notes/a.tom") = .ok q) ∧
      Path.Inside (Path.clean uncleanFolder.path) (Text.ascii "data/notes/a.tom") ∧
      (∃ after calls,
        (save (Folder.store Tree.host.watched) uncleanFolder (Text.ascii "notes/a.tom") []).run.run
          ({ items := [([Text.ascii "data"], .folder)] }, []) = (.ok (), after, calls) ∧
        .createFile (Text.ascii "data/notes/a.tom") ∈ calls) ∧
      ¬Path.Valid (Text.ascii "../a.tom") ∧
      uncleanFolder.join [] (Text.ascii "../a.tom") =
        .error (.path [] (Text.ascii "../a.tom") (.fault .invalid)) := by
  have hnotes : Path.Valid (Text.ascii "notes") := Path.isName_iff_valid.mp (by decide)
  have hfile : Path.Valid (Text.ascii "a.tom") := Path.isName_iff_valid.mp (by decide)
  have hup : ¬Path.Valid (Text.ascii "../a.tom") := by
    rw [← Path.isName_iff_valid]
    decide
  have hpath : uncleanFolder.join [] (Text.ascii "notes/a.tom") =
      .ok (Text.ascii "data/notes/a.tom") := by rfl
  obtain ⟨-, hjoined, -, hsteps, hsave⟩ := folder_is_never_left (φ := Route) (σ := Tree)
    uncleanFolder.path (Text.ascii "notes/a.tom")
  obtain ⟨-, -, hrefused, -, -⟩ := folder_is_never_left (φ := Route) (σ := Tree)
    uncleanFolder.path (Text.ascii "../a.tom")
  obtain ⟨result, after, calls, hrun, -, hplace, hcreated⟩ :=
    hsave Tree.host [] { items := [([Text.ascii "data"], .folder)] }
  have hok : ((save (Folder.store Tree.host.watched) ⟨uncleanFolder.path⟩
      (Text.ascii "notes/a.tom") []).run.run
        ({ items := [([Text.ascii "data"], .folder)] }, [])).1.isOk = true := by
    decide +kernel
  obtain rfl : result = .ok () := by
    rw [hrun] at hok
    cases result with
    | ok => rfl
    | error e => cases hok
  obtain ⟨path, hcall⟩ := hcreated rfl
  obtain rfl : Text.ascii "data/notes/a.tom" = path :=
    Except.ok.inj (hpath.symm.trans (hplace path hcall []))
  exact ⟨hnotes, hfile, hsteps _ _ [] hnotes hfile (by decide) (by decide),
    (hjoined [] _ hpath).2.2.1, ⟨after, calls, hrun, hcall⟩, hup, (hrefused hup).1 []⟩

end LineMachine.Document
