import LineMachine.Proofs.CommandLine.Compiling

/-!
# The files that the program touches

The program may change two files, the one it saves the program text to and the one it puts its
output in. `Rewrites` says that a tree differs from another in some files only. `Confined` says it
of a step of the program, and it holds of a compound step if it holds of its parts.

Which file a path names is told by the tree after the run, where the file is.
-/

namespace LineMachine

/-! ### Rewritten files -/

namespace Tree

/-- Files have been put at some of the routes, in the place of no folder, and else nothing has
changed. -/
structure Rewrites (t : Tree) (S : Route → Prop) (t' : Tree) : Prop where
  home : t'.home = t.home
  view : ∀ r, t'.get? r = t.get? r ∨
    S r ∧ t.get? r ≠ some .folder ∧ ∃ data, t'.get? r = some (.file data)

namespace Rewrites

variable {t t' t'' : Tree} {S S' : Route → Prop}

theorem refl (t : Tree) (S : Route → Prop) : t.Rewrites S t := ⟨rfl, fun _ => .inl rfl⟩

theorem mono (h : t.Rewrites S t') (hS : ∀ r, S r → S' r) : t.Rewrites S' t' where
  home := h.home
  view r := (h.view r).imp_right fun ⟨hr, hfile⟩ => ⟨hS r hr, hfile⟩

theorem trans (h : t.Rewrites S t') (h' : t'.Rewrites S t'') : t.Rewrites S t'' := by
  refine ⟨h'.home.trans h.home, fun r => ?_⟩
  rcases h.view r with hr | ⟨hr, hfolder, data, hdata⟩
  · rw [← hr]
    exact h'.view r
  · refine .inr ⟨hr, hfolder, ?_⟩
    rcases h'.view r with hr' | ⟨-, -, hfile⟩
    · exact ⟨data, hr'.trans hdata⟩
    · exact hfile

theorem includes (h : t.Rewrites S t') : t'.Includes t :=
  includes_of_forall h.home fun r => (h.view r).imp_right fun ⟨_, hfolder, _, hdata⟩ =>
    ⟨hfolder, by rw [hdata]; rfl⟩

theorem of_get?_eq {r : Route} {data : Text} (hS : S r) (hhome : t'.home = t.home)
    (hr : t.get? r ≠ some .folder)
    (h : ∀ r', t'.get? r' = if r' = r then some (.file data) else t.get? r') :
    t.Rewrites S t' := by
  refine ⟨hhome, fun r' => ?_⟩
  rw [h]
  split
  · next heq => exact .inr ⟨heq ▸ hS, heq ▸ hr, data, rfl⟩
  · exact .inl rfl

theorem set_file {r : Route} (hS : S r) (hr : t.get? r ≠ some .folder) (data : Text) :
    t.Rewrites S (t.set r (.file data)) :=
  of_get?_eq hS (t.home_set r _) hr (t.get?_set hr _)

theorem append {r : Route} (hS : S r) (data : Text) : t.Rewrites S (t.append r data) := by
  rw [Tree.append]
  split
  · next old hold => exact set_file hS (by simp [hold]) _
  · exact .refl t S

end Rewrites

/-- A file in a folder is where the path to the folder and its own element lead. -/
theorem resolve_concat {t t' : Tree} {path e : Text} {before : List Text} {r : Route}
    (ht : t'.Includes t) (haccept : accept path = .ok ())
    (hpath : Path.elements path = before ++ [e]) (he : Path.isElement e = true)
    (hwalk : t.walk (t.start path) before = .ok r) (hfolder : t.get? r = some .folder)
    (hlength : e.length ≤ elementLimit) (hitem : (t'.get? (r ++ [e])).isSome) :
    t'.resolve path = .ok (r ++ [e]) := by
  rw [resolve_eq_ok_iff, hpath, walk_append_eq_ok_iff]
  refine ⟨haccept, _, ht.walk_start hwalk, walk_cons_eq_ok_iff.mpr ⟨_, ?_, rfl⟩⟩
  exact (follow_eq_ok_iff he).mpr ⟨ht.folder r hfolder, hlength, hitem, rfl⟩

theorem elements_of_lastElement {path e : Text} {before : List Text}
    (h : lastElement path = some (before, e, false)) :
    Path.elements path = before ++ [e] ∧ e ≠ [] := by
  rw [lastElement] at h
  cases hes : (Path.elements path).reverse with
  | nil => simp [hes] at h
  | cons last rest =>
      have hpath : Path.elements path = rest.reverse ++ [last] := by
        rw [← List.reverse_reverse (Path.elements path), hes, List.reverse_cons]
      cases last with
      | nil =>
          rw [hes] at h
          split at h
          · cases h
          · simp at h
      | cons b last =>
          simp [hes] at h
          obtain ⟨rfl, rfl⟩ := h
          exact ⟨hpath, List.cons_ne_nil _ _⟩

theorem exists_elements_of_createFile {t : Tree} {path : Text} {created : Route × Tree}
    (h : t.createFile path = .ok created) :
    ∃ before e, Path.elements path = before ++ [e] ∧ Path.isElement e = true := by
  rw [createFile, bind_eq_ok_iff] at h
  obtain ⟨a, hnew, hcreate⟩ := h
  rw [resolveNew, bind_eq_ok_iff] at hnew
  obtain ⟨⟨⟩, -, hnew⟩ := hnew
  rcases hlast : lastElement path with _ | ⟨before, e, slashed⟩
  · rw [hlast, pure_eq_ok_iff] at hnew
    subst hnew
    cases hcreate
  · simp only [hlast, bind_eq_ok_iff, ite_throw_eq_ok_iff] at hnew
    obtain ⟨p, -, -, hnew⟩ := hnew
    split at hnew
    · rw [pure_eq_ok_iff] at hnew
      subst hnew
      cases hcreate
    · next hdots =>
      rw [pure_eq_ok_iff] at hnew
      subst hnew
      simp only [ite_throw_eq_ok_iff, Bool.not_eq_true] at hcreate
      rw [hcreate.1] at hlast
      obtain ⟨hpath, hempty⟩ := elements_of_lastElement hlast
      exact ⟨before, e, hpath, Path.isElement_iff.mpr ⟨hempty, by simpa using hdots⟩⟩

/-- A file that is created is where its path leads afterwards. -/
theorem rewrites_of_createFile {t t' : Tree} {path : Text} {file : Route}
    (h : t.createFile path = .ok (file, t')) :
    t.Rewrites (· = file) t' ∧ t'.resolve path = .ok file := by
  obtain ⟨before, e, hpath, he⟩ := exists_elements_of_createFile h
  obtain ⟨haccept, r, hwalk, hfolder, hlength, hfree, rfl, rfl⟩ :=
    (createFile_eq_ok_iff hpath he).mp h
  have hrewrites := Rewrites.set_file (S := (· = r ++ [e])) rfl hfree []
  refine ⟨hrewrites, resolve_concat hrewrites.includes haccept hpath he hwalk hfolder hlength ?_⟩
  rw [get?_set t hfree, if_pos rfl]
  rfl

end Tree

/-! ### Steps on a tree -/

namespace CommandLine

/-- The failure comes before the task: the locale is unknown, a document cannot be loaded or saved,
or there is nothing to do. -/
def ProgramError.precedesTask : ProgramError → Bool
  | .locale _ _ | .document _ | .nothingToDo => true
  | .file _ | .lesson _ _ => false

theorem precedesTask_of_mapError {ε α : Type} {f : ε → ProgramError}
    (hf : ∀ e, (f e).precedesTask = false) {r : Except ε α} {e : ProgramError}
    (h : r.mapError f = .error e) : e.precedesTask = false := by
  cases r with
  | ok a => cases h
  | error cause =>
      cases h
      exact hf cause

namespace Step

variable {α β : Type} {c c' : Console} {t t' : Tree}

theorem runOn_tryCatch_of_eq_ok {x : Step (StateM Tree) α} {a : α}
    (h : x.runOn c t = ((.ok a, c'), t')) (f : ProgramError → Step (StateM Tree) α) :
    runOn (tryCatch x f) c t = ((.ok a, c'), t') := by
  rw [runOn, ExceptT.run_tryCatch, StateT.run_bind, StateT.run_bind, ← runOn, h]
  rfl

theorem runOn_tryCatch_of_eq_error {x : Step (StateM Tree) α} {e : ProgramError}
    (h : x.runOn c t = ((.error e, c'), t')) (f : ProgramError → Step (StateM Tree) α) :
    runOn (tryCatch x f) c t = runOn (f e) c' t' := by
  rw [runOn, ExceptT.run_tryCatch, StateT.run_bind, StateT.run_bind, ← runOn, h]
  rfl

theorem runOn_onFiles {x : ExceptT FileError (StateM Tree) α} {r : Except FileError α}
    (h : x.run.run t = (r, t')) (c : Console) :
    (onFiles x).runOn c t = ((r.mapError .file, c), t') := by
  rw [onFiles, runOn_bind_of_eq_ok (runOn_lift h c)]
  cases r <;> rfl

/-- The step changes files at some of the routes only, and its failures are those of a task. -/
def Confined (S : Route → Prop) (x : Step (StateM Tree) α) : Prop :=
  ∀ ⦃c t r c' t'⦄, x.runOn c t = ((r, c'), t') →
    t.Rewrites S t' ∧ ∀ e, r = .error e → e.precedesTask = false

namespace Confined

variable {S : Route → Prop} {x : Step (StateM Tree) α}

theorem ret (a : α) : Confined S (pure a) := by
  intro c t r c' t' h
  cases h
  exact ⟨.refl t S, nofun⟩

theorem fail {e : ProgramError} (he : e.precedesTask = false) :
    Confined S (throw e : Step (StateM Tree) α) := by
  intro c t r c' t' h
  cases h
  refine ⟨.refl t S, fun e' he' => ?_⟩
  cases he'
  exact he

theorem bind {f : α → Step (StateM Tree) β} (hx : Confined S x) (hf : ∀ a, Confined S (f a)) :
    Confined S (x >>= f) := by
  intro c t r c' t' h
  rcases hrun : x.runOn c t with ⟨⟨e | a, c₁⟩, t₁⟩
  · rw [runOn_bind_of_eq_error hrun] at h
    cases h
    obtain ⟨htree, herror⟩ := hx hrun
    refine ⟨htree, fun e' he' => ?_⟩
    cases he'
    exact herror e rfl
  · rw [runOn_bind_of_eq_ok hrun] at h
    obtain ⟨htree, herror⟩ := hf a h
    exact ⟨(hx hrun).1.trans htree, herror⟩

theorem handle {f : ProgramError → Step (StateM Tree) α} (hx : Confined S x)
    (hf : ∀ e, e.precedesTask = false → Confined S (f e)) : Confined S (tryCatch x f) := by
  intro c t r c' t' h
  rcases hrun : x.runOn c t with ⟨⟨e | a, c₁⟩, t₁⟩
  · rw [runOn_tryCatch_of_eq_error hrun] at h
    obtain ⟨htree, herror⟩ := hf e ((hx hrun).2 e rfl) h
    exact ⟨(hx hrun).1.trans htree, herror⟩
  · rw [runOn_tryCatch_of_eq_ok hrun] at h
    cases h
    exact ⟨(hx hrun).1, nofun⟩

theorem onConsole (f : Console → Console) : Confined S (modify f : Step (StateM Tree) PUnit) := by
  intro c t r c' t' h
  cases h
  exact ⟨.refl t S, nofun⟩

theorem check {ε : Type} {f : ε → ProgramError} (hf : ∀ e, (f e).precedesTask = false)
    (r : Except ε α) : Confined S (Step.check (r.mapError f)) := by
  intro c t r' c' t' h
  rw [runOn_check] at h
  cases h
  exact ⟨.refl t S, fun _ => precedesTask_of_mapError hf⟩

theorem onFiles {x : ExceptT FileError (StateM Tree) α}
    (hx : ∀ t : Tree, t.Rewrites S (x.run.run t).2) : Confined S (Step.onFiles x) := by
  intro c t r c' t' h
  have htree := hx t
  rcases hrun : x.run.run t with ⟨r', t₁⟩
  rw [hrun] at htree
  rw [runOn_onFiles hrun] at h
  cases h
  exact ⟨htree, fun _ => precedesTask_of_mapError fun _ => rfl⟩

end Confined

end Step

/-! ### The task -/

section

variable {S : Route → Prop} (o : Options) (file : Option Route) (e : Emulator)

theorem confined_located_find (operation place path : Text) :
    Step.Confined S (Step.onFiles (Folder.located operation place (Tree.host.find path))) := by
  apply Step.Confined.onFiles
  intro t
  rw [Folder.run_located_find]
  exact .refl t S

theorem confined_put (text : Text) : Step.Confined (· ∈ file) (put Tree.host o file text) := by
  cases file with
  | none => exact .onConsole _
  | some file =>
      apply Step.Confined.onFiles
      exact fun t => .append (S := (· ∈ some file)) rfl text

theorem confined_readLesson : Step.Confined S (readLesson Tree.host o) := by
  apply (confined_located_find _ _ _).bind
  intro item
  cases item with
  | file source => exact .ret source
  | folder => exact .fail rfl

theorem confined_executeLesson : Step.Confined (· ∈ file) (executeLesson Tree.host o file e) := by
  apply (confined_readLesson o).bind
  intro source
  apply (Step.Confined.onConsole _).bind
  rintro ⟨⟩
  apply ((confined_put o file _).handle fun _ _ => .ret ()).bind
  rintro ⟨⟩
  exact .check (fun _ => rfl) _

theorem confined_perform : Step.Confined (· ∈ file) (perform Tree.host o file e) := by
  rw [perform]
  split
  · apply (Step.Confined.onConsole _).bind
    rintro ⟨⟩
    exact confined_put o file _
  · exact confined_executeLesson o file e

/-- The output is put in the file that its path leads to afterwards. -/
theorem rewrites_performInFile {c c' : Console} {t t' : Tree} {r : Except ProgramError Unit}
    (h : (performInFile Tree.host o e).runOn c t = ((r, c'), t')) :
    t.Rewrites (fun route => t'.resolve o.output = .ok route) t' ∧
      ∀ err, r = .error err → err.precedesTask = false := by
  generalize hcreate : (Folder.located (Text.ascii "open") o.output
    (Tree.host.createFile o.output)).run.run t = created
  obtain ⟨r', t₁⟩ := created
  have hrun := Step.runOn_onFiles hcreate c
  rw [performInFile] at h
  rcases Folder.run_located_change hcreate with ⟨file, rfl, hfile⟩ | ⟨⟨err, rfl⟩, rfl⟩
  · rw [Step.runOn_bind_of_eq_ok hrun] at h
    obtain ⟨hcreated, hresolve⟩ := Tree.rewrites_of_createFile hfile
    have hclose : Step.Confined (· ∈ some file) (Step.onFiles
        (Folder.located (Text.ascii "close") o.output (Tree.host.close file))) :=
      .onFiles fun t => .refl t _
    have hrest := ((confined_perform o (some file) e).handle fun err herr =>
      (hclose.handle fun _ _ => .ret ()).bind fun _ => .fail herr).bind fun _ => hclose
    obtain ⟨htask, herror⟩ := hrest h
    -- Both the new file and what is put in it are at one route, and the path still leads there.
    refine ⟨(hcreated.mono ?_).trans (htask.mono ?_), herror⟩
    · rintro _ rfl
      exact htask.includes.resolve hresolve
    · rintro _ ⟨⟩
      exact htask.includes.resolve hresolve
  · rw [Step.runOn_bind_of_eq_error hrun] at h
    cases h
    exact ⟨.refl _ _, fun _ herr => by cases herr; rfl⟩

end

/-! ### What comes before the task -/

section

variable {α β : Type} {c : Console} {t : Tree}

theorem run_bind_tree {ε : Type} {x : ExceptT ε (StateM Tree) α}
    {f : α → ExceptT ε (StateM Tree) β} (hx : (x.run.run t).2 = t)
    (hf : ∀ a, ((f a).run.run t).2 = t) : ((x >>= f).run.run t).2 = t := by
  rcases hrun : x.run.run t with ⟨e | a, t₁⟩ <;> rw [hrun] at hx <;> cases hx
  · rw [run_bind_of_eq_error hrun]
  · rw [run_bind_of_eq_ok hrun]
    exact hf a

theorem Step.exists_runOn_eq {x : Step (StateM Tree) α} (h : (x.runOn c t).2 = t) :
    ∃ r c', x.runOn c t = ((r, c'), t) :=
  ⟨_, _, Prod.ext rfl h⟩

theorem Step.runOn_bind_tree {x : Step (StateM Tree) α} {f : α → Step (StateM Tree) β}
    (hx : (x.runOn c t).2 = t) (hf : ∀ a c, ((f a).runOn c t).2 = t) :
    ((x >>= f : Step (StateM Tree) β).runOn c t).2 = t := by
  obtain ⟨r, c₁, hrun⟩ := exists_runOn_eq hx
  cases r with
  | error e => rw [runOn_bind_of_eq_error hrun]
  | ok a =>
      rw [runOn_bind_of_eq_ok hrun]
      exact hf a c₁

theorem run_look_tree (d : Folder) (operation name : Text) (t : Tree) :
    ((d.look Tree.host operation name).run.run t).2 = t := by
  cases hlocate : d.locate operation name with
  | ok path => rw [Folder.run_look hlocate]
  | error e =>
      rw [Folder.look, hlocate]
      rfl

theorem run_load_tree (d : Folder) (name : Text) (t : Tree) :
    ((Document.load (Folder.shelf Tree.host) d name).run.run t).2 = t := by
  have hload : ((Document.loadFrom (Folder.shelf Tree.host) d name).run.run t).2 = t := by
    apply run_bind_tree
    · exact run_bind_tree (run_look_tree d _ name t) fun _ => rfl
    · rintro (_ | _)
      · rfl
      · refine run_bind_tree (run_bind_tree (run_look_tree d _ name t) ?_) fun _ => rfl
        rintro (_ | _) <;> rfl
  -- The document is named in an error without another look at the tree.
  exact hload

theorem run_emulator_load_tree (d : Folder) (name : Text) (e : Emulator) (t : Tree) :
    ((e.load (Folder.shelf Tree.host) d name).run t).2 = t := by
  have hload := run_load_tree d name t
  rw [Emulator.load, StateT.run_bind]
  generalize (Document.load (Folder.shelf Tree.host) d name).run.run t = loaded at hload
  obtain ⟨err | text, t₁⟩ := loaded <;> exact hload

theorem runOn_chooseLocale_tree (tags : Locale.Tags) (o : Options) (c : Console) (t : Tree) :
    ((chooseLocale tags o : Step (StateM Tree) Unit).runOn c t).2 = t := by
  rw [chooseLocale]
  split
  · rfl
  · cases tags o.locale <;> rfl

theorem runOn_loadProgram_tree (o : Options) (c : Console) (t : Tree) :
    ((loadProgram Tree.host o).runOn c t).2 = t := by
  rw [loadProgram]
  split
  · split <;> rfl
  · apply Step.runOn_bind_tree
    · exact run_emulator_load_tree _ _ _ t
    · rintro ⟨loaded, r, told⟩ c
      refine Step.runOn_bind_tree rfl fun _ c => Step.runOn_bind_tree ?_ fun _ c => ?_
      · rw [Step.runOn_check]
      · split <;> rfl

end

section

variable {o : Options} {e : Emulator} {c c' : Console} {t t' : Tree}

/-- The route is where the program text is saved. -/
def Options.WritesTo (o : Options) (t : Tree) (r : Route) : Prop :=
  o.write ≠ [] ∧ t.resolve (Path.clean o.write) = .ok r

/-- The route is where the output is put. -/
def Options.OutputsTo (o : Options) (t : Tree) (r : Route) : Prop :=
  o.toConsole = false ∧ t.resolve o.output = .ok r

/-- The folder and the name that a path is made of lead to the cleaned path. -/
theorem join_splitPath {path name : Text} {d : Folder} (h : splitPath path = (d, name))
    (hname : Path.IsSimple name) : Path.join d.path name = Path.clean path := by
  rcases (splitPath_cases h).2 with ⟨hdot, rfl, -⟩ | ⟨⟨front, hfront⟩, hpath, -⟩
  · have hjoin : Path.join [] name = Path.clean name := by
      simp [Path.join, (Path.isElement_iff.mp hname.isElement).1]
    rw [hdot, ← hjoin, Path.join_eq_canonical _ hname.isName hname.ne_dot,
      Path.join_eq_canonical _ hname.isName hname.ne_dot]
    rfl
  · rw [hpath, hfront, Path.join_append_slash front hname, List.append_assoc,
      List.singleton_append]

theorem rewrites_of_filed {d : Folder} {name text : Text} {route : Route}
    (hname : Path.IsSimple name) (h : Document.Filed d name text route t t') :
    t.Rewrites (fun r => t'.resolve (Path.join d.path name) = .ok r) t' := by
  obtain ⟨before, helements, hwalk⟩ := Folder.exists_before_join d hname
  refine .of_get?_eq ?_ h.home h.replaced h.get?_eq
  apply Tree.resolve_concat h.includes h.accepted helements hname.isElement
    ((hwalk t _).mpr h.place) h.folder h.length_le
  rw [h.get?_eq, if_pos rfl]
  rfl

/-- A save of the program text puts it in the file at the cleaned path or changes nothing. -/
theorem run_save_splitPath {path text : Text} {r : Except DocumentError Unit}
    (h : (Document.save (Folder.store Tree.host) (splitPath path).1 (splitPath path).2
      text).run.run t = (r, t')) :
    (∃ err, r = .error err) ∧ t' = t ∨ r = .ok () ∧
      t.Rewrites (fun r => t'.resolve (Path.clean path) = .ok r) t' := by
  obtain ⟨d, name, hsplit⟩ : ∃ d name, splitPath path = (d, name) := ⟨_, _, rfl⟩
  rw [hsplit] at h
  by_cases hrefused : Path.isName name = false ∨ name = Path.dot
  · rw [Document.save, Document.saveAs_of_refused _ _ _ _ hrefused] at h
    cases h
    exact .inl ⟨⟨_, rfl⟩, rfl⟩
  · rw [not_or, Bool.not_eq_false] at hrefused
    have hname : Path.IsSimple name :=
      ⟨hrefused.1, hrefused.2, Path.elements_of_not_mem (splitPath_cases hsplit).1⟩
    refine (Document.run_save_of_isSimple hname h).imp_right ?_
    rintro ⟨hok, route, hfiled⟩
    rw [← join_splitPath hsplit hname]
    exact ⟨hok, rewrites_of_filed hname hfiled⟩

theorem runOn_saveProgram_cases {r : Except ProgramError Unit}
    (h : (saveProgram Tree.host o e).runOn c t = ((r, c'), t')) :
    (∃ err, r = .error err) ∧ t' = t ∨ r = .ok () ∧
      (o.write = [] → t' = t) ∧ t.Rewrites (o.WritesTo t') t' := by
  by_cases ho : o.write = []
  · rw [saveProgram, if_pos (by simpa using ho)] at h
    cases h
    exact .inr ⟨rfl, fun _ => rfl, .refl t _⟩
  · generalize hsave : (Document.save (Folder.store Tree.host) (splitPath o.write).1
      (splitPath o.write).2 e.text).run.run t = saved
    obtain ⟨r', t₁⟩ := saved
    obtain ⟨told, hrun⟩ : ∃ told, (e.save (Folder.store Tree.host) (splitPath o.write).1
        (splitPath o.write).2).run t = ((r', told), t₁) := by
      rw [Emulator.save, StateT.run_bind, hsave]
      cases r' <;> exact ⟨_, rfl⟩
    rw [saveProgram, if_neg (by simpa using ho), Step.runOn_bind_of_eq_ok (Step.runOn_lift hrun c),
      Step.runOn_bind_of_eq_ok rfl, Step.runOn_check] at h
    cases h
    rcases run_save_splitPath hsave with ⟨⟨err, rfl⟩, rfl⟩ | ⟨rfl, hrewrites⟩
    · exact .inl ⟨⟨_, rfl⟩, rfl⟩
    · exact .inr ⟨rfl, fun h => absurd h ho, hrewrites.mono fun _ hroute => ⟨ho, hroute⟩⟩

/-- What the program does when the program text has been loaded and saved. -/
def finish (o : Options) (e : Emulator) : Step (StateM Tree) Unit :=
  if o.hasTask then
    if o.toConsole then perform Tree.host o none e else performInFile Tree.host o e
  else if o.write.isEmpty then throw .nothingToDo else pure ()

theorem rewrites_finish {r : Except ProgramError Unit}
    (h : (finish o e).runOn c t = ((r, c'), t')) :
    t.Rewrites (o.OutputsTo t') t' ∧ (o.hasTask = false → t' = t) ∧
      ∀ err, r = .error err → err.precedesTask = true → o.write = [] ∧ t' = t := by
  rw [finish] at h
  split at h
  · next htask =>
    have hnot : o.hasTask = false → t' = t := fun hfalse => by simp [htask] at hfalse
    split at h
    · obtain ⟨htree, herror⟩ := confined_perform o none e h
      refine ⟨htree.mono nofun, hnot, fun err herr hearly => ?_⟩
      rw [herror err herr] at hearly
      cases hearly
    · next hconsole =>
      obtain ⟨htree, herror⟩ := rewrites_performInFile o e h
      refine ⟨htree.mono fun _ hroute => ⟨by simpa using hconsole, hroute⟩, hnot,
        fun err herr hearly => ?_⟩
      rw [herror err herr] at hearly
      cases hearly
  · split at h
    · next hwrite =>
      cases h
      exact ⟨.refl t _, fun _ => rfl, fun _ _ _ => ⟨by simpa using hwrite, rfl⟩⟩
    · cases h
      exact ⟨.refl t _, fun _ => rfl, nofun⟩

/-- A run ends before the task and leaves the tree as it was, or saves the program text at most and
goes on with the task. -/
theorem runOn_run_cases (tags : Locale.Tags) (o : Options) (c : Console) (t : Tree) :
    ((run Tree.host tags o).runOn c t).2 = t ∨
      ∃ e c₁ t₁, (o.write = [] → t₁ = t) ∧ t.Rewrites (o.WritesTo t₁) t₁ ∧
        (run Tree.host tags o).runOn c t = (finish o e).runOn c₁ t₁ := by
  obtain ⟨r₁, c₁, hlocale⟩ := Step.exists_runOn_eq (runOn_chooseLocale_tree tags o c t)
  rw [run]
  cases r₁ with
  | error err => exact .inl (by rw [Step.runOn_bind_of_eq_error hlocale])
  | ok =>
      obtain ⟨r₂, c₂, hload⟩ := Step.exists_runOn_eq (runOn_loadProgram_tree o c₁ t)
      rw [Step.runOn_bind_of_eq_ok hlocale]
      cases r₂ with
      | error err => exact .inl (by rw [Step.runOn_bind_of_eq_error hload])
      | ok e =>
          rcases hsave : (saveProgram Tree.host o e).runOn c₂ t with ⟨⟨r₃, c₃⟩, t₃⟩
          rw [Step.runOn_bind_of_eq_ok hload]
          rcases runOn_saveProgram_cases hsave with ⟨⟨err, rfl⟩, rfl⟩ | ⟨rfl, hsame, htree⟩
          · exact .inl (by rw [Step.runOn_bind_of_eq_error hsave])
          · exact .inr ⟨e, c₃, t₃, hsame, htree, Step.runOn_bind_of_eq_ok hsave _⟩

end

/-- The program touches at most two files: the one at the cleaned path that it saves the program
text to, and the one that its output goes to. It removes nothing and makes no folder. A run that
fails before its task leaves the tree as it was, and one without a task touches the saved file at
most. A lesson touches nothing but the file that it has been given for its output. -/
theorem run_touches_named_files (tags : Locale.Tags) (o : Options) (c : Console) (t : Tree) :
    let ((r, _), t') := (run Tree.host tags o).runOn c t
    t.Rewrites (fun route => o.WritesTo t' route ∨ o.OutputsTo t' route) t' ∧
    (∀ err, r = .error err → err.precedesTask = true → t' = t) ∧
    (o.hasTask = false → t.Rewrites (o.WritesTo t') t') ∧
    ∀ (file : Option Route) (e : Emulator) (c : Console) (t : Tree),
      t.Rewrites (· ∈ file) ((executeLesson Tree.host o file e).runOn c t).2 := by
  have hlesson : ∀ (file : Option Route) (e : Emulator) (c : Console) (t : Tree),
      t.Rewrites (· ∈ file) ((executeLesson Tree.host o file e).runOn c t).2 :=
    fun file e c t => (confined_executeLesson o file e rfl).1
  have hcases := runOn_run_cases tags o c t
  generalize (run Tree.host tags o).runOn c t = ran at hcases ⊢
  obtain ⟨⟨r, c'⟩, t'⟩ := ran
  rcases hcases with rfl | ⟨e, c₁, t₁, hsame, hsaved, hfinish⟩
  · exact ⟨.refl _ _, fun _ _ _ => rfl, fun _ => .refl _ _, hlesson⟩
  · obtain ⟨htask, hidle, herror⟩ := rewrites_finish hfinish.symm
    have hwrites : ∀ route, o.WritesTo t₁ route → o.WritesTo t' route :=
      fun route ⟨hwrite, hroute⟩ => ⟨hwrite, htask.includes.resolve hroute⟩
    refine ⟨?_, fun err herr hearly => ?_, fun hnone => ?_, hlesson⟩
    · exact (hsaved.mono fun route hroute => .inl (hwrites route hroute)).trans
        (htask.mono fun _ => .inr)
    · obtain ⟨hwrite, htree⟩ := herror err herr hearly
      rw [htree, hsame hwrite]
    · rw [hidle hnone]
      exact hsaved

end CommandLine

end LineMachine
