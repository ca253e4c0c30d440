import LineMachine.CommandLine.Program
import LineMachine.Proofs.Document.Storing

/-!
# Compiling what has been written

The program writes a text to a path, and compiles it from the same path later. Both times the path
is split into a folder and a name. Writing goes by the cleaned path, and compiling goes along the
folders as they are written, so the two may disagree on paths that go up again from a folder.
`Reachable` is what compiling needs beyond a successful write.
-/

namespace LineMachine

theorem Emulator.play_eq {e : Emulator} (he : e.verbose = false) :
    e.play = ({ e with machine := e.preparedMachine.run e.text, runs := e.runs + 1 }, []) := by
  have htold : (e.preparedMachine.runTelling e.text).2 = [] := by
    rw [Machine.runTelling]
    exact if_neg (by simp [Emulator.preparedMachine, he])
  rw [Emulator.play, Machine.run]
  simp only [htold, he]
  rfl

namespace CommandLine

/-! ### Steps on a tree -/

section

variable {α β : Type} {c c' : Console} {t t' : Tree}

/-- The result of a step on a tree and the console after it, with the tree after it. -/
def Step.runOn (x : Step (StateM Tree) α) (c : Console) (t : Tree) :
    (Except ProgramError α × Console) × Tree :=
  (x.run.run c).run t

theorem Step.runOn_bind_of_eq_ok {x : Step (StateM Tree) α} {a : α}
    (h : x.runOn c t = ((.ok a, c'), t')) (f : α → Step (StateM Tree) β) :
    runOn (x >>= f) c t = runOn (f a) c' t' := by
  rw [runOn, ExceptT.run_bind, StateT.run_bind, StateT.run_bind, ← runOn, h]
  rfl

theorem Step.runOn_bind_of_eq_error {x : Step (StateM Tree) α} {e : ProgramError}
    (h : x.runOn c t = ((.error e, c'), t')) (f : α → Step (StateM Tree) β) :
    runOn (x >>= f) c t = ((.error e, c'), t') := by
  rw [runOn, ExceptT.run_bind, StateT.run_bind, StateT.run_bind, ← runOn, h]
  rfl

theorem Step.runOn_lift {x : StateM Tree α} {a : α} (h : x.run t = (a, t')) (c : Console) :
    runOn (liftM x : Step (StateM Tree) α) c t = ((.ok a, c), t') := by
  have hlift : runOn (liftM x : Step (StateM Tree) α) c t =
      ((.ok (x.run t).1, c), (x.run t).2) := rfl
  rw [hlift, h]

theorem Step.runOn_tell_nil (c : Console) (t : Tree) :
    (Step.tell [] : Step (StateM Tree) Unit).runOn c t = ((.ok (), c), t) := by
  have htell : (Step.tell [] : Step (StateM Tree) Unit).runOn c t =
      ((.ok (), { c with told := c.told ++ [] }), t) := rfl
  rw [htell, List.append_nil]

theorem Step.runOn_check (r : Except ProgramError α) (c : Console) (t : Tree) :
    (Step.check r : Step (StateM Tree) α).runOn c t = ((r, c), t) := by
  cases r <;> rfl

theorem runOn_saveProgram {o : Options} {e : Emulator} {r : Except DocumentError Unit}
    (ho : o.write ≠ []) (he : e.verbose = false)
    (h : (Document.save (Folder.store Tree.host) (splitPath o.write).1 (splitPath o.write).2
      e.text).run.run t = (r, t')) :
    (saveProgram Tree.host o e).runOn c t = ((r.mapError .document, c), t') := by
  have hsave : (e.save (Folder.store Tree.host) (splitPath o.write).1 (splitPath o.write).2).run t =
      ((r, []), t') := by
    rw [Emulator.save, StateT.run_bind, h]
    cases r with
    | error err => rfl
    | ok => rw [he]; rfl
  rw [saveProgram, if_neg (by simpa using ho), Step.runOn_bind_of_eq_ok (Step.runOn_lift hsave c)]
  exact (Step.runOn_bind_of_eq_ok (Step.runOn_tell_nil c t') _).trans (Step.runOn_check _ c t')

theorem runOn_loadProgram {o : Options} {r : Except DocumentError Text}
    (ho : o.compile ≠ []) (he : o.verbose = false) (hexpr : o.expr = [])
    (h : (Document.load (Folder.shelf Tree.host) (splitPath o.compile).1
      (splitPath o.compile).2).run.run t = (r, t')) :
    (loadProgram Tree.host o).runOn c t =
      (((r.mapError .document).map fun text => { text }, c), t') := by
  have hload : (Emulator.load (Folder.shelf Tree.host) (splitPath o.compile).1
      (splitPath o.compile).2 { verbose := o.verbose }).run t =
        (({ text := (r.toOption).getD [] }, r.map fun _ => (), []), t') := by
    rw [Emulator.load, StateT.run_bind, h, he]
    cases r <;> rfl
  rw [loadProgram, if_neg (by simpa using ho), Step.runOn_bind_of_eq_ok (Step.runOn_lift hload c)]
  simp only [hexpr]
  refine (Step.runOn_bind_of_eq_ok (Step.runOn_tell_nil c t') _).trans ?_
  cases r with
  | error err => exact Step.runOn_bind_of_eq_error (Step.runOn_check _ c t') _
  | ok text => exact Step.runOn_bind_of_eq_ok (Step.runOn_check _ c t') _

theorem runOn_playProgram {e : Emulator} (he : e.verbose = false) (o : Options) :
    (playProgram Tree.host o none e).runOn c t =
      ((.ok (), { c with
        printed := c.printed ++ (e.preparedMachine.run e.text).snapshot.report }), t) := by
  rw [playProgram, Emulator.play_eq he]
  exact Step.runOn_bind_of_eq_ok (Step.runOn_tell_nil c t) _

end

/-! ### Runs on a tree -/

section

variable {tags : Locale.Tags} {t t' : Tree} {path code : Text}

/-- What is printed for a program text. -/
def reportOf (code : Text) : Text := (({} : Machine).run code).snapshot.report

theorem reportOf_repair (code : Text) : reportOf code.repair = reportOf code := by
  rw [reportOf, Machine.run_repair, reportOf]

theorem runOn_run_of_text {o : Options} (hlocale : o.locale = []) (hlesson : o.lesson = [])
    (houtput : o.output = Text.ascii "-") (htask : o.hasTask = true)
    (hload : (loadProgram Tree.host o).runOn {} t = ((.ok { text := code }, {}), t))
    (hsave : (saveProgram Tree.host o { text := code }).runOn {} t = ((.ok (), {}), t')) :
    (run Tree.host tags o).runOn {} t = ((.ok (), { printed := reportOf code }), t') := by
  have hchoose : (chooseLocale tags o : Step (StateM Tree) Unit).runOn {} t = ((.ok (), {}), t) := by
    rw [chooseLocale, hlocale]
    rfl
  have hconsole : o.toConsole = true := by rw [Options.toConsole, houtput, beq_self_eq_true]
  have hperform : perform Tree.host o none { text := code } =
      playProgram Tree.host o none { text := code } := by
    rw [perform, hlesson]
    rfl
  rw [run, Step.runOn_bind_of_eq_ok hchoose, Step.runOn_bind_of_eq_ok hload,
    Step.runOn_bind_of_eq_ok hsave, htask, hconsole, hperform]
  exact runOn_playProgram rfl o

theorem runOn_loadProgram_expr (hcode : code ≠ []) (path : Text) (t : Tree) :
    (loadProgram Tree.host { expr := code, write := path }).runOn {} t =
      ((.ok { text := code }, {}), t) := by
  have hexpr : code.isEmpty = false := by simpa using hcode
  rw [loadProgram]
  simp only [hexpr]
  rfl

theorem runOn_run_expr (hcode : code ≠ [])
    (hsave : (saveProgram Tree.host { expr := code, write := path } { text := code }).runOn {} t =
      ((.ok (), {}), t')) :
    (run Tree.host tags { expr := code, write := path }).runOn {} t =
      ((.ok (), { printed := reportOf code }), t') := by
  have hexpr : code.isEmpty = false := by simpa using hcode
  refine runOn_run_of_text rfl rfl rfl ?_ (runOn_loadProgram_expr hcode path t) hsave
  rw [Options.hasTask, hexpr, Bool.and_false, Bool.not_false]

/-- The program prints the report of a text that it could write. -/
theorem runOn_write {r : Except DocumentError Unit} (hcode : code ≠ []) (hpath : path ≠ [])
    (h : (Document.save (Folder.store Tree.host) (splitPath path).1 (splitPath path).2
      code).run.run t = (r, t')) :
    (run Tree.host tags { expr := code, write := path }).runOn {} t =
      match r with
      | .ok () => ((.ok (), { printed := reportOf code }), t')
      | .error e => ((.error (.document e), {}), t') := by
  have hsave := runOn_saveProgram (o := { expr := code, write := path }) (e := { text := code })
    (c := {}) hpath rfl h
  cases r with
  | ok => exact runOn_run_expr hcode hsave
  | error e =>
      rw [run]
      refine (Step.runOn_bind_of_eq_ok rfl _).trans ?_
      rw [Step.runOn_bind_of_eq_ok (runOn_loadProgram_expr hcode path t)]
      exact Step.runOn_bind_of_eq_error hsave _

/-- The program prints the report of a text that it could load. -/
theorem runOn_compile {r : Except DocumentError Text} (hpath : path ≠ [])
    (h : (Document.load (Folder.shelf Tree.host) (splitPath path).1
      (splitPath path).2).run.run t = (r, t)) :
    (run Tree.host tags { compile := path }).runOn {} t =
      match r with
      | .ok text => ((.ok (), { printed := reportOf text }), t)
      | .error e => ((.error (.document e), {}), t) := by
  have hload := runOn_loadProgram (o := { compile := path }) (c := {}) hpath rfl rfl h
  cases r with
  | ok text =>
      refine runOn_run_of_text rfl rfl rfl ?_ hload rfl
      have hcompile : path.isEmpty = false := by simpa using hpath
      rw [Options.hasTask, hcompile, Bool.and_false, Bool.false_and, Bool.not_false]
  | error e =>
      rw [run]
      refine (Step.runOn_bind_of_eq_ok rfl _).trans ?_
      exact Step.runOn_bind_of_eq_error hload _

end

/-! ### Paths that can be compiled -/

/-- The folder of a path is there as it is written, and the path is not too long. -/
structure Reachable (t : Tree) (path : Text) : Prop where
  ne_nil : path ≠ []
  length_lt : path.length < Tree.pathLimit
  folder : t.find (splitPath path).1.path = .ok .folder

section

variable {t t' : Tree} {path name code : Text} {d : Folder} {c : Route}

/-- A path without a slash is a name in the working folder. Any other is looked up as it is. -/
theorem splitPath_cases (h : splitPath path = (d, name)) : Path.slash ∉ name ∧
    (d.path = Path.dot ∧ name = path ∧ d.lookupPath name = Path.dot ++ [Path.slash] ++ path ∨
      (∃ front, d.path = front ++ [Path.slash]) ∧ path = d.path ++ name ∧
        d.lookupPath name = path) := by
  obtain ⟨folder, base, hpath, hslash, hfolder, hsplit⟩ := Path.exists_split path
  rw [splitPath, hsplit, Prod.mk.injEq] at h
  obtain ⟨rfl, rfl⟩ := h
  refine ⟨hslash, ?_⟩
  rcases hfolder with rfl | hlast
  · refine .inl ⟨rfl, hpath.symm, ?_⟩
    rw [← List.nil_append base, ← hpath]
    rfl
  · obtain ⟨front, rfl⟩ := List.getLast?_eq_some_iff.mp hlast
    have hfolder : (if (front ++ [Path.slash]).isEmpty then Path.dot else front ++ [Path.slash]) =
        front ++ [Path.slash] := if_neg (by simp)
    refine .inr ⟨⟨front, hfolder⟩, ?_, ?_⟩
    · rw [hfolder, hpath]
    · rw [Folder.lookupPath, hfolder, if_pos hlast, hpath]

theorem path_ne_nil_of_splitPath (h : splitPath path = (d, name)) : d.path ≠ [] := by
  rcases (splitPath_cases h).2 with ⟨hdot, -, -⟩ | ⟨⟨front, hd⟩, -, -⟩
  · rw [hdot]
    decide
  · rw [hd]
    exact List.append_ne_nil_of_right_ne_nil _ (List.cons_ne_nil _ _)

/-- After a write, a path can be compiled if and only if the text is found again. -/
theorem reachable_iff (h : Document.Filed d name code c t t') (hname : Path.IsSimple name)
    (hsplit : splitPath path = (d, name)) (hpath : path ≠ []) :
    Reachable t path ↔ Tree.accept (d.lookupPath name) = .ok () ∧
      t.walk (t.start d.path) (Path.elements d.path) = .ok c := by
  have hzero := h.zero_not_mem hname
  have hfolder : t.find d.path = .ok .folder ↔ Tree.accept d.path = .ok () ∧
      t.walk (t.start d.path) (Path.elements d.path) = .ok c := by
    rw [Tree.find_eq_ok_iff]
    refine and_congr_right fun _ => ⟨?_, fun hwalk => ⟨_, hwalk, h.folder⟩⟩
    rintro ⟨q, hwalk, -⟩
    rw [hwalk, ← Tree.place_of_walk hwalk]
    exact h.place
  have haccept : Tree.accept (d.lookupPath name) = .ok () ↔
      path.length < Tree.pathLimit ∧ Tree.accept d.path = .ok () := by
    rcases (splitPath_cases hsplit).2 with ⟨hdot, rfl, hlookup⟩ | ⟨-, hpath, hlookup⟩
    · have hlimit : name.length + 2 < Tree.pathLimit :=
        Nat.lt_of_le_of_lt (Nat.add_le_add_right h.length_le 2) (by decide)
      rw [hlookup, hdot, Tree.accept_eq_ok_iff]
      refine iff_of_true ⟨?_, List.cons_ne_nil _ _, ?_⟩ ⟨Nat.lt_of_add_right_lt hlimit, by decide⟩
      · rw [List.mem_append]
        exact not_or.mpr ⟨by decide, hzero⟩
      · rw [List.length_append, Nat.add_comm]
        exact hlimit
    · have hd := path_ne_nil_of_splitPath hsplit
      have hne : d.path ++ name ≠ [] := List.append_ne_nil_of_left_ne_nil hd _
      rw [hlookup, Tree.accept_eq_ok_iff, Tree.accept_eq_ok_iff, hpath, List.mem_append, not_or,
        List.length_append]
      constructor
      · rintro ⟨⟨hzero, -⟩, -, hlength⟩
        exact ⟨hlength, hzero, hd, Nat.lt_of_add_right_lt hlength⟩
      · rintro ⟨hlength, hfront, -, -⟩
        exact ⟨⟨hfront, hzero⟩, hne, hlength⟩
  have hd : (splitPath path).1 = d := by rw [hsplit]
  rw [haccept, and_assoc, ← hfolder, ← hd]
  exact ⟨fun h => ⟨h.length_lt, h.folder⟩, fun h => ⟨hpath, h.1, h.2⟩⟩

/-- A cleaned path leads along the same folders as it is written. -/
theorem reachable_of_clean_eq (h : Document.Filed d name code c t t') (hname : Path.IsSimple name)
    (hsplit : splitPath path = (d, name)) (hclean : Path.clean path = path) :
    Reachable t path := by
  have hne := Path.ne_nil_of_clean_eq hclean
  rcases (splitPath_cases hsplit).2 with ⟨hdot, rfl, -⟩ | ⟨⟨front, hd⟩, hpath, hlookup⟩
  · refine ⟨hne, Nat.lt_of_le_of_lt h.length_le (by decide), ?_⟩
    rw [hsplit, hdot, Tree.find_eq_ok_iff]
    exact ⟨rfl, _, Tree.walk_of_idle (t.get?_start _) (by decide), t.get?_start _⟩
  · have hpath : path = front ++ Path.slash :: name := by
      rw [hpath, hd, List.append_assoc, List.singleton_append]
    have hjoin : Path.join d.path name = path := by
      rw [hd, Path.join_append_slash front hname, ← hpath, hclean]
    obtain ⟨before, hbefore, hwalk⟩ := Folder.exists_before_join d hname
    have hfront : before = Path.elements front := by
      rw [hjoin, hpath, Path.elements_append_slash, hname.elements_eq] at hbefore
      exact (List.append_cancel_right hbefore).symm
    have hplace := (hwalk t c).mpr h.place
    rw [Folder.start_join d t hname.isName hname.ne_dot, hfront] at hplace
    rw [reachable_iff h hname hsplit hne, hlookup]
    refine ⟨hjoin ▸ h.accepted, ?_⟩
    have helements : Path.elements d.path = Path.elements front ++ [[]] := by
      rw [hd]
      exact Path.elements_append_slash front []
    rw [helements, Tree.walk_append_eq_ok_iff]
    exact ⟨_, hplace, Tree.walk_of_idle h.folder (by simp)⟩

end

/-- A text that has been written to a path can be compiled from it, and the same is printed again,
if and only if the path can be reached as it is written; else the program fails and prints nothing.
Every cleaned path can be reached. -/
theorem compile_after_write (tags : Locale.Tags) (t t' : Tree) (path code : Text) (c : Console)
    (hcode : code ≠ [])
    (h : (run Tree.host tags { expr := code, write := path }).runOn {} t = ((.ok (), c), t')) :
    c.printed = reportOf code ∧
      ∃ r c', (run Tree.host tags { compile := path }).runOn {} t' = ((r, c'), t') ∧
        (r = .ok () ∧ c'.printed = c.printed ∧ Reachable t path ∨
          (∃ e, r = .error e) ∧ c'.printed = [] ∧ ¬Reachable t path) ∧
        (Path.clean path = path → Reachable t path) := by
  by_cases hpath : path = []
  · -- Nothing is written, and without a path there is nothing to compile.
    subst hpath
    rw [runOn_run_expr hcode rfl] at h
    obtain ⟨hc, rfl⟩ := Prod.mk.inj h
    obtain ⟨-, rfl⟩ := Prod.mk.inj hc
    exact ⟨rfl, _, _, rfl, .inr ⟨⟨_, rfl⟩, rfl, fun h => h.ne_nil rfl⟩, nofun⟩
  · obtain ⟨d, name, hsplit⟩ : ∃ d name, splitPath path = (d, name) := ⟨_, _, rfl⟩
    generalize hrun : (Document.save (Folder.store Tree.host) d name code).run.run t = saved
    obtain ⟨r, after⟩ := saved
    rw [runOn_write hcode hpath (by rw [hsplit]; exact hrun)] at h
    cases r with
    | error e => cases h
    | ok =>
        obtain ⟨hc, rfl⟩ := Prod.mk.inj h
        obtain ⟨-, rfl⟩ := Prod.mk.inj hc
        obtain ⟨hname, hdot⟩ := Document.isName_of_run_save _ _ _ _ hrun
        have hsimple : Path.IsSimple name :=
          ⟨hname, hdot, Path.elements_of_not_mem (splitPath_cases hsplit).1⟩
        have hd := path_ne_nil_of_splitPath hsplit
        rcases Document.run_save_of_isSimple hsimple hrun with ⟨⟨e, herror⟩, -⟩ | ⟨-, b, hfiled⟩
        · cases herror
        have hreachable := reachable_iff hfiled hsimple hsplit hpath
        have hzero := hfiled.zero_not_mem hsimple
        refine ⟨rfl, ?_⟩
        cases hfind : after.find (d.lookupPath name) with
        | ok item =>
            obtain ⟨haccept, hwalk, rfl⟩ := (hfiled.find_lookupPath_iff hsimple hd).mp hfind
            have hload := Document.run_load_of_file hname hzero hd hfind
            refine ⟨_, _, runOn_compile hpath (by rw [hsplit]; exact hload), .inl ⟨rfl, ?_, ?_⟩, ?_⟩
            · exact reportOf_repair code
            · exact hreachable.mpr ⟨haccept, hwalk⟩
            · exact reachable_of_clean_eq hfiled hsimple hsplit
        | error e =>
            have hload := Document.run_load_of_error hname hzero hd hfind
            refine ⟨_, _, runOn_compile hpath (by rw [hsplit]; exact hload),
              .inr ⟨⟨_, rfl⟩, rfl, fun h => ?_⟩, reachable_of_clean_eq hfiled hsimple hsplit⟩
            obtain ⟨haccept, hwalk⟩ := hreachable.mp h
            rw [(hfiled.find_lookupPath_iff hsimple hd).mpr ⟨haccept, hwalk, rfl⟩] at hfind
            cases hfind

/-- A path that goes into a folder and up again. -/
def roundabout : Text := Text.ascii "no/../n.tom"

/-- A tree with that folder. -/
def roundaboutTree : Tree := { items := [([Text.ascii "no"], .folder)] }

theorem compile_after_write_roundabout :
    Text.ascii "MOV 1, AX" ++ [0xFF] ≠ [] ∧
      ∃ c t',
        (run Tree.host Locale.ofTag
          { expr := Text.ascii "MOV 1, AX" ++ [0xFF], write := roundabout }).runOn {}
            roundaboutTree = ((.ok (), c), t') ∧
        ∃ c', (run Tree.host Locale.ofTag { compile := roundabout }).runOn {} t' = ((.ok (), c'), t') ∧
          c'.printed = c.printed := by
  refine ⟨by decide, _, _, rfl, ?_⟩
  obtain ⟨-, r, c', hrun, ⟨rfl, hprinted, -⟩ | ⟨-, -, hunreachable⟩, -⟩ :=
    compile_after_write Locale.ofTag roundaboutTree _ roundabout (Text.ascii "MOV 1, AX" ++ [0xFF]) _
      (by decide) rfl
  · exact ⟨c', hrun, hprinted⟩
  · exact absurd ⟨by decide, by decide, rfl⟩ hunreachable

/-- Without the folder, the text is written to the path and cannot be compiled from it. -/
theorem compile_roundabout_fails :
    ∃ c t',
      (run Tree.host Locale.ofTag { expr := Text.ascii "MOV 1, AX", write := roundabout }).runOn {}
        {} = ((.ok (), c), t') ∧
      (run Tree.host Locale.ofTag { compile := roundabout }).runOn {} t' =
        ((.error (.document ⟨Text.ascii "n.tom",
          .path (Text.ascii "stat") (Text.ascii "n.tom") (.system .noEntry)⟩), {}), t') :=
  ⟨_, _, rfl, rfl⟩

end CommandLine

end LineMachine
