import LineMachine.Proofs.CommandLine.Frame
import LineMachine.Proofs.Machine.Independence
import LineMachine.Proofs.Machine.Panel

/-!
# The report of a run of the program

Without a lesson, the program plays a text and puts out its report, on the console or in a file.
Nothing else is put out there: messages are told, not printed (`Step.Silent`). So what is put out
shows which registers, which flag and which log the text has led to.
-/

namespace LineMachine

/-- What is put in a created file is found at its path. -/
theorem Tree.find_append_of_createFile {t t' : Tree} {path : Text} {file : Route}
    (h : t.createFile path = .ok (file, t')) (data : Text) :
    (t'.append file data).find path = .ok (.file data) := by
  obtain ⟨before, e, hpath, he⟩ := exists_elements_of_createFile h
  obtain ⟨-, r, -, -, -, hfree, rfl, rfl⟩ := (createFile_eq_ok_iff hpath he).mp h
  have hincludes := (Rewrites.append (t := t.set (r ++ [e]) (.file [])) (S := fun _ => True)
    (r := r ++ [e]) trivial data).includes
  have hresolve := hincludes.resolve (rewrites_of_createFile h).2
  rw [resolve_eq_ok_iff] at hresolve
  refine find_eq_ok_iff.mpr ⟨hresolve.1, _, hresolve.2, ?_⟩
  rw [get?_append_set t hfree, if_pos rfl]

namespace CommandLine

/-! ### Steps that print nothing -/

namespace Step

variable {α β : Type}

/-- A compound step that succeeds has two parts that succeed. -/
theorem exists_of_runOn_bind {x : Step (StateM Tree) α} {f : α → Step (StateM Tree) β} {b : β}
    {c c' : Console} {t t' : Tree} (h : runOn (x >>= f) c t = ((.ok b, c'), t')) :
    ∃ a c₁ t₁, x.runOn c t = ((.ok a, c₁), t₁) ∧ (f a).runOn c₁ t₁ = ((.ok b, c'), t') := by
  rcases hrun : x.runOn c t with ⟨⟨e | a, c₁⟩, t₁⟩
  · rw [runOn_bind_of_eq_error hrun] at h
    cases h
  · rw [runOn_bind_of_eq_ok hrun] at h
    exact ⟨a, c₁, t₁, rfl, h⟩

/-- The step prints nothing. -/
def Silent (x : Step (StateM Tree) α) : Prop :=
  ∀ ⦃c t r c' t'⦄, x.runOn c t = ((r, c'), t') → c'.printed = c.printed

namespace Silent

theorem bind {x : Step (StateM Tree) α} {f : α → Step (StateM Tree) β} (hx : Silent x)
    (hf : ∀ a, Silent (f a)) : Silent (x >>= f) := by
  intro c t r c' t' h
  rcases hrun : x.runOn c t with ⟨⟨e | a, c₁⟩, t₁⟩
  · rw [runOn_bind_of_eq_error hrun] at h
    cases h
    exact hx hrun
  · rw [runOn_bind_of_eq_ok hrun] at h
    exact (hf a h).trans (hx hrun)

theorem ret (a : α) : Silent (pure a) := by
  intro c t r c' t' h
  cases h
  rfl

theorem tell (ds : List Diagnostic) : Silent (Step.tell ds) := by
  intro c t r c' t' h
  cases h
  rfl

theorem check (r : Except ProgramError α) : Silent (Step.check r) := by
  intro c t r' c' t' h
  rw [runOn_check] at h
  cases h
  rfl

theorem lift (x : StateM Tree α) : Silent (liftM x) := by
  intro c t r c' t' h
  rw [runOn_lift (Prod.eta (x.run t)).symm] at h
  cases h
  rfl

end Silent

end Step

variable {tags : Locale.Tags} {o : Options} {c c' : Console} {t t' : Tree}

theorem silent_chooseLocale (tags : Locale.Tags) (o : Options) :
    Step.Silent (chooseLocale tags o) := by
  intro c t r c' t' h
  rw [chooseLocale] at h
  split at h
  · cases h
    rfl
  · cases hlocale : tags o.locale <;> rw [hlocale] at h <;> cases h <;> rfl

theorem silent_loadProgram (o : Options) : Step.Silent (loadProgram Tree.host o) := by
  have hend : ∀ e : Emulator, Step.Silent
      (if o.expr.isEmpty then pure e else pure (e.setText o.expr) : Step (StateM Tree) _) := by
    intro e
    split <;> exact .ret _
  rw [loadProgram]
  split
  · exact hend _
  · refine (Step.Silent.lift _).bind ?_
    rintro ⟨e, r, told⟩
    exact (Step.Silent.tell told).bind fun _ => (Step.Silent.check _).bind fun _ => hend e

theorem silent_saveProgram (o : Options) (e : Emulator) :
    Step.Silent (saveProgram Tree.host o e) := by
  rw [saveProgram]
  split
  · exact .ret _
  · refine (Step.Silent.lift _).bind ?_
    rintro ⟨r, told⟩
    exact (Step.Silent.tell told).bind fun _ => .check _

/-! ### The text that is played -/

/-- The program text: the one that is given as such, else that of the document. A document is loaded
in any case if there is one. -/
def Options.programText (o : Options) (t : Tree) : Except DocumentError Text :=
  if o.compile.isEmpty then .ok o.expr
  else
    ((Document.load (Folder.shelf Tree.host) (splitPath o.compile).1
      (splitPath o.compile).2).run.run t).1.map fun text => if o.expr.isEmpty then text else o.expr

theorem run_emulator_load {d : Folder} {name : Text} {r : Except DocumentError Text}
    (h : (Document.load (Folder.shelf Tree.host) d name).run.run t = (r, t')) (e : Emulator) :
    ∃ told, (e.load (Folder.shelf Tree.host) d name).run t =
      (({ e with text := r.toOption.getD e.text }, r.map fun _ => (), told), t') := by
  rw [Emulator.load, StateT.run_bind, h]
  cases r with
  | error err => exact ⟨_, rfl⟩
  | ok text => exact ⟨_, rfl⟩

theorem text_of_runOn_expr {e e' : Emulator}
    (h : Step.runOn (if o.expr.isEmpty then pure e else pure (e.setText o.expr)) c t =
      ((.ok e', c'), t')) : e'.text = if o.expr.isEmpty then e.text else o.expr := by
  split at h <;> cases h
  · next hempty => rw [if_pos hempty]
  · next hempty =>
    rw [if_neg hempty]
    rfl

theorem programText_of_runOn_loadProgram {e : Emulator}
    (h : (loadProgram Tree.host o).runOn c t = ((.ok e, c'), t')) :
    o.programText t = .ok e.text := by
  rw [loadProgram] at h
  rw [Options.programText]
  split at h
  · next hcompile =>
    rw [if_pos hcompile, text_of_runOn_expr h]
    split
    · next hempty => rw [List.isEmpty_iff.mp hempty]
    · rfl
  · next hcompile =>
    rw [if_neg hcompile]
    generalize hload : (Document.load (Folder.shelf Tree.host) (splitPath o.compile).1
      (splitPath o.compile).2).run.run t = loaded
    obtain ⟨r, t₁⟩ := loaded
    obtain ⟨told, hrun⟩ := run_emulator_load hload { verbose := o.verbose }
    rw [Step.runOn_bind_of_eq_ok (Step.runOn_lift hrun c), Step.runOn_bind_of_eq_ok rfl] at h
    cases r with
    | error err =>
        cases (Step.runOn_bind_of_eq_error (Step.runOn_check _ _ _) _).symm.trans h
    | ok text =>
        rw [text_of_runOn_expr ((Step.runOn_bind_of_eq_ok (Step.runOn_check _ _ _) _).symm.trans h)]
        rfl

/-! ### What is put out -/

/-- What the program has put out: all that it has printed, or what its file holds. -/
def Options.shown (o : Options) (c : Console) (t : Tree) : Option Text :=
  if o.toConsole then some c.printed
  else match t.find o.output with
    | .ok (.file data) => some data
    | _ => none

/-- The report of a text does not depend on the machine that has played it. -/
theorem snapshot_play (e : Emulator) :
    e.play.1.machine.snapshot = (({} : Machine).run e.text).snapshot := by
  have hplay : e.play.1.machine = e.preparedMachine.run e.text := rfl
  rw [hplay, Machine.run_eq_withVerbose e.preparedMachine {}]
  rfl

theorem printed_of_runOn_playProgram {e : Emulator} {r : Except ProgramError Unit}
    (h : (playProgram Tree.host o none e).runOn c t = ((r, c'), t')) :
    c'.printed = c.printed ++ reportOf e.text := by
  rw [playProgram] at h
  rw [reportOf, ← snapshot_play]
  cases h
  rfl

/-- The file is empty before the report is put in it. -/
theorem find_of_runOn_performInFile {e : Emulator} (hlesson : o.lesson = [])
    (h : (performInFile Tree.host o e).runOn c t = ((.ok (), c'), t')) :
    t'.find o.output = .ok (.file (reportOf e.text)) := by
  generalize hcreate : (Folder.located (Text.ascii "open") o.output
    (Tree.host.createFile o.output)).run.run t = created
  obtain ⟨r, t₁⟩ := created
  have hrun := Step.runOn_onFiles hcreate c
  rw [performInFile] at h
  rcases Folder.run_located_change hcreate with ⟨file, rfl, hfile⟩ | ⟨⟨err, rfl⟩, rfl⟩
  · rw [Step.runOn_bind_of_eq_ok hrun] at h
    have hplay : (perform Tree.host o (some file) e).runOn c t₁ =
        ((.ok (), { c with told := c.told ++ e.play.2 }), t₁.append file (reportOf e.text)) := by
      rw [perform, if_pos (by rw [hlesson]; rfl), playProgram, reportOf, ← snapshot_play]
      rfl
    rw [Step.runOn_bind_of_eq_ok (Step.runOn_tryCatch_of_eq_ok hplay _)] at h
    cases h
    exact Tree.find_append_of_createFile hfile _
  · rw [Step.runOn_bind_of_eq_error hrun] at h
    cases h

/-- A successful run without a lesson puts out the report of its program text and nothing else. -/
theorem shown_of_runOn_run (hlesson : o.lesson = []) (htask : o.hasTask = true)
    (h : (run Tree.host tags o).runOn {} t = ((.ok (), c), t')) :
    ∃ code, o.programText t = .ok code ∧ o.shown c t' = some (reportOf code) := by
  rw [run] at h
  obtain ⟨⟨⟩, c₁, t₁, hlocale, h₁⟩ := Step.exists_of_runOn_bind h
  obtain ⟨e, c₂, t₂, hload, h₂⟩ := Step.exists_of_runOn_bind h₁
  obtain ⟨⟨⟩, c₃, t₃, hsave, htail⟩ := Step.exists_of_runOn_bind h₂
  obtain rfl : t₁ = t := by rw [← runOn_chooseLocale_tree tags o {} t, hlocale]
  refine ⟨e.text, programText_of_runOn_loadProgram hload, ?_⟩
  rw [if_pos htask] at htail
  rw [Options.shown]
  split at htail
  · next hconsole =>
    rw [perform, if_pos (by rw [hlesson]; rfl)] at htail
    rw [if_pos hconsole, printed_of_runOn_playProgram htail, silent_saveProgram o e hsave,
      silent_loadProgram o hload, silent_chooseLocale tags o hlocale]
    rfl
  · next hconsole =>
    rw [if_neg hconsole, find_of_runOn_performInFile hlesson htail]

/-- The program plays `code` and puts out `shown`. -/
structure Options.Reports (o : Options) (tags : Locale.Tags) (t : Tree) (code shown : Text) :
    Prop where
  lesson : o.lesson = []
  hasTask : o.hasTask = true
  text : o.programText t = .ok code
  shown : ∃ c t', (run Tree.host tags o).runOn {} t = ((.ok (), c), t') ∧ o.shown c t' = some shown

theorem Options.Reports.of_run (tags : Locale.Tags) (code : Text) (hlesson : o.lesson = [])
    (htask : o.hasTask = true) (htext : o.programText t = .ok code)
    (h : (run Tree.host tags o).runOn {} t = ((.ok (), c), t')) :
    o.Reports tags t code (reportOf code) := by
  obtain ⟨code', htext', hshown⟩ := shown_of_runOn_run hlesson htask h
  obtain rfl : code = code' := Except.ok.inj (htext.symm.trans htext')
  exact ⟨hlesson, htask, htext, c, t', h, hshown⟩

theorem Options.Reports.shown_eq {code shown : Text} (h : o.Reports tags t code shown) :
    shown = reportOf code := by
  obtain ⟨c, t', hrun, hshown⟩ := h.shown
  obtain ⟨code', htext, hreport⟩ := shown_of_runOn_run h.lesson h.hasTask hrun
  obtain rfl : code = code' := Except.ok.inj (h.text.symm.trans htext)
  exact Option.some.inj (hshown.symm.trans hreport)

/-- A report shows what it is made from. The panel of any snapshot shows its registers and its flag,
whatever integers they are. The panel of a run shows each register in eight binary digits, and the
log is cut at its line feeds into the entries, as there is no line break in any of them. Hence the
program puts out the same report for two program texts only if they end with the same registers,
flag and log. -/
theorem report_determines_run :
    (∀ s s' : Snapshot, s.panel = s'.panel → s.registers = s'.registers ∧ s.zx = s'.zx) ∧
    (∀ (m : Machine) (code : Text),
      (∃ bits : Register → Text,
        (m.run code).snapshot.panel =
          Text.closed (Register.all.map (fun r => r.name ++ Text.ascii ": " ++ bits r) ++
            [Text.ascii "ZX" ++ Text.ascii ": " ++ Text.ofInt (m.run code).zx]) ∧
        ∀ r, (bits r).length = 8 ∧ (∀ b ∈ bits r, Text.IsBit b) ∧
          Text.denoted 2 (bits r) = (m.run code).registers.read r) ∧
      Text.splitOn Text.newline (m.run code).snapshot.logText = (m.run code).snapshot.log ∧
      ∀ entry ∈ (m.run code).snapshot.log, Text.BreakFree entry) ∧
    ∀ (tags tags' : Locale.Tags) (o o' : Options) (t t' : Tree) (code code' shown : Text),
      o.Reports tags t code shown → o'.Reports tags' t' code' shown → ∀ m m' : Machine,
        (m.run code).registers = (m'.run code').registers ∧ (m.run code).zx = (m'.run code').zx ∧
          (m.run code).snapshot.log = (m'.run code').snapshot.log := by
  refine ⟨fun _ _ => Snapshot.panel_inj, fun m code => ⟨Machine.panel_run m code,
    Machine.splitOn_logText m code, fun _ => Machine.breakFree_of_mem_log⟩, ?_⟩
  intro tags tags' o o' t t' code code' shown h h' m m'
  rw [Machine.run_eq_withVerbose m {}, Machine.run_eq_withVerbose m' {}]
  exact Machine.report_inj (h.shown_eq.symm.trans h'.shown_eq)

/-- A number may have zeros in front, which the report does not show. -/
theorem report_determines_run_zeros :
    ∃ shown,
      Options.Reports { expr := Text.ascii "MOV 01, AX" } Locale.ofTag {}
        (Text.ascii "MOV 01, AX") shown ∧
      Options.Reports { expr := Text.ascii "MOV 1, AX", output := Text.ascii "out", verbose := true }
        Locale.ofTag {} (Text.ascii "MOV 1, AX") shown ∧
      (({} : Machine).run (Text.ascii "MOV 01, AX")).registers =
        (({} : Machine).run (Text.ascii "MOV 1, AX")).registers := by
  have hconsole := Options.Reports.of_run (o := { expr := Text.ascii "MOV 01, AX" }) (t := {})
    Locale.ofTag (Text.ascii "MOV 01, AX") rfl rfl rfl rfl
  have hfile := Options.Reports.of_run (t := {})
    (o := { expr := Text.ascii "MOV 1, AX", output := Text.ascii "out", verbose := true })
    Locale.ofTag (Text.ascii "MOV 1, AX") rfl rfl rfl rfl
  have hshown : reportOf (Text.ascii "MOV 01, AX") = reportOf (Text.ascii "MOV 1, AX") := by
    decide +kernel
  rw [← hshown] at hfile
  exact ⟨_, hconsole, hfile, (report_determines_run.2.2 _ _ _ _ _ _ _ _ _ hconsole hfile {} {}).1⟩

end CommandLine

end LineMachine
