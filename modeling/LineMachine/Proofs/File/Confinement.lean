import LineMachine.Proofs.File.Folder

/-!
# Folders that are not left

A name is joined behind the cleaned path of its folder and none of its elements leads up, so that the
joined path is inside of the folder (`Inside`). Joining can be done in steps: what is joined to a
joined path is joined to the folder (`join_join`).

Which paths a host is asked for is told by `watched`, a host that writes down its calls. On any host,
entering, creating and making folders address the joined path and no other.
-/

namespace LineMachine

namespace Path

/-! ### Valid names -/

/-- A dot, or elements with slashes between them, where each element is well-formed UTF-8 and names
something other than its folder and the folder above. -/
def Valid (name : Text) : Prop :=
  name = dot ∨ ∃ es, es ≠ [] ∧ name = ofElements es ∧
    ∀ e ∈ es, e ≠ [] ∧ e ≠ dot ∧ e ≠ dotDot ∧ slash ∉ e ∧ Text.isUtf8 e = true

theorem isUtf8_ofElements {es : List Text} (h : ∀ e ∈ es, Text.isUtf8 e = true) :
    Text.isUtf8 (ofElements es) = true := by
  induction es with
  | nil => rfl
  | cons e es ih =>
      by_cases hes : es = []
      · rw [hes, ofElements_singleton]
        exact h e List.mem_cons_self
      · rw [ofElements_cons e hes, isUtf8_append_slash, h e List.mem_cons_self,
          ih fun f hf => h f (List.mem_cons_of_mem _ hf)]
        rfl

theorem isName_iff_valid {name : Text} : isName name = true ↔ Valid name := by
  constructor
  · intro hname
    by_cases hdot : name = dot
    · exact .inl hdot
    · refine .inr ⟨elements name, elements_ne_nil name, (ofElements_elements name).symm, ?_⟩
      intro e he
      obtain ⟨hempty, hone, htwo⟩ := isElement_iff.mp (isElement_of_mem_elements hname hdot he)
      rw [isName, Bool.and_eq_true, ← ofElements_elements name] at hname
      exact ⟨hempty, hone, htwo, slash_not_mem he, isUtf8_of_mem hname.1 he⟩
  · rintro (rfl | ⟨es, hne, rfl, hes⟩)
    · decide
    · have hall : es.all isElement = true := by
        rw [List.all_eq_true]
        intro e he
        obtain ⟨hempty, hone, htwo, -, -⟩ := hes e he
        exact isElement_iff.mpr ⟨hempty, hone, htwo⟩
      rw [isName, isUtf8_ofElements fun e he => (hes e he).2.2.2.2,
        elements_ofElements (fun e he => (hes e he).2.2.2.1) hne, hall, Bool.or_true]
      rfl

/-! ### Paths inside of a folder -/

/-- The elements of a path that lead somewhere. Empty ones and single dots do not. -/
def steps (p : Text) : List Text := (elements p).filter fun e => !(e.isEmpty || e == dot)

/-- The path goes on from the folder at `root` and never up again. -/
def Inside (root path : Text) : Prop :=
  isRooted path = isRooted root ∧ ∃ es, steps path = steps root ++ es ∧ dotDot ∉ es

theorem filter_steps_of_idle {idle : List Text} (h : ∀ e ∈ idle, e = [] ∨ e = dot) :
    idle.filter (fun e => !(e.isEmpty || e == dot)) = [] := by
  rw [List.filter_eq_nil_iff]
  intro e he
  rcases h e he with rfl | rfl <;> decide

theorem filter_steps_of_isStep {es : List Text} (h : ∀ e ∈ es, e ≠ [] ∧ e ≠ dot) :
    es.filter (fun e => !(e.isEmpty || e == dot)) = es := by
  rw [List.filter_eq_self]
  intro e he
  simp [h e he]

theorem IsClean.steps_canonical {rooted : Bool} {es : List Text} (h : IsClean rooted es) :
    steps (canonical rooted es) = es := by
  obtain ⟨idle, helements, hidle⟩ :=
    exists_elements_canonical rooted fun e he => (h.isStep e he).2.2
  rw [steps, helements, List.filter_append, filter_steps_of_idle hidle, List.nil_append,
    filter_steps_of_isStep fun e he => ⟨(h.isStep e he).1, (h.isStep e he).2.1⟩]

theorem steps_clean (p : Text) : steps (clean p) = cleanElements p := by
  rw [clean_eq_canonical, (isClean_cleanElements p).steps_canonical]

theorem isRooted_clean (p : Text) : isRooted (clean p) = isRooted p := by
  rw [clean_eq_canonical, (isClean_cleanElements p).isRooted_canonical]

theorem IsClean.clean_canonical {rooted : Bool} {es : List Text} (h : IsClean rooted es) :
    clean (canonical rooted es) = canonical rooted es := by
  rw [clean_eq_canonical, h.isRooted_canonical, h.cleanElements_canonical]

theorem steps_of_isName {name : Text} (hname : isName name = true) (hdot : name ≠ dot) :
    steps name = elements name :=
  filter_steps_of_isStep fun _ he =>
    have h := isElement_iff.mp (isElement_of_mem_elements hname hdot he)
    ⟨h.1, h.2.1⟩

theorem isElement_of_mem_steps {name e : Text} (hname : isName name = true) (h : e ∈ steps name) :
    isElement e = true ∧ slash ∉ e := by
  have he := (List.mem_filter.mp h).1
  by_cases hdot : name = dot
  · rw [hdot] at h
    cases h
  · exact ⟨isElement_of_mem_elements hname hdot he, slash_not_mem he⟩

/-- A folder itself has the name of one dot. -/
theorem join_dot (folder : Text) : join folder dot = clean folder := by
  by_cases hfolder : folder = []
  · rw [hfolder]
    rfl
  · have hjoin : join folder dot = clean (folder ++ slash :: dot) := by
      have hdot : dot ≠ [] := by decide
      simp [join, hfolder, hdot, ofElements_cons folder (List.cons_ne_nil dot [])]
    have hidle : ∀ e ∈ elements dot, e = [] ∨ e = dot := by
      rw [elements_of_not_mem (by decide)]
      simp
    rw [hjoin, clean_eq_canonical, clean_eq_canonical, isRooted_append hfolder, cleanElements,
      isRooted_append hfolder, elements_append_slash, List.foldl_append,
      foldl_cleanStep_of_idle hidle]
    rfl

/-- The steps of a name are put behind those of the folder, whatever the name. -/
theorem join_eq_canonical_steps (folder : Text) {name : Text} (hname : isName name = true) :
    join folder name = canonical (isRooted folder) (cleanElements folder ++ steps name) := by
  by_cases hdot : name = dot
  · have hsteps : steps dot = [] := by decide
    rw [hdot, join_dot, hsteps, List.append_nil, clean_eq_canonical]
  · rw [join_eq_canonical folder hname hdot, steps_of_isName hname hdot]

theorem isClean_append_steps (folder : Text) {name : Text} (hname : isName name = true) :
    IsClean (isRooted folder) (cleanElements folder ++ steps name) :=
  (isClean_cleanElements folder).append fun _ he => isElement_of_mem_steps hname he

theorem steps_join (folder : Text) {name : Text} (hname : isName name = true) :
    steps (join folder name) = steps (clean folder) ++ steps name := by
  rw [join_eq_canonical_steps folder hname, (isClean_append_steps folder hname).steps_canonical,
    steps_clean]

theorem clean_join (folder : Text) {name : Text} (hname : isName name = true) :
    clean (join folder name) = join folder name := by
  rw [join_eq_canonical_steps folder hname, (isClean_append_steps folder hname).clean_canonical]

/-- What goes on from the elements of a folder by elements of names is inside. -/
theorem inside_canonical (folder : Text) {es : List Text}
    (h : ∀ e ∈ es, isElement e = true ∧ slash ∉ e) :
    Inside (clean folder) (canonical (isRooted folder) (cleanElements folder ++ es)) := by
  have hclean := (isClean_cleanElements folder).append h
  refine ⟨?_, es, ?_, fun hup => ?_⟩
  · rw [hclean.isRooted_canonical, isRooted_clean]
  · rw [hclean.steps_canonical, steps_clean]
  · exact (isElement_iff.mp (h dotDot hup).1).2.2 rfl

theorem inside_join (folder : Text) {name : Text} (hname : isName name = true) :
    Inside (clean folder) (join folder name) := by
  rw [join_eq_canonical_steps folder hname]
  exact inside_canonical folder fun _ he => isElement_of_mem_steps hname he

/-! ### Joining in steps -/

theorem append_slash_ne_dot (a b : Text) : a ++ slash :: b ≠ dot := by
  intro hdot
  have hslash : slash ∈ dot := by
    rw [← hdot]
    simp
  revert hslash
  decide

section

variable {a b : Text} (ha : isName a = true) (hb : isName b = true) (ha' : a ≠ dot) (hb' : b ≠ dot)

include ha hb ha' hb'

theorem isName_append_slash : isName (a ++ slash :: b) = true := by
  have hall : (elements (a ++ slash :: b)).all isElement = true := by
    rw [elements_append_slash, List.all_eq_true]
    intro e he
    rcases List.mem_append.mp he with he | he
    · exact isElement_of_mem_elements ha ha' he
    · exact isElement_of_mem_elements hb hb' he
  rw [isName, Bool.and_eq_true] at ha hb
  rw [isName, isUtf8_append_slash, ha.1, hb.1, hall, Bool.or_true]
  rfl

theorem join_join (folder : Text) : join (join folder a) b = join folder (a ++ slash :: b) := by
  rw [join_eq_canonical (join folder a) hb hb', isRooted_join folder ha ha',
    cleanElements_join folder ha ha', List.append_assoc, ← elements_append_slash,
    ← join_eq_canonical folder (isName_append_slash ha hb ha' hb') (append_slash_ne_dot a b)]

end

end Path

/-! ### Watched hosts -/

/-- A call on a host by a path. -/
inductive HostCall where
  | find (path : Text)
  | createFile (path : Text)
  | createFolder (path : Text)
  deriving DecidableEq, Repr

/-- The path that is addressed. -/
def HostCall.path : HostCall → Text
  | find path | createFile path | createFolder path => path

namespace Host

variable {φ σ : Type}

/-- The host that does the same as `h` and writes down the calls by a path, the first one first. -/
def watched (h : Host φ (StateM σ)) : Host φ (StateM (σ × List HostCall)) where
  find path := recording (h.find path) fun _ => [.find path]
  createFile path := recording (h.createFile path) fun _ => [.createFile path]
  createFolder path := recording (h.createFolder path) fun _ => [.createFolder path]
  write file data := recording (h.write file data) fun _ => []
  close file := recording (h.close file) fun _ => []

end Host

namespace Folder

variable {φ σ α : Type}

/-- The call by the path of a name, if it is one. -/
def callsAt (d : Folder) (name : Text) (call : Text → HostCall) : List HostCall :=
  if Path.isName name then [call (Path.join d.path name)] else []

theorem join_eq_ok_iff {d : Folder} {operation name path : Text} :
    d.join operation name = .ok path ↔ Path.isName name = true ∧ path = Path.join d.path name := by
  rw [join]
  split
  · next hname => rw [Except.ok.injEq, eq_comm, and_iff_right hname]
  · next hname => simp [hname]

theorem callsAt_of_join {d : Folder} {operation name path : Text}
    (h : d.join operation name = .ok path) (call : Text → HostCall) :
    d.callsAt name call = [call path] := by
  obtain ⟨hname, rfl⟩ := join_eq_ok_iff.mp h
  rw [callsAt, if_pos hname]

theorem callsAt_of_refused {d : Folder} {name : Text} (h : ¬Path.isName name = true)
    (call : Text → HostCall) : d.callsAt name call = [] := by
  rw [callsAt, if_neg h]

/-- A name that is refused leads to no call. -/
theorem run_join_bind_of_refused (d : Folder) {name : Text} (hname : ¬Path.isName name = true)
    (operation : Text) (f : Text → ExceptT FileError (StateM σ) α) (s : σ) :
    (ExceptT.mk (pure (d.join operation name)) >>= f).run.run s =
      (.error (refusal operation name (.fault .invalid)), s) := by
  apply run_bind_of_eq_error
  rw [join, if_neg hname]
  rfl

section

variable (h : Host φ (StateM σ)) (d : Folder) (name : Text) (state : σ) (calls : List HostCall)

theorem calls_create :
    ((d.create h.watched name).run.run (state, calls)).2.2 =
      calls ++ d.callsAt name .createFile := by
  rw [create, callsAt]
  split
  · next hname =>
    rw [run_join_bind d hname]
    rfl
  · next hname => rw [run_join_bind_of_refused d hname, List.append_nil]

theorem calls_makeFolder :
    ((d.makeFolder h.watched name).run.run (state, calls)).2.2 =
      calls ++ d.callsAt name .createFolder := by
  rw [makeFolder, callsAt]
  split
  · next hname =>
    rw [run_join_bind d hname]
    rfl
  · next hname => rw [run_join_bind_of_refused d hname, List.append_nil]

/-- A folder that is entered has the joined path. -/
theorem calls_enter :
    ((d.enter h.watched name).run.run (state, calls)).2.2 = calls ++ d.callsAt name .find ∧
      ∀ d', ((d.enter h.watched name).run.run (state, calls)).1 = .ok d' →
        Path.isName name = true ∧ d' = ⟨Path.join d.path name⟩ := by
  rw [enter, callsAt]
  split
  · next hname =>
    rw [run_join_bind d hname]
    generalize hfind : (located (Text.ascii "stat") (Path.join d.path name)
      (h.watched.find (Path.join d.path name))).run.run (state, calls) = found
    obtain ⟨r, after⟩ := found
    have hcalls : after.2 = calls ++ [.find (Path.join d.path name)] := by
      rw [← congrArg (fun p => p.2.2) hfind]
      rfl
    cases r with
    | error e =>
        rw [run_bind_of_eq_error hfind]
        exact ⟨hcalls, fun d' hd' => by cases hd'⟩
    | ok item =>
        rw [run_bind_of_eq_ok hfind]
        cases item with
        | file data => exact ⟨hcalls, fun d' hd' => by cases hd'⟩
        | folder => exact ⟨hcalls, fun d' hd' => ⟨hname, (Except.ok.inj hd').symm⟩⟩
  · next hname =>
    rw [run_join_bind_of_refused d hname]
    exact ⟨(List.append_nil _).symm, fun d' hd' => by cases hd'⟩

end

end Folder

end LineMachine
