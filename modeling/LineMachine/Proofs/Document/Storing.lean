import LineMachine.Proofs.Document.Protocol
import LineMachine.Proofs.File.Folder

/-!
# Folders as a store of texts

What a save on the host of a tree does follows from its protocol. Each call is told by what it finds
in the tree and what it adds, and the protocol says which calls there are, so the case distinctions
of saving are not made again here. A save enters the folders of a name one by one; loading goes
along the whole name at once. Both meet at the same file, because a joined path leads to the place
of its folder and then straight down.

`Saved` is what one save changes and `Stored` is what later saves preserve. A `Ledger` remembers the
text that was saved last under each name, and `Kept` says that all of these are still stored.
-/

namespace LineMachine

namespace Document

/-! ### The calls of a save on a tree -/

section

variable {d d' : Folder} {e base text : Text} {names : List Text} {t t' : Tree}
  {es : List (Event Folder Route)} {root : Route}

/-- The routes to which elements of a name lead from a root, down to the last one. -/
def OnWay (root : Route) (names : List Text) (route : Route) : Prop :=
  ∃ es, es <+: names ∧ route = root ++ es

theorem OnWay.mono {names' : List Text} (h : names <+: names') {route : Route}
    (hroute : OnWay root names route) : OnWay root names' route := by
  obtain ⟨es, hes, hroute⟩ := hroute
  exact ⟨es, hes.trans h, hroute⟩

theorem Entering.gains {r : Except FileError Folder} (he : Path.IsSimple e)
    (hd : d.place t = .ok root) (h : Entering d e es r)
    (hes : Performed (Folder.store Tree.host) t es t') : t.Gains (OnWay root [e]) t' := by
  cases h with
  | atOnce sub | refused h =>
      obtain _ | ⟨henter, hdone⟩ := hes
      cases hdone
      rw [(Folder.run_enter he.isName henter).1]
      exact .refl t _
  | notMade h e' =>
      obtain _ | ⟨henter, hdone⟩ := hes
      obtain _ | ⟨hmake, hdone⟩ := hdone
      cases hdone
      have hbefore := (Folder.run_enter he.isName henter).1
      rcases Folder.run_makeFolder he.isName hmake with ⟨hok, -⟩ | ⟨-, hmade⟩
      · cases hok
      · rw [hmade, hbefore]
        exact .refl t _
  | made h r =>
      obtain _ | ⟨henter, hdone⟩ := hes
      obtain _ | ⟨hmake, hdone⟩ := hdone
      obtain _ | ⟨henter', hdone⟩ := hdone
      cases hdone
      have hbefore := (Folder.run_enter he.isName henter).1
      subst hbefore
      rw [(Folder.run_enter he.isName henter').1]
      rcases Folder.run_makeFolder he.isName hmake with ⟨-, hcreate⟩ | ⟨⟨e', herror⟩, -⟩
      · obtain ⟨-, b, hb, -, -, hnone, rfl⟩ := (Folder.createFolder_join d he).mp hcreate
        rw [hd] at hb
        exact .set_folder hnone ⟨[e], List.prefix_refl _, by rw [Except.ok.inj hb]⟩
      · cases herror

/-- A folder that has been entered is there. -/
theorem Entering.place_eq (he : Path.IsSimple e) (h : Entering d e es (.ok d'))
    (hes : Performed (Folder.store Tree.host) t es t') :
    d' = ⟨Path.join d.path e⟩ ∧ ∃ q, d'.place t' = .ok q := by
  have hlast : ∀ before after,
      ((Folder.store Tree.host).enter d e).run.run before = (.ok d', after) →
        d' = ⟨Path.join d.path e⟩ ∧ ∃ q, d'.place after = .ok q := by
    intro before after henter
    obtain ⟨rfl, hentered⟩ := Folder.run_enter he.isName henter
    obtain ⟨rfl, hfind⟩ := hentered d' rfl
    obtain ⟨-, q, hq, -⟩ := (Folder.find_join d he.isName he.ne_dot).mp hfind
    exact ⟨rfl, q, hq⟩
  cases h with
  | atOnce sub =>
      obtain _ | ⟨henter, hdone⟩ := hes
      cases hdone
      exact hlast _ _ henter
  | made h r =>
      obtain _ | ⟨-, hdone⟩ := hes
      obtain _ | ⟨-, hdone⟩ := hdone
      obtain _ | ⟨henter, hdone⟩ := hdone
      cases hdone
      exact hlast _ _ henter

theorem EnteringAll.gains {r : Except FileError Folder} (hnames : ∀ e ∈ names, Path.IsSimple e)
    (hd : d.place t = .ok root) (h : EnteringAll d names es r)
    (hes : Performed (Folder.store Tree.host) t es t') :
    t.Gains (OnWay root names) t' ∧ ∀ d', r = .ok d' →
      Path.isRooted d'.path = Path.isRooted d.path ∧
        Path.cleanElements d'.path = Path.cleanElements d.path ++ names := by
  induction h generalizing t root with
  | nil d =>
      cases hes
      refine ⟨.refl _ _, fun d' hd' => ?_⟩
      rw [← Except.ok.inj hd', List.append_nil]
      exact ⟨rfl, rfl⟩
  | @stop d e names es err h =>
      have hgains := h.gains (hnames e List.mem_cons_self) hd hes
      exact ⟨hgains.mono fun _ => OnWay.mono ⟨names, rfl⟩, nofun⟩
  | @next d d' e names es es' r h h' ih =>
      have he := hnames e List.mem_cons_self
      obtain ⟨t₁, hes, hes'⟩ := performed_append_iff.mp hes
      have hgains := h.gains he hd hes
      obtain ⟨rfl, q, hq⟩ := h.place_eq he hes
      obtain ⟨hgains', hpath⟩ := ih (fun e he => hnames e (List.mem_cons_of_mem _ he)) hq hes'
      refine ⟨.trans (hgains.mono fun _ => OnWay.mono ⟨names, rfl⟩) (hgains'.mono ?_),
        fun d' hd' => ?_⟩
      · rintro route ⟨es, hes, rfl⟩
        obtain ⟨p, hp, hwalk⟩ := (Folder.place_join d he.isName he.ne_dot).mp hq
        rw [Folder.place_of_includes hgains.includes hd] at hp
        have hdown := Tree.eq_append_of_walk
          (fun e he' => Path.isElement_of_mem_elements he.isName he.ne_dot he') hwalk
        refine ⟨e :: es, List.cons_prefix_cons.mpr ⟨rfl, hes⟩, ?_⟩
        rw [hdown, ← Except.ok.inj hp, he.elements_eq, List.append_assoc, List.singleton_append]
      · obtain ⟨hrooted, helements⟩ := hpath d' hd'
        rw [hrooted, helements, Path.isRooted_join d.path he.isName he.ne_dot,
          Path.cleanElements_join d.path he.isName he.ne_dot, he.elements_eq, List.append_assoc,
          List.singleton_append]
        exact ⟨rfl, rfl⟩

/-- A text has been put in the folder at the route `c`, under a name with one element. -/
structure Filed (d : Folder) (base text : Text) (c : Route) (t t' : Tree) : Prop where
  accepted : Tree.accept (Path.join d.path base) = .ok ()
  place : d.place t = .ok c
  folder : t.get? c = some .folder
  length_le : base.length ≤ Tree.elementLimit
  replaced : t.get? (c ++ [base]) ≠ some .folder
  home : t'.home = t.home
  get?_eq : ∀ route,
    t'.get? route = if route = c ++ [base] then some (.file text) else t.get? route

theorem Filed.includes {c : Route} (h : Filed d base text c t t') : t'.Includes t :=
  Tree.includes_of_get?_eq h.home h.replaced h.get?_eq

theorem Filed.zero_not_mem {c : Route} (h : Filed d base text c t t') (hbase : Path.IsSimple base) :
    0 ∉ base :=
  Folder.zero_not_mem_of_accept_join d h.accepted hbase.isName hbase.ne_dot

/-- A file is written as a whole or not at all. -/
theorem Filing.filed {r : Except FileError Unit} (hbase : Path.IsSimple base)
    (h : Filing d base text es r) (hes : Performed (Folder.store Tree.host) t es t') :
    (∃ e, r = .error e) ∧ t' = t ∨ r = .ok () ∧ ∃ c, Filed d base text c t t' := by
  cases h with
  | notCreated e =>
      obtain _ | ⟨hcreate, hdone⟩ := hes
      cases hdone
      rcases Folder.run_create hbase.isName hcreate with ⟨file, hok, -⟩ | ⟨-, h⟩
      · cases hok
      · exact .inl ⟨⟨e, rfl⟩, h⟩
  | notWritten file e r =>
      obtain _ | ⟨-, hdone⟩ := hes
      obtain _ | ⟨hwrite, -⟩ := hdone
      cases hwrite
  | written file r =>
      obtain _ | ⟨hcreate, hdone⟩ := hes
      obtain _ | ⟨hwrite, hdone⟩ := hdone
      obtain _ | ⟨hclose, hdone⟩ := hdone
      cases hdone
      rcases Folder.run_create hbase.isName hcreate with ⟨file', hok, hcreated⟩ | ⟨⟨e, h⟩, -⟩
      · cases hok
        obtain ⟨haccept, b, hb, hfolder, hlength, hfree, rfl, rfl⟩ :=
          (Folder.createFile_join d hbase).mp hcreated
        obtain ⟨-, rfl⟩ := Prod.mk.inj hwrite
        obtain ⟨rfl, rfl⟩ := Prod.mk.inj hclose
        exact .inr ⟨rfl, b, haccept, hb, hfolder, hlength, hfree,
          (Tree.home_append _ _ _).trans (t.home_set _ _), t.get?_append_set hfree text⟩
      · cases h

end

/-- A name with one element is saved without entering any folder. -/
theorem run_save_of_isSimple {d : Folder} {name text : Text} {t t' : Tree}
    {r : Except DocumentError Unit} (hname : Path.IsSimple name)
    (h : (save (Folder.store Tree.host) d name text).run.run t = (r, t')) :
    (∃ e, r = .error e) ∧ t' = t ∨ r = .ok () ∧ ∃ c, Filed d name text c t t' := by
  have hbase : Path.base name = name := by
    rw [Path.base, hname.elements_eq]
    rfl
  obtain ⟨es, r', hperformed, rfl, hsaving⟩ := saving_of_run_save hname.isName hname.ne_dot h
  rw [hname.elements_eq, hbase] at hsaving
  cases hsaving with
  | notEntered hentering => cases hentering
  | filed hentering hfiling =>
      cases hentering
      rcases hfiling.filed hname hperformed with ⟨⟨e, rfl⟩, hsame⟩ | ⟨rfl, hfiled⟩
      · exact .inl ⟨⟨_, rfl⟩, hsame⟩
      · exact .inr ⟨rfl, hfiled⟩

/-- The file is found again if and only if the path of the folder, as it is written, leads to the
folder that the file was put in. -/
theorem Filed.find_lookupPath_iff {d : Folder} {name text : Text} {c : Route} {t t' : Tree}
    (h : Filed d name text c t t') (hname : Path.IsSimple name) (hd : d.path ≠ []) {item : Item} :
    t'.find (d.lookupPath name) = .ok item ↔ Tree.accept (d.lookupPath name) = .ok () ∧
      t.walk (t.start d.path) (Path.elements d.path) = .ok c ∧ item = .file text := by
  have hfile : t'.get? (c ++ [name]) = some (.file text) := by rw [h.get?_eq, if_pos rfl]
  rw [Tree.find_eq_ok_iff]
  simp only [Folder.walk_lookupPath hd, hname.elements_eq]
  refine and_congr_right fun _ => ⟨?_, ?_⟩
  · rintro ⟨q, ⟨p, hwalk, hlast⟩, hq⟩
    obtain ⟨m, hfollow, hm⟩ := Tree.walk_cons_eq_ok_iff.mp hlast
    obtain ⟨hp, -, -, rfl⟩ := (Tree.follow_eq_ok_iff hname.isElement).mp hfollow
    have hplace := Folder.place_of_includes h.includes h.place
    rw [Tree.place_of_walk hwalk, Except.ok.injEq] at hplace
    subst hplace
    rw [Tree.walk_nil, Except.ok.injEq] at hm
    subst hm
    rw [h.includes.start] at hwalk
    refine ⟨Tree.walk_of_folders (fun r' hr' => ?_) hwalk hp, ?_⟩
    · rw [h.get?_eq] at hr'
      split at hr'
      · cases hr'
      · exact hr'
    · exact Option.some.inj (hq.symm.trans hfile)
  · rintro ⟨hwalk, rfl⟩
    have hfollow : t'.follow c name = .ok (c ++ [name]) :=
      (Tree.follow_eq_ok_iff hname.isElement).mpr
        ⟨h.includes.folder _ h.folder, h.length_le, by rw [hfile]; rfl, rfl⟩
    exact ⟨_, ⟨_, h.includes.walk_start hwalk, Tree.walk_cons_eq_ok_iff.mpr ⟨_, hfollow, rfl⟩⟩, hfile⟩

/-! ### One save -/

/-- What has changed after a save that succeeds: the file holds the text, the folders on the way are
there, and else there is nothing new but such folders. -/
structure Saved (b : Route) (name text : Text) (t t' : Tree) : Prop where
  home : t'.home = t.home
  file : t'.get? (b ++ Path.elements name) = some (.file text)
  replaced : t.get? (b ++ Path.elements name) ≠ some .folder
  folders : ∀ es, es <+: Path.elements name → es ≠ Path.elements name →
    t'.get? (b ++ es) = some .folder
  others : ∀ route, route ≠ b ++ Path.elements name → t'.get? route = t.get? route ∨
    t.get? route = none ∧ t'.get? route = some .folder ∧
      OnWay b (Path.elements name).dropLast route

/-- A text is stored under a name of a folder, so that it can be found again. -/
structure Stored (d : Folder) (b : Route) (name text : Text) (t : Tree) : Prop where
  isName : Path.isName name = true
  ne_dot : name ≠ Path.dot
  accepted : Tree.accept (Path.join d.path name) = .ok ()
  place : d.place t = .ok b
  walk : t.walk b (Path.elements name) = .ok (b ++ Path.elements name)
  file : t.get? (b ++ Path.elements name) = some (.file text)

section

variable {d : Folder} {b : Route} {name text : Text} {t t' : Tree}

theorem Saved.includes (h : Saved b name text t t') : t'.Includes t := by
  apply Tree.includes_of_forall h.home
  intro route
  by_cases hfile : route = b ++ Path.elements name
  · rw [hfile, h.file]
    exact .inr ⟨h.replaced, rfl⟩
  · refine (h.others route hfile).imp_right fun ⟨hbefore, hafter, _⟩ => ?_
    exact ⟨by simp [hbefore], by rw [hafter]; rfl⟩

/-- What is stored stays so while the tree keeps all folders and puts nothing in the place of the
file. -/
theorem Stored.of_includes (h : Stored d b name text t) (ht : t'.Includes t)
    (hfile : t'.get? (b ++ Path.elements name) = t.get? (b ++ Path.elements name) ∨
      t.get? (b ++ Path.elements name) = none) :
    Stored d b name text t' where
  isName := h.isName
  ne_dot := h.ne_dot
  accepted := h.accepted
  place := Folder.place_of_includes ht h.place
  walk := ht.walk h.walk
  file := (hfile.resolve_right (by simp [h.file])).trans h.file

theorem Stored.gains {S : Route → Prop} (h : Stored d b name text t) (ht : t.Gains S t') :
    Stored d b name text t' :=
  h.of_includes ht.includes ((ht.view _).imp_right And.left)

theorem Stored.saved {name' text' : Text} (h : Stored d b name text t)
    (ht : Saved b name' text' t t') (hne : name ≠ name') : Stored d b name text t' := by
  have hroute : b ++ Path.elements name ≠ b ++ Path.elements name' :=
    fun heq => hne (Path.elements_injective (List.append_cancel_left heq))
  exact h.of_includes ht.includes ((ht.others _ hroute).imp_right And.left)

/-- A file that is created in the last folder of a name is found from the first one. -/
theorem Filed.saved_and_stored {d' : Folder} {t₁ : Tree} {c : Route}
    (h : Filed d' (Path.base name) text c t₁ t') (hname : Path.isName name = true)
    (hdot : name ≠ Path.dot) (hd : d.place t = .ok b)
    (hgains : t.Gains (OnWay b (Path.elements name).dropLast) t₁)
    (hrooted : Path.isRooted d'.path = Path.isRooted d.path)
    (helements : Path.cleanElements d'.path =
      Path.cleanElements d.path ++ (Path.elements name).dropLast) :
    Saved b name text t t' ∧ Stored d b name text t' := by
  have hsimple := Path.isSimple_base hname hdot
  have hdown : ∀ e ∈ (Path.elements name).dropLast, Path.isElement e = true :=
    fun e he => Path.isElement_of_mem_elements hname hdot (List.mem_of_mem_dropLast he)
  -- The folder of the file is reached from the first folder, and the way down adds the elements.
  obtain ⟨p, hp, hwalk⟩ : ∃ p, d.place t₁ = .ok p ∧
      t₁.walk p (Path.elements name).dropLast = .ok c := by
    have hplace := h.place
    rwa [Folder.place, Tree.start, hrooted, helements, Tree.walk_append_eq_ok_iff] at hplace
  obtain rfl : b = p :=
    Except.ok.inj ((Folder.place_of_includes hgains.includes hd).symm.trans hp)
  obtain rfl := Tree.eq_append_of_walk hdown hwalk
  have hroute : b ++ (Path.elements name).dropLast ++ [Path.base name] =
      b ++ Path.elements name := by
    rw [List.append_assoc, Path.dropLast_elements_append]
  have hjoin : Path.join d'.path (Path.base name) = Path.join d.path name := by
    rw [Path.join_eq_canonical _ hsimple.isName hsimple.ne_dot, hrooted, helements,
      hsimple.elements_eq, List.append_assoc, Path.dropLast_elements_append,
      Path.join_eq_canonical _ hname hdot]
  have hfile : t'.get? (b ++ Path.elements name) = some (.file text) := by
    rw [h.get?_eq, if_pos hroute.symm]
  have hplace : d.place t' = .ok b := Folder.place_of_includes h.includes hp
  have hwalk' : t'.walk b (Path.elements name) = .ok (b ++ Path.elements name) := by
    have hlast : t'.follow (b ++ (Path.elements name).dropLast) (Path.base name) =
        .ok (b ++ Path.elements name) := by
      rw [Tree.follow_eq_ok_iff hsimple.isElement]
      exact ⟨h.includes.folder _ h.folder, h.length_le, by rw [hroute, hfile]; rfl,
        by rw [hroute]⟩
    rw [← Path.dropLast_elements_append name, Tree.walk_append_eq_ok_iff]
    exact ⟨_, h.includes.walk hwalk, Tree.walk_cons_eq_ok_iff.mpr
      ⟨_, hlast, by rw [Path.dropLast_elements_append]; rfl⟩⟩
  refine ⟨⟨h.home.trans hgains.home, hfile, ?_, ?_, ?_⟩, hname, hdot, hjoin ▸ h.accepted, hplace,
    hwalk', hfile⟩
  · intro hbefore
    apply h.replaced
    rw [hroute]
    exact hgains.includes.folder _ hbefore
  · -- A walk that ends at the file has passed through folders only.
    intro es hes hne
    have hgrounded := (Folder.grounded_of_place hplace).walk hwalk'
    exact hgrounded.folders _ ((List.prefix_append_right_inj b).mpr hes)
      fun heq => hne (List.append_cancel_left heq)
  · intro route hne
    rw [h.get?_eq, if_neg (hroute ▸ hne)]
    exact hgains.view route

theorem run_save {r : Except DocumentError Unit} (hd : d.place t = .ok b)
    (h : (save (Folder.store Tree.host) d name text).run.run t = (r, t')) :
    (∃ e, r = .error e) ∧ t.Gains (OnWay b (Path.elements name).dropLast) t' ∨
      r = .ok () ∧ Saved b name text t t' ∧ Stored d b name text t' := by
  by_cases hrefused : Path.isName name = false ∨ name = Path.dot
  · rw [save, saveAs_of_refused _ d name text hrefused] at h
    obtain ⟨rfl, rfl⟩ := Prod.mk.inj h
    exact .inl ⟨⟨_, rfl⟩, .refl t _⟩
  · obtain ⟨hname, hdot⟩ := not_or.mp hrefused
    rw [Bool.not_eq_false] at hname
    obtain ⟨es, r', hperformed, rfl, hsaving⟩ := saving_of_run_save hname hdot h
    have hnames : ∀ e ∈ (Path.elements name).dropLast, Path.IsSimple e :=
      fun e he => Path.isSimple_of_mem_elements hname hdot (List.mem_of_mem_dropLast he)
    cases hsaving with
    | notEntered hentering =>
        exact .inl ⟨⟨_, rfl⟩, (hentering.gains hnames hd hperformed).1⟩
    | filed hentering hfiling =>
        obtain ⟨t₁, hentered, hfiled⟩ := performed_append_iff.mp hperformed
        obtain ⟨hgains, hpath⟩ := hentering.gains hnames hd hentered
        rcases hfiling.filed (Path.isSimple_base hname hdot) hfiled with
          ⟨⟨e, rfl⟩, rfl⟩ | ⟨rfl, c, hfile⟩
        · exact .inl ⟨⟨_, rfl⟩, hgains⟩
        · obtain ⟨hrooted, helements⟩ := hpath _ rfl
          exact .inr ⟨rfl, hfile.saved_and_stored hname hdot hd hgains hrooted helements⟩

/-! ### Loading what has been saved -/

/-- Loading gives the text, with the replacement character for each maximal run of stray bytes. From
the working folder it fails if the name has no room for a dot and a slash in front, and changes
nothing then either. -/
def Loads (d : Folder) (name text : Text) (t : Tree) : Prop :=
  ∃ loaded : Text, loaded.pieces = Text.mend text.pieces ∧ (text.isUtf8 = true → loaded = text) ∧
    (load (Folder.shelf Tree.host) d name).run.run t =
      (if d.path = Path.dot ∧ Tree.pathLimit ≤ name.length + 2 then
          .error ⟨name, .path (Text.ascii "stat") name (.system .nameTooLong)⟩
        else .ok loaded, t)

theorem Stored.zero_not_mem (h : Stored d b name text t) : 0 ∉ name :=
  Folder.zero_not_mem_of_accept_join d h.accepted h.isName h.ne_dot

/-- The path by which a name is looked up leads to what is stored there. -/
theorem Stored.find_lookupPath (h : Stored d b name text t) (hd : Path.clean d.path = d.path)
    (haccept : Tree.accept (d.lookupPath name) = .ok ()) :
    t.find (d.lookupPath name) = .ok (.file text) := by
  have hwalk := (Folder.walk_lookupPath (Path.ne_nil_of_clean_eq hd) name).mpr
    ⟨_, (Tree.walk_of_clean_eq hd).mpr h.place, h.walk⟩
  exact Tree.find_eq_ok_iff.mpr ⟨haccept, _, hwalk, h.file⟩

theorem Stored.loads (h : Stored d b name text t) (hd : Path.clean d.path = d.path) :
    Loads d name text t := by
  have hne := Path.ne_nil_of_clean_eq hd
  refine ⟨text.repair, Text.pieces_repair text, Text.repair_eq_self_of_isUtf8, ?_⟩
  by_cases hdot : d.path = Path.dot
  · have hlookup : d.lookupPath name = Path.dot ++ [Path.slash] ++ name := by
      rw [Folder.lookupPath, hdot]
      rfl
    have hzero : 0 ∉ d.lookupPath name := by
      rw [hlookup, List.mem_append]
      exact not_or.mpr ⟨by decide, h.zero_not_mem⟩
    have hlength : (d.lookupPath name).length = name.length + 2 := by
      rw [hlookup, List.length_append, Nat.add_comm]
      rfl
    by_cases hlong : Tree.pathLimit ≤ name.length + 2
    · rw [if_pos ⟨hdot, hlong⟩]
      exact run_load_of_error h.isName h.zero_not_mem hne
        (t.find_of_pathLimit_le hzero (hlength ▸ hlong))
    · rw [if_neg fun hboth => hlong hboth.2]
      apply run_load_of_file h.isName h.zero_not_mem hne
      apply h.find_lookupPath hd
      rw [Tree.accept_eq_ok_iff, hlength]
      exact ⟨hzero, by rw [hlookup]; exact List.cons_ne_nil _ _, Nat.not_le.mp hlong⟩
  · rw [if_neg fun hboth => hdot hboth.1]
    apply run_load_of_file h.isName h.zero_not_mem hne
    apply h.find_lookupPath hd
    rw [Folder.lookupPath_eq_join hd hdot h.isName h.ne_dot]
    exact h.accepted

end

/-! ### Many saves -/

/-- A tree, and the text that was saved last under each name. -/
structure Ledger where
  tree : Tree
  texts : Text → Option Text

namespace Ledger

/-- Save a text under a name. A save that fails leaves the texts as they are. -/
def save (d : Folder) (l : Ledger) (request : Text × Text) : Ledger :=
  match (Document.save (Folder.store Tree.host) d request.1 request.2).run.run l.tree with
  | (.ok (), after) =>
    { tree := after,
      texts := fun name => if name = request.1 then some request.2 else l.texts name }
  | (.error _, after) => { l with tree := after }

/-- Save texts under names, one after the other. -/
def saveAll (d : Folder) (l : Ledger) (requests : List (Text × Text)) : Ledger :=
  requests.foldl (save d) l

/-- The folder is still in its place, and all texts are stored. -/
structure Kept (d : Folder) (root : Route) (l : Ledger) : Prop where
  place : d.place l.tree = .ok root
  stored : ∀ name text, l.texts name = some text → Stored d root name text l.tree

theorem Kept.save {d : Folder} {root : Route} {l : Ledger} (h : Kept d root l)
    (request : Text × Text) : Kept d root (l.save d request) := by
  obtain ⟨name, text⟩ := request
  rw [Ledger.save]
  generalize hrun : (Document.save (Folder.store Tree.host) d name text).run.run l.tree = run
  obtain ⟨r, after⟩ := run
  rcases run_save h.place hrun with ⟨⟨e, rfl⟩, hgains⟩ | ⟨rfl, hsaved, hstored⟩
  · exact ⟨Folder.place_of_includes hgains.includes h.place,
      fun name' text' hlast => (h.stored name' text' hlast).gains hgains⟩
  · refine ⟨hstored.place, fun name' text' hlast => ?_⟩
    change (if name' = name then some text else l.texts name') = some text' at hlast
    by_cases hname : name' = name
    · rw [if_pos hname] at hlast
      rw [hname, ← Option.some.inj hlast]
      exact hstored
    · rw [if_neg hname] at hlast
      exact (h.stored name' text' hlast).saved hsaved hname

theorem Kept.saveAll {d : Folder} {root : Route} {l : Ledger} (h : Kept d root l)
    (requests : List (Text × Text)) : Kept d root (l.saveAll d requests) := by
  induction requests generalizing l with
  | nil => exact h
  | cons request requests ih => exact ih (h.save request)

end Ledger

/-- A folder with a cleaned path is a store of texts. After any saves, the next one that succeeds
puts its text in the file of its name, makes no other file and changes none, and the text can be
loaded; one that fails makes nothing but folders on the way. The text that was saved last under a
name can still be loaded. The only exception is a name in the working folder that is within two
bytes of the longest path: its file is there, but looking it up fails. -/
theorem save_keeps_texts (t : Tree) (path : Text) (root : Route) (hclean : Path.clean path = path)
    (hroot : t.resolve path = .ok root) (requests : List (Text × Text)) :
    let l := Ledger.saveAll ⟨path⟩ ⟨t, fun _ => none⟩ requests
    (∀ name text after,
      (save (Folder.store Tree.host) ⟨path⟩ name text).run.run l.tree = (.ok (), after) →
        Saved root name text l.tree after ∧ Loads ⟨path⟩ name text after) ∧
      (∀ name text e after,
        (save (Folder.store Tree.host) ⟨path⟩ name text).run.run l.tree = (.error e, after) →
          l.tree.Gains (OnWay root (Path.elements name).dropLast) after) ∧
      ∀ name text, l.texts name = some text → Loads ⟨path⟩ name text l.tree := by
  intro l
  have hkept : Ledger.Kept ⟨path⟩ root l :=
    Ledger.Kept.saveAll ⟨Tree.place_of_resolve hroot, by simp⟩ requests
  refine ⟨fun name text after hrun => ?_, fun name text e after hrun => ?_,
    fun name text hlast => ?_⟩
  · rcases run_save hkept.place hrun with ⟨⟨e, herror⟩, -⟩ | ⟨-, hsaved, hstored⟩
    · cases herror
    · exact ⟨hsaved, hstored.loads hclean⟩
  · rcases run_save hkept.place hrun with ⟨-, hgains⟩ | ⟨hok, -⟩
    · exact hgains
    · cases hok
  · exact (hkept.stored name text hlast).loads hclean

/-- A file system with a working folder that has one folder in it. -/
def busyTree : Tree :=
  { items := [([Text.ascii "tmp", Text.ascii "w", Text.ascii "d"], .folder)],
    home := [Text.ascii "tmp", Text.ascii "w"] }

/-- A text that is saved twice under a name with a folder, which then stands in the way of a third
save. -/
def busyRequests : List (Text × Text) :=
  [(Text.ascii "a/b", Text.ascii "INC AX"), (Text.ascii "a/b", Text.ascii "DEC AX" ++ [0xFF]),
    (Text.ascii "a/b/c", Text.ascii "INC AX")]

theorem save_keeps_texts_busyRequests :
    Path.clean (Text.ascii "../w/d") = Text.ascii "../w/d" ∧
      busyTree.resolve (Text.ascii "../w/d") =
        .ok [Text.ascii "tmp", Text.ascii "w", Text.ascii "d"] ∧
      Loads ⟨Text.ascii "../w/d"⟩ (Text.ascii "a/b") (Text.ascii "DEC AX" ++ [0xFF])
        (Ledger.saveAll ⟨Text.ascii "../w/d"⟩ ⟨busyTree, fun _ => none⟩ busyRequests).tree :=
  ⟨by decide, rfl, (save_keeps_texts _ _ _ (by decide) rfl busyRequests).2.2 _ _ (by decide)⟩

/-- Fifteen folders and a file in the last one, all with long names: 4094 bytes with the slashes. -/
def longName : Text :=
  Path.ofElements (List.replicate 15 (List.replicate 255 (Text.byte 'a')) ++
    [List.replicate 254 (Text.byte 'a')])

set_option maxRecDepth 100000 in
/-- A text that was saved in the working folder and cannot be loaded. -/
theorem load_longName_fails : ∃ after,
    (save (Folder.store Tree.host) ⟨Path.dot⟩ longName []).run.run {} = (.ok (), after) ∧
      (load (Folder.shelf Tree.host) ⟨Path.dot⟩ longName).run.run after =
        (.error ⟨longName, .path (Text.ascii "stat") longName (.system .nameTooLong)⟩, after) := by
  have hsaved : ((save (Folder.store Tree.host) ⟨Path.dot⟩ longName []).run.run {}).1.isOk =
      true := by
    decide +kernel
  have hlong : Tree.pathLimit ≤ longName.length + 2 := by decide +kernel
  generalize hrun : (save (Folder.store Tree.host) ⟨Path.dot⟩ longName []).run.run {} = run
    at hsaved
  obtain ⟨r, after⟩ := run
  have hplace : Folder.place ⟨Path.dot⟩ {} = .ok [] := rfl
  rcases run_save hplace hrun with ⟨⟨e, rfl⟩, -⟩ | ⟨rfl, -, hstored⟩
  · cases hsaved
  · obtain ⟨loaded, -, -, hload⟩ := hstored.loads (by decide)
    rw [if_pos ⟨rfl, hlong⟩] at hload
    exact ⟨after, rfl, hload⟩

end Document

end LineMachine
