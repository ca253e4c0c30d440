import LineMachine.Proofs.Document.Storing
import LineMachine.Proofs.Text.Encoding

/-!
# The calls of a load

A shelf may be anything and answer as it likes. A load first asks whether there is a regular file and
then, only if there is one, for its bytes. `Loading` lists the ways this can go, by the answers of the
shelf, together with the result: the text, or the error of the call that failed under the name of the
document. `Look` is a call with its answer, and `recordedShelf` is a shelf that writes them down.

What is loaded is the stored text as it is mended, so it is well-formed, and it is loaded as it is
when it has been saved.
-/

namespace LineMachine.Document

variable {δ σ : Type}

/-- A call on a shelf and its answer. -/
inductive Look (δ : Type) where
  | isRegular (folder : δ) (name : Text) (answer : Except FileError Bool)
  | read (folder : δ) (name : Text) (answer : Except FileError Text)

/-- The shelf that does the same as `s` and writes down all calls, the first one first. -/
def recordedShelf (s : Shelf δ (StateM σ)) : Shelf δ (StateM (σ × List (Look δ))) where
  isRegular d name := recording (s.isRegular d name) fun r => [.isRegular d name r]
  read d name := recording (s.read d name) fun r => [.read d name r]

/-- How a load goes from a state: its result, the state after it and the calls. -/
inductive Loading (s : Shelf δ (StateM σ)) (d : δ) (name : Text) (before : σ) :
    Except DocumentError Text → σ → List (Look δ) → Prop where
  | notTold {e : FileError} {after : σ} :
      (s.isRegular d name).run.run before = (.error e, after) →
      Loading s d name before (.error ⟨name, e⟩) after [.isRegular d name (.error e)]
  | irregular {after : σ} :
      (s.isRegular d name).run.run before = (.ok false, after) →
      Loading s d name before (.error ⟨name, .bare .corrupt⟩) after [.isRegular d name (.ok false)]
  | notRead {between after : σ} {e : FileError} :
      (s.isRegular d name).run.run before = (.ok true, between) →
      (s.read d name).run.run between = (.error e, after) →
      Loading s d name before (.error ⟨name, e⟩) after
        [.isRegular d name (.ok true), .read d name (.error e)]
  | done {between after : σ} {data text : Text} :
      (s.isRegular d name).run.run before = (.ok true, between) →
      (s.read d name).run.run between = (.ok data, after) → Text.Mended data text →
      Loading s d name before (.ok text) after
        [.isRegular d name (.ok true), .read d name (.ok data)]

/-! ### The run of a load -/

section

variable {s : Shelf δ (StateM σ)} {d : δ} {name : Text} {before between after : σ} {e : FileError}

theorem run_isRegular_recordedShelf {r : Except FileError Bool}
    (h : (s.isRegular d name).run.run before = (r, after)) (looks : List (Look δ)) :
    ((recordedShelf s).isRegular d name).run.run (before, looks) =
      (r, after, looks ++ [.isRegular d name r]) :=
  run_recording h (fun r => [Look.isRegular d name r]) looks

theorem run_read_recordedShelf {r : Except FileError Text}
    (h : (s.read d name).run.run before = (r, after)) (looks : List (Look δ)) :
    ((recordedShelf s).read d name).run.run (before, looks) =
      (r, after, looks ++ [.read d name r]) :=
  run_recording h (fun r => [Look.read d name r]) looks

theorem run_load_of_notTold (h : (s.isRegular d name).run.run before = (.error e, after)) :
    (load s d name).run.run before = (.error ⟨name, e⟩, after) :=
  run_named (run_bind_of_eq_error h _) name

theorem run_load_of_irregular (h : (s.isRegular d name).run.run before = (.ok false, after)) :
    (load s d name).run.run before = (.error ⟨name, .bare .corrupt⟩, after) := by
  refine run_named (r := .error (.bare .corrupt)) ?_ name
  rw [loadFrom, run_bind_of_eq_ok h]
  rfl

theorem run_load_of_notRead (hregular : (s.isRegular d name).run.run before = (.ok true, between))
    (hread : (s.read d name).run.run between = (.error e, after)) :
    (load s d name).run.run before = (.error ⟨name, e⟩, after) := by
  refine run_named (r := .error e) ?_ name
  rw [loadFrom, run_bind_of_eq_ok hregular]
  exact run_bind_of_eq_error hread _

variable (s d name before)

/-- A load goes in one of these ways, and whether its calls are written down makes no difference. -/
theorem exists_loading :
    ∃ result after looks,
      (load (recordedShelf s) d name).run.run (before, []) = (result, after, looks) ∧
      (load s d name).run.run before = (result, after) ∧
      Loading s d name before result after looks := by
  generalize hregular : (s.isRegular d name).run.run before = told
  have hrecorded := run_isRegular_recordedShelf hregular []
  obtain ⟨e | _ | _, between⟩ := told
  · exact ⟨_, _, _, run_load_of_notTold hrecorded, run_load_of_notTold hregular, .notTold hregular⟩
  · exact ⟨_, _, _, run_load_of_irregular hrecorded, run_load_of_irregular hregular,
      .irregular hregular⟩
  · generalize hread : (s.read d name).run.run between = answered
    have hrecorded' := run_read_recordedShelf hread [.isRegular d name (.ok true)]
    obtain ⟨e | data, after⟩ := answered
    · exact ⟨_, _, _, run_load_of_notRead hrecorded hrecorded',
        run_load_of_notRead hregular hread, .notRead hregular hread⟩
    · exact ⟨_, _, _, run_load_of_isRegular hrecorded hrecorded',
        run_load_of_isRegular hregular hread, .done hregular hread (Text.mended_iff.mpr rfl)⟩

end

section

variable {s : Shelf δ (StateM σ)} {d : δ} {name text : Text} {before after : σ}
  {result : Except DocumentError Text} {looks : List (Look δ)}

theorem Loading.exists_ok_iff (h : Loading s d name before result after looks) :
    (∃ text, result = .ok text) ↔ ∃ between data after',
      (s.isRegular d name).run.run before = (.ok true, between) ∧
        (s.read d name).run.run between = (.ok data, after') := by
  constructor
  · rintro ⟨text, rfl⟩
    cases h with
    | done hregular hread _ => exact ⟨_, _, _, hregular, hread⟩
  · rintro ⟨between, data, after', hregular, hread⟩
    cases h with
    | notTold h => cases h.symm.trans hregular
    | irregular h => cases h.symm.trans hregular
    | notRead h h' =>
        cases h.symm.trans hregular
        cases h'.symm.trans hread
    | done => exact ⟨_, rfl⟩

theorem Loading.exists_mended (h : Loading s d name before (.ok text) after looks) :
    ∃ data, looks = [.isRegular d name (.ok true), .read d name (.ok data)] ∧
      text = data.repair := by
  cases h with
  | done _ _ hmended => exact ⟨_, rfl, Text.mended_iff.mp hmended⟩

end

/-- A text that is saved in a folder with a cleaned path is loaded from there again. -/
theorem load_after_save {text : Text} (htext : text.isUtf8 = true) {t t' : Tree} {d : Folder}
    {root : Route} {name : Text} (hclean : Path.clean d.path = d.path)
    (hroot : t.resolve d.path = .ok root)
    (hsave : (save (Folder.store Tree.host) d name text).run.run t = (.ok (), t')) :
    (load (Folder.shelf Tree.host) d name).run.run t' =
      (if d.path = Path.dot ∧ Tree.pathLimit ≤ name.length + 2 then
          .error ⟨name, .path (Text.ascii "stat") name (.system .nameTooLong)⟩
        else .ok text, t') := by
  rcases run_save (Tree.place_of_resolve hroot) hsave with ⟨⟨e, he⟩, -⟩ | ⟨-, -, hstored⟩
  · cases he
  · obtain ⟨loaded, -, hloaded, hrun⟩ := hstored.loads hclean
    rwa [hloaded htext] at hrun

/-- Loading gives a well-formed text in which nothing valid is lost, or it fails as the call that
failed. It goes in one of the ways of `Loading` whatever the shelf answers, and gives a text if and
only if there is a regular file whose bytes are read. The text is made of characters; it is the
stored text if and only if that is; and it is the one text that comes from the stored one by putting
the replacement character for each maximal run of bytes which no character takes up. So it is loaded
as it is wherever it has been saved: from any shelf that gives its bytes, and from a folder with a
cleaned path after a save there, unless the path has become too long to be looked up. -/
theorem load_mends_or_fails (s : Shelf δ (StateM σ)) (d : δ) (name : Text) (before : σ) :
    ∃ result after looks,
      (load (recordedShelf s) d name).run.run (before, []) = (result, after, looks) ∧
      (load s d name).run.run before = (result, after) ∧
      Loading s d name before result after looks ∧
      ((∃ text, result = .ok text) ↔ ∃ between data after',
        (s.isRegular d name).run.run before = (.ok true, between) ∧
          (s.read d name).run.run between = (.ok data, after')) ∧
      ∀ text, result = .ok text →
        (∃ data, looks = [.isRegular d name (.ok true), .read d name (.ok data)] ∧
          (text = data ↔ ∃ cs : List Char, data = cs.flatMap Text.encoding) ∧
          ∀ text', Text.Mended data text' ↔ text' = text) ∧
        (∃ cs : List Char, text = cs.flatMap Text.encoding) ∧
        (∀ (δ' σ' : Type) (s' : Shelf δ' (StateM σ')) (d' : δ') (name' : Text) (b m a : σ'),
          (s'.isRegular d' name').run.run b = (.ok true, m) →
          (s'.read d' name').run.run m = (.ok text, a) →
          (load s' d' name').run.run b = (.ok text, a)) ∧
        ∀ (t t' : Tree) (root : Route) (d' : Folder) (name' : Text),
          Path.clean d'.path = d'.path → t.resolve d'.path = .ok root →
          (save (Folder.store Tree.host) d' name' text).run.run t = (.ok (), t') →
          (load (Folder.shelf Tree.host) d' name').run.run t' =
            (if d'.path = Path.dot ∧ Tree.pathLimit ≤ name'.length + 2 then
                .error ⟨name', .path (Text.ascii "stat") name' (.system .nameTooLong)⟩
              else .ok text, t') := by
  obtain ⟨result, after, looks, hrecorded, hrun, hloading⟩ := exists_loading s d name before
  refine ⟨result, after, looks, hrecorded, hrun, hloading, hloading.exists_ok_iff, ?_⟩
  rintro text rfl
  obtain ⟨data, hlooks, rfl⟩ := hloading.exists_mended
  have hutf8 := Text.isUtf8_repair data
  refine ⟨⟨data, hlooks, ?_, fun _ => Text.mended_iff⟩, Text.isUtf8_iff.mp hutf8, ?_,
    fun t t' root d' name' => load_after_save hutf8⟩
  · rw [← Text.isUtf8_iff, Text.repair_eq_self_iff]
  · intro δ' σ' s' d' name' b m a hregular hread
    rw [run_load_of_isRegular hregular hread, Text.repair_eq_self_of_isUtf8 hutf8]

/-- The damaged program is mended when it is loaded, and loaded as it is after it has been saved. -/
theorem load_mends_or_fails_damaged :
    ∃ text after,
      (load (Folder.shelf Tree.host) ⟨Path.dot⟩ (Text.ascii "a.tom")).run.run damagedTree =
        (.ok text, damagedTree) ∧
      text ≠ damaged ∧ Text.Mended damaged text ∧
      (save (Folder.store Tree.host) ⟨Path.dot⟩ (Text.ascii "b.tom") text).run.run damagedTree =
        (.ok (), after) ∧
      (load (Folder.shelf Tree.host) ⟨Path.dot⟩ (Text.ascii "b.tom")).run.run after =
        (.ok text, after) := by
  have hregular : ((Folder.shelf Tree.host).isRegular ⟨Path.dot⟩ (Text.ascii "a.tom")).run.run
      damagedTree = (.ok true, damagedTree) := rfl
  have hread : ((Folder.shelf Tree.host).read ⟨Path.dot⟩ (Text.ascii "a.tom")).run.run
      damagedTree = (.ok damaged, damagedTree) := rfl
  have hne : damaged.repair ≠ damaged := by decide +kernel
  have hsaved : ((save (Folder.store Tree.host) ⟨Path.dot⟩ (Text.ascii "b.tom")
      damaged.repair).run.run damagedTree).1.isOk = true := by decide +kernel
  generalize hsave : (save (Folder.store Tree.host) ⟨Path.dot⟩ (Text.ascii "b.tom")
    damaged.repair).run.run damagedTree = saved at hsaved
  obtain ⟨e | ⟨⟩, after⟩ := saved
  · cases hsaved
  · obtain ⟨result, after', looks, -, hrun, -, -, htext⟩ := load_mends_or_fails
      (Folder.shelf Tree.host) ⟨Path.dot⟩ (Text.ascii "a.tom") damagedTree
    have hload := run_load_of_isRegular hregular hread
    cases hrun.symm.trans hload
    obtain ⟨-, -, -, hagain⟩ := htext _ rfl
    refine ⟨_, after, hload, hne, Text.mended_iff.mpr rfl, hsave, ?_⟩
    exact hagain damagedTree after [] ⟨Path.dot⟩ (Text.ascii "b.tom") (by decide) rfl hsave

end LineMachine.Document
