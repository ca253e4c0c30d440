import LineMachine.Document
import LineMachine.Proofs.Computation
import LineMachine.Proofs.Machine.Grammar
import LineMachine.Proofs.Machine.Meaning
import LineMachine.Proofs.Text.Breaks

/-!
# Running a loaded document

Loading repairs a text, and a damaged program runs as its repaired text does. The lines of the
repaired text are the repaired lines, and repair changes no instruction into anything else and makes
none: all bytes of an instruction are ASCII, and a repaired line either has a replacement character
or is the line itself.
-/

namespace LineMachine

theorem Spells.all_isAscii {line : Text} {c : Code} (h : Spells line c) :
    line.all Text.isAscii = true := by
  have hprintable := List.all_eq_true.mp h.all_isPrintable
  rw [List.all_eq_true]
  intro b hb
  have hb := hprintable b hb
  rw [Text.isPrintable, Bool.and_eq_true, decide_eq_true_eq, decide_eq_true_eq] at hb
  exact decide_eq_true (UInt8.lt_of_lt_of_le hb.2 (by decide))

theorem Instruction.meaning_repair (line : Text) : meaning line.repair = meaning line := by
  cases hrepaired : decode line.repair with
  | ok i =>
      rw [Text.repair_eq_self_of_all_isAscii_repair (spells_code_of_decode hrepaired).all_isAscii]
  | error e =>
      cases hline : decode line with
      | ok i =>
          rw [Text.repair_eq_self_of_all_isAscii (spells_code_of_decode hline).all_isAscii]
      | error e' => rw [meaning_of_decode_error hrepaired, meaning_of_decode_error hline]

theorem Machine.run_repair (m : Machine) (code : Text) : m.run code.repair = m.run code := by
  apply run_congr
  rw [Text.lines_repair, List.map_map]
  exact List.map_congr_left fun line _ => Instruction.meaning_repair line

namespace Document

variable {δ σ : Type} {s : Shelf δ (StateM σ)} {d : δ} {name data : Text}
  {before between after : σ}

theorem run_load_of_isRegular
    (hregular : (s.isRegular d name).run.run before = (.ok true, between))
    (hread : (s.read d name).run.run between = (.ok data, after)) :
    (load s d name).run.run before = (.ok data.repair, after) := by
  refine run_named (r := .ok data.repair) ?_ name
  rw [loadFrom, run_bind_of_eq_ok hregular]
  exact run_bind_of_eq_ok hread _

/-- A document that is loaded from a regular file is what is stored there, with the replacement
character for each maximal run of stray bytes. It runs as the stored bytes do: every field of the
machine is the same afterwards, and so is the log. -/
theorem load_runs_as_stored
    (hregular : (s.isRegular d name).run.run before = (.ok true, between))
    (hread : (s.read d name).run.run between = (.ok data, after)) :
    ∃ text, (load s d name).run.run before = (.ok text, after) ∧
      text.pieces = Text.mend data.pieces ∧ ∀ m : Machine, m.run text = m.run data :=
  ⟨data.repair, run_load_of_isRegular hregular hread, Text.pieces_repair data,
    fun m => m.run_repair data⟩

/-- A program text in which stray bytes stand on both sides of a line separator, and the beginning
of a second line separator at the end. -/
def damaged : Text :=
  Text.ascii "MOV 1, AX" ++ [0xFF, 0xE2, 0x80, 0xA8, 0x80] ++ Text.ascii "JMP 1" ++ [0xE2, 0x80]

/-- A working folder with the damaged program and nothing else. -/
def damagedTree : Tree := { items := [([Text.ascii "a.tom"], .file damaged)] }

theorem load_runs_as_stored_damaged :
    ((Folder.shelf Tree.host).isRegular ⟨Path.dot⟩ (Text.ascii "a.tom")).run.run damagedTree =
        (.ok true, damagedTree) ∧
      ((Folder.shelf Tree.host).read ⟨Path.dot⟩ (Text.ascii "a.tom")).run.run damagedTree =
        (.ok damaged, damagedTree) ∧
      ∃ text,
        (load (Folder.shelf Tree.host) ⟨Path.dot⟩ (Text.ascii "a.tom")).run.run damagedTree =
          (.ok text, damagedTree) ∧
        text.pieces = Text.mend damaged.pieces ∧ ∀ m : Machine, m.run text = m.run damaged :=
  ⟨rfl, rfl, load_runs_as_stored rfl rfl⟩

end Document

end LineMachine
