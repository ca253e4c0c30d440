import LineMachine.Proofs.Machine.Canonical
import LineMachine.Proofs.Machine.Meaning
import LineMachine.Proofs.Text.Joining

/-!
# Reformatting a program

`reformat code` is the program with the canonical line of each instruction and with one line feed
between neighbouring lines. Lines that are no instructions stay as they are, byte for byte.

A spelling starts and ends with a visible character, and no line break stands in it. So the lines of
the reformatted text are the rewritten lines, as many as before (`lines_reformat`). A jump therefore
goes where it went, and the program runs as it did.
-/

namespace LineMachine

namespace Text

theorem not_isPrintable_of_mem_breaks {w : Text} {b : UInt8} (hw : w ∈ breaks) (hb : b ∈ w) :
    isPrintable b = false := by
  have hall : breaks.all (fun v => v.all fun c => !isPrintable c) = true := by decide
  simpa using List.all_eq_true.mp (List.all_eq_true.mp hall w hw) b hb

theorem not_isVisible_of_mem_spaces {w : Text} {b : UInt8} (hw : w ∈ spaces) (hb : b ∈ w) :
    isVisible b = false := by
  have hall : spaces.all (fun v => v.all fun c => !isVisible c) = true := by decide
  simpa using List.all_eq_true.mp (List.all_eq_true.mp hall w hw) b hb

theorem breakFree_of_all_isPrintable {t : Text} (h : t.all isPrintable = true) : BreakFree t := by
  intro w hw hpart
  have hne : w ≠ [] := ne_of_mem_of_not_mem (breaks_subset_spaces hw) not_nil_mem_spaces
  have hmem := List.head_mem hne
  have hprintable := List.all_eq_true.mp h _ (hpart.subset hmem)
  simp [not_isPrintable_of_mem_breaks hw hmem] at hprintable

theorem startsInked_of_isVisible {t : Text} (hne : t ≠ []) (h : isVisible (t.head hne) = true) :
    StartsInked t := by
  refine ⟨hne, fun w hw hstarts => ?_⟩
  have hw' : w ≠ [] := ne_of_mem_of_not_mem hw not_nil_mem_spaces
  have hblank := not_isVisible_of_mem_spaces hw (List.head_mem hw')
  simp [hstarts.head hw', h] at hblank

theorem endsInked_append_of_isVisible (t : Text) {u : Text} (hne : u ≠ [])
    (h : isVisible (u.getLast hne) = true) : EndsInked (t ++ u) := by
  refine ⟨List.append_ne_nil_of_right_ne_nil t hne, fun w hw hends => ?_⟩
  have hw' : w ≠ [] := ne_of_mem_of_not_mem hw not_nil_mem_spaces
  have hblank := not_isVisible_of_mem_spaces hw (List.getLast_mem hw')
  simp [hends.getLast hw', List.getLast_append_of_ne_nil _ hne, h] at hblank

end Text

namespace Spells

variable {line : Text} {c : Code}

theorem breakFree (h : Spells line c) : line.BreakFree :=
  Text.breakFree_of_all_isPrintable h.all_isPrintable

theorem startsInked (h : Spells line c) : line.StartsInked := by
  cases h with
  | move hd r => exact Text.startsInked_of_isVisible (List.cons_ne_nil _ _) rfl
  | combine op s r =>
      cases op <;> exact Text.startsInked_of_isVisible (List.cons_ne_nil _ _) rfl
  | jump c hd => cases c <;> exact Text.startsInked_of_isVisible (List.cons_ne_nil _ _) rfl

/-- A spelling ends with the name of a register or with a digit. -/
theorem endsInked (h : Spells line c) : line.EndsInked := by
  cases h with
  | move hd r => exact Text.endsInked_append_of_isVisible _ (List.cons_ne_nil _ _) rfl
  | combine op s r => exact Text.endsInked_append_of_isVisible _ (List.cons_ne_nil _ _) rfl
  | jump c hd =>
      have hdigit := hd.2 _ (List.getLast_mem hd.1)
      exact Text.endsInked_append_of_isVisible _ hd.1 (Text.isVisible_of_isDigit hdigit)

end Spells

/-- The line in its canonical form, if it is an instruction. -/
def Instruction.canonicalLine (line : Text) : Text :=
  match decode line with
  | .ok i => i.text
  | .error _ => line

/-- The program with the canonical line of each instruction. -/
def Text.reformat (code : Text) : Text :=
  join [newline] ((lines code).map Instruction.canonicalLine)

namespace Instruction

theorem canonicalLine_of_decode_ok {line : Text} {i : Instruction} (h : decode line = .ok i) :
    canonicalLine line = i.text := by
  rw [canonicalLine, h]

theorem canonicalLine_of_decode_error {line : Text} {e : DecodeError}
    (h : decode line = .error e) : canonicalLine line = line := by
  rw [canonicalLine, h]

theorem meaning_canonicalLine (line : Text) : meaning (canonicalLine line) = meaning line := by
  cases h : decode line with
  | ok i =>
      have hvalue := (spells_code_of_decode h).value_le
      rw [canonicalLine_of_decode_ok h, meaning, meaning, decode_text hvalue, h]
  | error e => rw [canonicalLine_of_decode_error h]

/-- What holds of a line and of all spellings holds of its canonical form. -/
theorem canonicalLine_of_spells {p : Text → Prop} (hspells : ∀ l c, Spells l c → p l)
    {line : Text} (hline : p line) : p (canonicalLine line) := by
  cases h : decode line with
  | ok i =>
      rw [canonicalLine_of_decode_ok h]
      exact hspells _ i.code (spells_text (spells_code_of_decode h).value_le)
  | error e => rwa [canonicalLine_of_decode_error h]

end Instruction

open Instruction

theorem Text.AreLines.map_canonicalLine {ls : List Text} (h : AreLines ls) :
    AreLines (ls.map canonicalLine) where
  breakFree := by
    intro l hl
    obtain ⟨k, hk, rfl⟩ := List.mem_map.mp hl
    exact canonicalLine_of_spells (fun _ _ => Spells.breakFree) (h.breakFree k hk)
  first := by
    intro l hl
    rw [List.head?_map] at hl
    obtain ⟨k, hk, rfl⟩ := Option.mem_map.mp hl
    exact canonicalLine_of_spells (fun _ _ => Spells.startsInked) (h.first k hk)
  last := by
    intro l hl
    rw [List.getLast?_map] at hl
    obtain ⟨k, hk, rfl⟩ := Option.mem_map.mp hl
    exact canonicalLine_of_spells (fun _ _ => Spells.endsInked) (h.last k hk)

theorem Text.lines_reformat (code : Text) :
    lines (reformat code) = (lines code).map canonicalLine :=
  lines_join (areLines_lines code).map_canonicalLine

/-- A reformatted program leaves the machine as the program does: with the same registers, flag,
counters and log. -/
theorem Machine.run_reformat (m : Machine) (code : Text) : m.run code.reformat = m.run code := by
  apply run_congr
  rw [Text.lines_reformat, List.map_map]
  apply List.map_congr_left
  intro line _
  exact meaning_canonicalLine line

end LineMachine
