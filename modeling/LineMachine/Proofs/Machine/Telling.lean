import LineMachine.Proofs.Machine.Forward
import LineMachine.Proofs.Machine.Panel

/-!
# What a verbose run tells

A verbose machine tells of the reset, of each line before it executes it, and in the end of how the
run has ended. Each of these is written as one line: a line of a program has no line feed inside, so
it may be quoted as it is, and nothing else comes from the program (`newline_not_mem_announcement`).

The number of a line that cannot be decoded is written as the locale says. `Locale.IsInline` is what
the locale has to grant for that, and every locale that a tag chooses does.
-/

namespace LineMachine

open Text

/-! ### Numbers in a locale -/

/-- No line ends inside of a number, as neither a mark nor a digit has a line feed in it. -/
structure Locale.IsInline (l : Locale) : Prop where
  mark : newline ∉ l.mark
  digit : ∀ d < 10, newline ∉ encodeScalar (l.zero + d)

instance (l : Locale) : Decidable l.IsInline :=
  decidable_of_iff (newline ∉ l.mark ∧ ∀ d < 10, newline ∉ encodeScalar (l.zero + d))
    ⟨fun h => ⟨h.1, h.2⟩, fun h => ⟨h.mark, h.digit⟩⟩

namespace Locale

theorem IsInline.newline_not_mem_group {l : Locale} (h : l.IsInline) {ds : List Nat}
    (hds : ∀ d ∈ ds, d < 10) : newline ∉ l.group ds := by
  induction ds with
  | nil => exact List.not_mem_nil
  | cons d ds ih =>
      have hmark : newline ∉ if l.marked ds.length && !ds.isEmpty then l.mark else [] := by
        split
        · exact h.mark
        · exact List.not_mem_nil
      rw [group, List.mem_append, List.mem_append, not_or, not_or]
      exact ⟨⟨h.digit d (hds d List.mem_cons_self), hmark⟩,
        ih fun e he => hds e (List.mem_cons_of_mem d he)⟩

theorem IsInline.newline_not_mem_ofNat {l : Locale} (h : l.IsInline) (n : Nat) :
    newline ∉ l.ofNat n := by
  apply h.newline_not_mem_group
  intro d hd
  obtain ⟨b, hb, rfl⟩ := List.mem_map.mp hd
  have hdigit := digit_iff_toNat.mp (isDigit_of_mem_ofNat hb)
  omega

theorem mem_of_ofTag {tag : Text} {l : Locale} (h : ofTag tag = .ok l) :
    l ∈ (languages ++ regions).map Prod.snd := by
  have hmem : ∀ {table : List (Text × Locale)} {name : Text} {l' : Locale},
      table.lookup name = some l' → l' ∈ table.map Prod.snd := by
    intro table name l' hlookup
    obtain ⟨before, after, rfl, -⟩ := List.lookup_eq_some_iff.mp hlookup
    simp
  simp only [ofTag] at h
  split at h
  · cases h
  · split at h
    · cases h
    · next locale hlanguage =>
      rw [List.map_append, List.mem_append]
      obtain rfl := Except.ok.inj h
      cases hregion : regions.lookup (tag.map foldByte) with
      | none => exact .inl (hmem hlanguage)
      | some l' => exact .inr (hmem hregion)

theorem isInline_of_ofTag {tag : Text} {l : Locale} (h : ofTag tag = .ok l) : l.IsInline := by
  have hall : ((languages ++ regions).map Prod.snd).all (fun l => decide l.IsInline) = true := by
    decide
  exact of_decide_eq_true (List.all_eq_true.mp hall l (mem_of_ofTag h))

end Locale

/-! ### Diagnostics as lines -/

namespace Diagnostic

variable {l : Locale} {ds : List Diagnostic}

theorem closeLine_of_not_mem {t : Text} (h : newline ∉ t) : closeLine t = t ++ [newline] := by
  rw [closeLine, if_neg]
  exact fun hlast => h (List.mem_of_getLast? hlast)

theorem stream_eq_closed (h : ∀ d ∈ ds, newline ∉ d.text l) :
    stream l ds = closed (ds.map (text l)) := by
  rw [stream, closed, List.map_map]
  exact congrArg List.flatten (List.map_congr_left fun d hd => closeLine_of_not_mem (h d hd))

theorem splitOn_stream (h : ∀ d ∈ ds, newline ∉ d.text l) :
    splitOn newline (stream l ds) = ds.map (text l) ++ [[]] := by
  rw [stream_eq_closed h]
  apply splitOn_closed
  intro t ht
  obtain ⟨d, hd, rfl⟩ := List.mem_map.mp ht
  exact h d hd

theorem streamLines_eq (h : ∀ d ∈ ds, newline ∉ d.text l) : streamLines l ds = ds.map (text l) := by
  cases ds with
  | nil => rfl
  | cons d ds =>
      have hne : stream l (d :: ds) ≠ [] := by
        rw [stream_eq_closed h, List.map_cons, closed_cons]
        simp
      rw [streamLines, if_neg (by simpa using hne), splitOn_stream h, List.dropLast_concat]

end Diagnostic

namespace Machine

/-! ### One line -/

/-- What is written of line `number` before it is executed. -/
def announcement (l : Locale) (number : Nat) (line : Text) : Text :=
  match Instruction.decode line with
  | .ok i => ascii "machine: line " ++ Text.ofNat number ++ ascii ": " ++ i.text
  | .error cause =>
    ascii "machine: line " ++ l.ofNat number ++ ascii " '" ++ line ++ ascii "' " ++ cause.message

theorem text_ofLine (l : Locale) (number : Nat) (line : Text) :
    (Diagnostic.ofLine number (Instruction.decodeLine number line)).text l =
      announcement l number line := by
  rw [announcement, Instruction.decodeLine]
  cases Instruction.decode line with
  | ok i => rfl
  | error cause =>
      have hfront : ascii "machine: line " = ascii "machine: " ++ ascii "line " := by decide
      change ascii "machine: " ++ (ascii "line " ++ l.ofNat number ++ ascii " '" ++ line ++
        ascii "' " ++ cause.message) = _
      simp only [hfront, List.append_assoc]

/-- A number is written as the locale says where the line cannot be decoded, and only there. -/
example :
    let told (line : Text) := Diagnostic.ofLine 1234 (Instruction.decodeLine 1234 line)
    (told (ascii "MOV AX")).text { mark := ascii "." } =
        ascii "machine: line 1.234 'MOV AX' operand invalid" ∧
      (told (ascii "JMP 007")).text { mark := ascii "." } =
        ascii "machine: line 1234: JMP 7" := by
  decide

theorem newline_not_mem_announcement {l : Locale} (hl : l.IsInline) (number : Nat) {line : Text}
    (hline : newline ∉ line) : newline ∉ announcement l number line := by
  rw [announcement]
  cases hdecode : Instruction.decode line with
  | ok i =>
      have hcode := Instruction.spells_text (Instruction.spells_code_of_decode hdecode).value_le
      simp only [List.mem_append, not_or]
      exact ⟨⟨⟨by decide, not_mem_ofNat (by decide) number⟩, by decide⟩,
        hcode.breakFree.newline_not_mem⟩
  | error cause =>
      have hcause : newline ∉ cause.message := by cases cause <;> decide
      simp only [List.mem_append, not_or]
      exact ⟨⟨⟨⟨⟨by decide, hl.newline_not_mem_ofNat number⟩, by decide⟩, hline⟩, by decide⟩, hcause⟩

/-! ### The diagnostics of a run -/

/-- What a verbose machine tells when the run has ended. -/
def lastTelling (limit steps : Int) : Diagnostic :=
  if steps = limit then .stopped steps else .finished steps

theorem steps_le_steps_resume (lines : List Text) (n : Nat) (m : Machine)
    (told : Array Diagnostic) : m.steps ≤ (resume lines.toArray n m told).1.steps := by
  induction n generalizing m told with
  | zero => exact Int.le_refl _
  | succ n ih =>
      cases h : lines[m.pc.toNat]? with
      | none => rw [resume_of_getElem?_eq_none h]
      | some line =>
          have hle := ih (m.proceed lines) (told.push (m.telling lines))
          rw [steps_proceed h] at hle
          rw [resume_of_getElem?_eq_some h]
          omega

/-- What is left of a run tells of each line that it executes, and then how it has ended. -/
theorem toList_resume_snd (lines : List Text) (n : Nat) (m : Machine) (told : Array Diagnostic) :
    (resume lines.toArray n m told).2.toList =
      told.toList ++
        ((m.history lines n).take ((resume lines.toArray n m told).1.steps - m.steps).toNat).map
          (telling lines) ++
        [lastTelling (m.steps + n) (resume lines.toArray n m told).1.steps] := by
  induction n generalizing m told with
  | zero => simp [resume, lastTelling]
  | succ n ih =>
      cases h : lines[m.pc.toNat]? with
      | none =>
          have hlimit : m.steps ≠ m.steps + (n + 1 : Nat) := by omega
          rw [resume_of_getElem?_eq_none h, lastTelling, if_neg hlimit]
          simp
      | some line =>
          have hle := steps_le_steps_resume lines n (m.proceed lines) (told.push (m.telling lines))
          have hrest := ih (m.proceed lines) (told.push (m.telling lines))
          rw [resume_of_getElem?_eq_some h, history_of_getElem?_eq_some h]
          rw [steps_proceed h] at hle hrest
          generalize resume lines.toArray n (m.proceed lines) (told.push (m.telling lines)) = after
            at hle hrest ⊢
          -- From here on one line more is executed than from the next point on.
          have hcount : (after.1.steps - m.steps).toNat =
              (after.1.steps - (m.steps + 1)).toNat + 1 := by omega
          have hlimit : m.steps + (n + 1 : Nat) = m.steps + 1 + n := by omega
          rw [hrest, hcount, hlimit]
          simp

/-- A verbose run tells of the reset, of each line that it executes, and how it has ended. -/
theorem runTelling_snd (m : Machine) (code : Text) :
    (m.runTelling code).2 =
      if m.verbose then
        .reset :: (m.beginnings code).map (telling (Text.lines code)) ++
          [lastTelling commandLimit (m.run code).steps]
      else [] := by
  have htold := toList_resume_snd (Text.lines code) commandLimit m.reset #[.reset]
  have hsteps : (resume (Text.lines code).toArray commandLimit m.reset #[.reset]).1.steps =
      (m.run code).steps := rfl
  have hreset : m.reset.steps = 0 := rfl
  rw [hsteps, hreset, Int.zero_add, Int.sub_zero] at htold
  have hrun : (m.runTelling code).2 =
      if m.verbose then
        (resume (Text.lines code).toArray commandLimit m.reset #[.reset]).2.toList
      else [] := rfl
  rw [hrun, htold, beginnings, points]
  rfl

theorem exists_line_of_mem_beginnings {m p : Machine} {code : Text} (h : p ∈ m.beginnings code) :
    ∃ (i : Nat) (line : Text), p.pc = i ∧ (Text.lines code)[i]? = some line := by
  obtain ⟨k, hk, rfl⟩ := mem_beginnings.mp h
  have hpc := (represents_course m (Text.lines code) k).pc
  exact ⟨_, _, hpc, List.getElem?_eq_getElem (pc_after_lt hk)⟩

theorem length_beginnings (m : Machine) (code : Text) :
    ((m.beginnings code).length : Int) = (m.run code).steps := by
  rw [beginnings_eq, List.length_map, List.length_range, steps_run]

/-! ### The lines that are written -/

/-- What is written of the line that the machine is about to execute. -/
def announced (l : Locale) (lines : List Text) (p : Machine) : Text :=
  announcement l (p.pc.toNat + 1) (lines[p.pc.toNat]?.getD [])

/-- What is written when the run has ended. -/
def ending (steps : Int) : Text :=
  if steps = commandLimit then
    ascii "machine: command limit after " ++ Text.ofInt steps ++ ascii " lines"
  else ascii "machine: done after " ++ Text.ofInt steps ++ ascii " lines"

theorem text_telling {m p : Machine} {code : Text} (l : Locale) (h : p ∈ m.beginnings code) :
    (p.telling (Text.lines code)).text l = p.announced l (Text.lines code) := by
  obtain ⟨i, line, hpc, -⟩ := exists_line_of_mem_beginnings h
  rw [telling, announced, hpc, Int.toNat_natCast]
  exact text_ofLine l (i + 1) _

theorem text_lastTelling (l : Locale) (steps : Int) :
    (lastTelling commandLimit steps).text l = ending steps := by
  rw [lastTelling, ending]
  split <;> rfl

theorem newline_not_mem_announced {m p : Machine} {code : Text} {l : Locale} (hl : l.IsInline)
    (h : p ∈ m.beginnings code) : newline ∉ p.announced l (Text.lines code) := by
  obtain ⟨i, line, hpc, hline⟩ := exists_line_of_mem_beginnings h
  have hfree := (areLines_lines code).breakFree line (List.mem_of_getElem? hline)
  rw [announced, hpc, Int.toNat_natCast, hline]
  exact newline_not_mem_announcement hl (i + 1) hfree.newline_not_mem

theorem newline_not_mem_ending (steps : Int) : newline ∉ ending steps := by
  have hsteps : newline ∉ Text.ofInt steps := not_mem_ofInt (by decide) (by decide) steps
  rw [ending]
  split <;> simp only [List.mem_append, not_or] <;> exact ⟨⟨by decide, hsteps⟩, by decide⟩

theorem map_text_runTelling {m : Machine} (h : m.verbose = true) (l : Locale) (code : Text) :
    (m.runTelling code).2.map (Diagnostic.text l) =
      ascii "machine: reset" :: (m.beginnings code).map (announced l (Text.lines code)) ++
        [ending (m.run code).steps] := by
  rw [runTelling_snd, if_pos h, List.map_append, List.map_cons, List.map_map, List.map_singleton,
    text_lastTelling]
  congr 2
  exact List.map_congr_left fun p hp => text_telling l hp

theorem newline_not_mem_runTelling {m : Machine} (h : m.verbose = true) {l : Locale}
    (hl : l.IsInline) {code : Text} {d : Diagnostic} (hd : d ∈ (m.runTelling code).2) :
    newline ∉ d.text l := by
  have htext := List.mem_map_of_mem (f := Diagnostic.text l) hd
  rw [map_text_runTelling h, List.mem_append, List.mem_cons, List.mem_singleton] at htext
  rcases htext with (hreset | hline) | hending
  · rw [hreset]
    decide
  · obtain ⟨p, hp, heq⟩ := List.mem_map.mp hline
    rw [← heq]
    exact newline_not_mem_announced hl hp
  · rw [hending]
    exact newline_not_mem_ending _

/-- A verbose run writes one line for the reset, one for each line that it executes, with the number
of that line and what it decodes to or why it does not, and one for how the run has ended. So it is
for a program of any bytes and in every locale that can be chosen. A run that is not verbose writes
nothing. -/
theorem run_announces_each_step (m : Machine) (code : Text) :
    (∀ (tag : Text) (l : Locale), Locale.ofTag tag = .ok l → l.IsInline) ∧
    (∀ p ∈ m.beginnings code,
      ∃ (i : Nat) (line : Text), p.pc = i ∧ (Text.lines code)[i]? = some line) ∧
    (m.verbose = true → ∀ l : Locale, l.IsInline →
      Diagnostic.streamLines l (m.runTelling code).2 =
        ascii "machine: reset" :: (m.beginnings code).map (announced l (Text.lines code)) ++
          [ending (m.run code).steps] ∧
      ((Diagnostic.streamLines l (m.runTelling code).2).length : Int) = (m.run code).steps + 2 ∧
      splitOn newline (Diagnostic.stream l (m.runTelling code).2) =
        Diagnostic.streamLines l (m.runTelling code).2 ++ [[]]) ∧
    (m.verbose = false → ∀ l : Locale, Diagnostic.stream l (m.runTelling code).2 = []) := by
  refine ⟨fun tag l => Locale.isInline_of_ofTag, fun p => exists_line_of_mem_beginnings,
    fun h l hl => ?_, fun h l => ?_⟩
  · have hfree : ∀ d ∈ (m.runTelling code).2, newline ∉ d.text l :=
      fun d => newline_not_mem_runTelling h hl
    have hlength := length_beginnings m code
    rw [Diagnostic.splitOn_stream hfree, Diagnostic.streamLines_eq hfree, map_text_runTelling h]
    refine ⟨rfl, ?_, rfl⟩
    rw [List.length_append, List.length_cons, List.length_map, List.length_singleton]
    omega
  · rw [runTelling_snd, h]
    rfl

/-- The first line cannot be decoded and is executed twice; its number is written in Bengali digits.
The zero in front of a number is not told. -/
theorem run_announces_each_step_bengali :
    let m : Machine := { verbose := true, pc := 7 }
    let code := ascii "no command\nJEQ 5\nCMP AX, AX\nJMP 1\nMOV 01, AX"
    ∃ l, Locale.ofTag (ascii "bn-IN") = .ok l ∧ l.IsInline ∧
      Diagnostic.streamLines l (m.runTelling code).2 =
        ascii "machine: reset" :: (m.beginnings code).map (announced l (Text.lines code)) ++
          [ending (m.run code).steps] ∧
      ((Diagnostic.streamLines l (m.runTelling code).2).length : Int) = (m.run code).steps + 2 := by
  intro m code
  have htag : Locale.ofTag (ascii "bn-IN") =
      .ok { mark := ascii ",", others := 2, zero := 0x9E6 } := by decide +kernel
  have hl := (run_announces_each_step m code).1 _ _ htag
  obtain ⟨hlines, hlength, -⟩ := (run_announces_each_step m code).2.2.1 rfl _ hl
  exact ⟨_, htag, hl, hlines, hlength⟩

end Machine

end LineMachine
