import LineMachine.Machine.Snapshot
import LineMachine.Proofs.Feed
import LineMachine.Proofs.Machine.Ending
import LineMachine.Proofs.Machine.Reformat
import LineMachine.Proofs.Text.Decimal

/-!
# What can be read off a report

The panel and the log are made of lines, each of them closed by a line feed (`Text.closed`). As no
line has a line feed inside, the lines are found again where they were put (`splitOn_closed`), and
what is written in a line is read back from it: numbers by `signed`, in base two for the registers
and in base ten for the flag.

So the panel shows the registers and the flag of any snapshot, in range or not, and the report of a
run shows its log as well (`report_inj`). The log is in ASCII, since no entry quotes the program.
-/

namespace LineMachine

namespace Text

/-! ### Closed lines -/

/-- The lines, each with a line feed behind it. -/
def closed (ls : List Text) : Text := (ls.map (· ++ [newline])).flatten

theorem closed_cons (l : Text) (ls : List Text) : closed (l :: ls) = l ++ newline :: closed ls := by
  simp [closed]

theorem closed_append (ls ls' : List Text) : closed (ls ++ ls') = closed ls ++ closed ls' := by
  simp [closed]

theorem join_append_newline {ls : List Text} (h : ls ≠ []) :
    join [newline] ls ++ [newline] = closed ls := by
  induction ls, h using List.recNeNil with
  | singleton l => simp [closed]
  | cons l ls hne ih =>
      rw [join_cons _ _ hne, closed_cons, ← ih]
      simp

theorem splitOn_closed {ls : List Text} (h : ∀ l ∈ ls, newline ∉ l) :
    splitOn newline (closed ls) = ls ++ [[]] := by
  induction ls with
  | nil => rfl
  | cons l ls ih =>
      rw [closed_cons, splitOn_append_cons (h l List.mem_cons_self),
        ih fun l hl => h l (List.mem_cons_of_mem _ hl), List.cons_append]

theorem closed_inj {ls ls' : List Text} (h : ∀ l ∈ ls, newline ∉ l) (h' : ∀ l ∈ ls', newline ∉ l)
    (heq : closed ls = closed ls') : ls = ls' := by
  have hsplit := congrArg (splitOn newline) heq
  rw [splitOn_closed h, splitOn_closed h'] at hsplit
  exact List.append_cancel_right hsplit

/-! ### Binary numbers -/

/-- The byte is one of the two binary digits. -/
def IsBit (b : UInt8) : Prop := b = byte '0' ∨ b = byte '1'

instance (b : UInt8) : Decidable (IsBit b) := inferInstanceAs (Decidable (_ ∨ _))

theorem isBit_of_mem_digits {n : Nat} {b : UInt8} (h : b ∈ digits 2 n) : IsBit b := by
  obtain ⟨d, hd, rfl⟩ := exists_eq_digitChar (by decide) h
  obtain rfl | rfl : d = 0 ∨ d = 1 := by omega
  · exact .inl rfl
  · exact .inr rfl

theorem isBit_of_mem_padZero {width n : Nat} {b : UInt8} (h : b ∈ padZero width (digits 2 n)) :
    IsBit b := by
  rcases List.mem_append.mp h with hzero | hdigit
  · exact .inl (List.eq_of_mem_replicate hzero)
  · exact isBit_of_mem_digits hdigit

theorem denoted_padZero_digits (width n : Nat) : denoted 2 (padZero width (digits 2 n)) = n := by
  rw [denoted_padZero, denoted_digits (by decide) (by decide)]

theorem not_mem_binary8 {b : UInt8} (h : ¬IsBit b) (hminus : b ≠ byte '-') (i : Int) :
    b ∉ binary8 i := by
  cases i with
  | ofNat n => exact fun hmem => h (isBit_of_mem_padZero hmem)
  | negSucc n =>
      rw [binary8, List.mem_cons, not_or]
      exact ⟨hminus, fun hmem => h (isBit_of_mem_padZero hmem)⟩

theorem signed_binary8 (i : Int) : signed 2 (binary8 i) = i := by
  cases i with
  | ofNat n =>
      have hminus : byte '-' ∉ padZero 8 (digits 2 n) := by
        intro hmem
        rcases isBit_of_mem_padZero hmem with h | h <;> cases h
      rw [binary8, signed_of_not_mem 2 hminus, denoted_padZero_digits]
      rfl
  | negSucc n =>
      rw [binary8, signed_cons_minus, denoted_padZero_digits]
      rfl

theorem binary8_injective : Function.Injective binary8 :=
  Function.LeftInverse.injective signed_binary8

/-- A byte is written with eight binary digits. -/
theorem binary8_of_lt {i : Int} (hlow : 0 ≤ i) (hhigh : i < 256) :
    (binary8 i).length = 8 ∧ (∀ b ∈ binary8 i, IsBit b) ∧ denoted 2 (binary8 i) = i := by
  obtain ⟨n, rfl⟩ := Int.eq_ofNat_of_zero_le hlow
  have hlength : (digits 2 n).length ≤ 8 := by
    rw [digits, List.length_map]
    exact Nat.toDigits_length 2 n 8 (by decide) (Int.ofNat_lt.mp hhigh)
  refine ⟨?_, fun b hb => isBit_of_mem_padZero hb, ?_⟩
  · change (padZero 8 (digits 2 n)).length = 8
    rw [padZero, List.length_append, List.length_replicate, Nat.sub_add_cancel hlength]
  · exact congrArg Int.ofNat (denoted_padZero_digits 8 n)

end Text

open Text

theorem Bank.ext_read {b b' : Bank} (h : ∀ r, b.read r = b'.read r) : b = b' := by
  apply Vector.ext
  intro i hi
  have hle : (i : Int) ≤ 7 := Int.ofNat_le.mpr (Nat.le_of_lt_succ hi)
  obtain ⟨r, hr⟩ := Register.exists_index_eq_iff.mpr ⟨Int.natCast_nonneg i, hle⟩
  obtain rfl : r.index.val = i := Int.ofNat.inj hr
  exact h r

theorem Register.mem_all (r : Register) : r ∈ all := by
  cases r <;> decide

namespace Snapshot

/-! ### The panel -/

/-- The rows of the panel as a list. -/
def panelRows (s : Snapshot) : List (Text × Text) :=
  Register.all.map (fun r => (r.name, binary8 (s.registers.read r))) ++
    [(ascii "ZX", ofInt s.zx)]

/-- A row as a line. -/
def rowLine (row : Text × Text) : Text := row.1 ++ ascii ": " ++ row.2

/-- The lines of the panel. -/
def panelLines (s : Snapshot) : List Text := s.panelRows.map rowLine

theorem rows_eq_ofList (s : Snapshot) : s.rows = .ofList s.panelRows := by
  have hrows : s.rows = .concat ([Register.all.map fun r => (r.name, binary8 (s.registers.read r)),
      [(ascii "ZX", ofInt s.zx)]].map Feed.ofList) := rfl
  rw [hrows, Feed.concat_map_ofList, List.flatten_cons, List.flatten_singleton, panelRows]

theorem collect_rows (s : Snapshot) : s.rows.collect none = s.panelRows := by
  rw [rows_eq_ofList, Feed.collect_none_ofList]

theorem panel_eq (s : Snapshot) : s.panel = closed s.panelLines := by
  rw [panel, collect_rows, closed, panelLines, List.map_map]
  rfl

theorem newline_not_mem_panelLines {s : Snapshot} {line : Text} (h : line ∈ s.panelLines) :
    newline ∉ line := by
  simp only [panelLines, panelRows, List.map_append, List.map_map, List.mem_append, List.mem_map,
    List.map_singleton, List.mem_singleton, Function.comp_apply, rowLine] at h
  rcases h with ⟨r, -, rfl⟩ | rfl
  · have hname : newline ∉ r.name ++ ascii ": " := by cases r <;> decide
    rw [List.mem_append, not_or]
    exact ⟨hname, not_mem_binary8 (by decide) (by decide) _⟩
  · rw [List.mem_append, not_or]
    exact ⟨by decide, not_mem_ofInt (by decide) (by decide) _⟩

/-- What is written in the rows of the panel is read back from it. -/
theorem panelLines_inj {s s' : Snapshot} (h : s.panelLines = s'.panelLines) :
    s.registers = s'.registers ∧ s.zx = s'.zx := by
  simp only [panelLines, panelRows, List.map_append, List.map_map, List.map_singleton] at h
  obtain ⟨hregisters, hflag⟩ := List.append_inj' h rfl
  constructor
  · apply Bank.ext_read
    intro r
    have hrow := List.map_inj_left.mp hregisters r r.mem_all
    exact binary8_injective (List.append_cancel_left hrow)
  · exact ofInt_injective (List.append_cancel_left (List.singleton_inj.mp hflag))

theorem panel_inj {s s' : Snapshot} (h : s.panel = s'.panel) :
    s.registers = s'.registers ∧ s.zx = s'.zx := by
  rw [panel_eq, panel_eq] at h
  exact panelLines_inj
    (closed_inj (fun _ => newline_not_mem_panelLines) (fun _ => newline_not_mem_panelLines) h)

end Snapshot

/-! ### The log -/

theorem Text.isPrintable_of_isPlain {b : UInt8} (h : isPlain b = true) : isPrintable b = true := by
  simp only [isPlain, isPrintable, Bool.and_eq_true, decide_eq_true_eq, UInt8.le_iff_toNat_le,
    UInt8.lt_iff_toNat_lt] at h ⊢
  exact ⟨h.1.1, Nat.lt_succ_of_le h.1.2⟩

theorem Text.all_isPrintable_of_all_isPlain {t : Text} (h : t.all isPlain = true) :
    t.all isPrintable = true := by
  rw [List.all_eq_true] at h ⊢
  exact fun b hb => isPrintable_of_isPlain (h b hb)

/-- No entry quotes the program, so there are only known words and numbers in it. -/
theorem Entry.all_isPrintable_text (e : Entry) : e.text.all isPrintable = true := by
  cases e with
  | reset => rw [text]; decide
  | line number message =>
      have hmessage : (message.text number).all isPrintable = true := by
        by_cases hlimit : message = .tooManyCommands
        · subst hlimit
          rw [Message.text]
          decide
        · exact all_isPrintable_of_all_isPlain (Message.all_isPlain_text hlimit number)
      have hnumber := all_isPrintable_of_all_isPlain (all_isPlain_ofInt number)
      simp only [text, List.all_append, hmessage, hnumber]
      decide

namespace Machine

theorem breakFree_of_mem_log {m : Machine} {t : Text} (h : t ∈ m.snapshot.log) : BreakFree t := by
  obtain ⟨e, -, rfl⟩ := List.mem_map.mp h
  exact breakFree_of_all_isPrintable e.all_isPrintable_text

theorem log_run_ne_nil (m : Machine) (code : Text) : (m.run code).snapshot.log ≠ [] := by
  rw [snapshot_log_run]
  simp

theorem splitOn_logText (m : Machine) (code : Text) :
    splitOn newline (m.run code).snapshot.logText = (m.run code).snapshot.log :=
  splitOn_join (fun _ ht => (breakFree_of_mem_log ht).newline_not_mem) (log_run_ne_nil m code)

/-! ### The report -/

theorem report_eq (m : Machine) (code : Text) :
    (m.run code).snapshot.report =
      closed ((m.run code).snapshot.panelLines ++ [] :: (m.run code).snapshot.log) := by
  rw [Snapshot.report, Snapshot.panel_eq, List.append_assoc, Snapshot.logText,
    join_append_newline (log_run_ne_nil m code), closed_append, closed_cons, List.append_assoc]
  rfl

theorem newline_not_mem_report {m : Machine} {line : Text}
    (h : line ∈ m.snapshot.panelLines ++ [] :: m.snapshot.log) : newline ∉ line := by
  rcases List.mem_append.mp h with hpanel | hlog
  · exact Snapshot.newline_not_mem_panelLines hpanel
  · rcases List.mem_cons.mp hlog with rfl | hlog
    · exact List.not_mem_nil
    · exact (breakFree_of_mem_log hlog).newline_not_mem

/-- Two runs with the same report have left the same behind. -/
theorem report_inj {m m' : Machine} {code code' : Text}
    (h : (m.run code).snapshot.report = (m'.run code').snapshot.report) :
    (m.run code).registers = (m'.run code').registers ∧ (m.run code).zx = (m'.run code').zx ∧
      (m.run code).snapshot.log = (m'.run code').snapshot.log := by
  rw [report_eq, report_eq] at h
  have hlines := closed_inj (fun _ => newline_not_mem_report) (fun _ => newline_not_mem_report) h
  -- Both panels have nine lines, so the empty line behind them is in the same place.
  obtain ⟨hpanel, hlog⟩ := List.append_inj hlines rfl
  obtain ⟨hregisters, hzx⟩ := Snapshot.panelLines_inj hpanel
  exact ⟨hregisters, hzx, (List.cons.inj hlog).2⟩

/-- The panel of a run shows each register in eight binary digits. -/
theorem panel_run (m : Machine) (code : Text) :
    ∃ bits : Register → Text,
      (m.run code).snapshot.panel =
        closed (Register.all.map (fun r => r.name ++ ascii ": " ++ bits r) ++
          [ascii "ZX" ++ ascii ": " ++ ofInt (m.run code).zx]) ∧
      ∀ r, (bits r).length = 8 ∧ (∀ b ∈ bits r, IsBit b) ∧
        denoted 2 (bits r) = (m.run code).registers.read r := by
  refine ⟨fun r => binary8 ((m.run code).registers.read r), Snapshot.panel_eq _, fun r => ?_⟩
  have hregister := (represents_run m code).registers r
  have hbyte := ((ByteMachine.after (Text.lines code) (events code).length).registers r).toNat_lt
  exact binary8_of_lt (by omega) (by omega)

end Machine

end LineMachine
