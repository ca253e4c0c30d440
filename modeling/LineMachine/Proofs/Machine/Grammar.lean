import LineMachine.Machine.Decode
import LineMachine.Proofs.Text.Decimal
import Mathlib.Data.List.TakeWhile

/-!
# The grammar of lines

`Spells line c` says that a line is, as a whole, the spelling of the numeric form `c`. It gives the
three forms of the language with their single spaces, and says nothing of how a line is read.
Reading accepts exactly these lines (`spells_code_of_decode`, `exists_decode_of_spells`).

A reader cuts a text at the first byte of some kind. The lemmas on `takeWhile` and `dropWhile` turn
such a cut into an equation `t = a ++ b :: rest` in which `b` does not occur in `a`, and the reader
of each operand into a condition on its bytes.
-/

namespace LineMachine

/-- The name of a command with two registers. -/
def Operation.mnemonic : Operation → Text
  | .add => Text.ascii "ADD"
  | .sub => Text.ascii "SUB"
  | .copy => Text.ascii "COPY"
  | .and => Text.ascii "AND"
  | .or => Text.ascii "OR"
  | .cmp => Text.ascii "CMP"

/-- The name of a jump. -/
def Condition.mnemonic : Condition → Text
  | .always => Text.ascii "JMP"
  | .equal => Text.ascii "JEQ"
  | .notEqual => Text.ascii "JNEQ"

namespace Text

/-- Cutting a text at the first occurrence of a byte. -/
theorem takeWhile_bne_append_cons {a : Text} {b : UInt8} (h : b ∉ a) (rest : Text) :
    (a ++ b :: rest).takeWhile (· != b) = a := by
  have ha : ∀ x ∈ a, (x != b) = true := fun x hx => bne_iff_ne.mpr (ne_of_mem_of_not_mem hx h)
  rw [List.takeWhile_append_of_pos ha, List.takeWhile_cons_of_neg (by simp), List.append_nil]

theorem dropWhile_bne_append_cons {a : Text} {b : UInt8} (h : b ∉ a) (rest : Text) :
    (a ++ b :: rest).dropWhile (· != b) = b :: rest := by
  have ha : ∀ x ∈ a, (x != b) = true := fun x hx => bne_iff_ne.mpr (ne_of_mem_of_not_mem hx h)
  rw [List.dropWhile_append_of_pos ha, List.dropWhile_cons_of_neg (by simp)]

theorem dropWhile_bne_of_not_mem {t : Text} {b : UInt8} (h : b ∉ t) :
    t.dropWhile (· != b) = [] :=
  List.dropWhile_eq_nil_iff.mpr fun _ hx => bne_iff_ne.mpr (ne_of_mem_of_not_mem hx h)

/-- The byte is a visible ASCII character. -/
def isVisible (b : UInt8) : Bool := 0x20 < b && b < 0x7F

/-- The byte is a visible ASCII character or the space. -/
def isPrintable (b : UInt8) : Bool := 0x20 ≤ b && b < 0x7F

theorem isVisible_of_isDigit {b : UInt8} (h : byte '0' ≤ b ∧ b ≤ byte '9') :
    isVisible b = true := by
  rw [isVisible, Bool.and_eq_true, decide_eq_true_eq, decide_eq_true_eq]
  exact ⟨UInt8.lt_of_lt_of_le (by decide) h.1, UInt8.lt_of_le_of_lt h.2 (by decide)⟩

theorem isPrintable_of_isVisible {b : UInt8} (h : isVisible b = true) : isPrintable b = true := by
  rw [isVisible, Bool.and_eq_true, decide_eq_true_eq, decide_eq_true_eq] at h
  rw [isPrintable, Bool.and_eq_true, decide_eq_true_eq, decide_eq_true_eq]
  exact ⟨UInt8.le_of_lt h.1, h.2⟩

theorem all_isPrintable_of_isNumber {d : Text} (h : d.IsNumber) : d.all isPrintable = true := by
  rw [List.all_eq_true]
  intro b hb
  exact isPrintable_of_isVisible (isVisible_of_isDigit (h.2 b hb))

end Text

/-- The lines of the language, each with the numeric form that it spells. Unused fields are zero. -/
inductive Spells : Text → Code → Prop where
  | move {d : Text} (h : d.IsNumber) (r : Register) :
    Spells (Text.ascii "MOV" ++ Text.ascii " " ++ d ++ Text.ascii ", " ++ r.name)
      { op := 1, dst := r.index.val, value := (min d.decimal Instruction.numberLimit : Nat) }
  | combine (op : Operation) (s r : Register) :
    Spells (op.mnemonic ++ Text.ascii " " ++ s.name ++ Text.ascii ", " ++ r.name)
      { op := op.number, src := s.index.val, dst := r.index.val }
  | jump (c : Condition) {d : Text} (h : d.IsNumber) :
    Spells (c.mnemonic ++ Text.ascii " " ++ d)
      { op := c.number, value := (min d.decimal Instruction.numberLimit : Nat) }

theorem Spells.value_le {line : Text} {c : Code} (h : Spells line c) :
    c.value ≤ Instruction.numberLimit := by
  cases h with
  | move | jump => exact Int.ofNat_le.mpr (Nat.min_le_right _ _)
  | combine => exact Int.natCast_nonneg _

theorem Register.all_isPrintable_name (r : Register) : r.name.all Text.isPrintable = true := by
  cases r <;> decide

theorem Spells.all_isPrintable {line : Text} {c : Code} (h : Spells line c) :
    line.all Text.isPrintable = true := by
  cases h with
  | move hd r =>
      simp only [List.all_append, Text.all_isPrintable_of_isNumber hd, r.all_isPrintable_name]
      decide
  | combine op s r =>
      simp only [List.all_append, s.all_isPrintable_name, r.all_isPrintable_name]
      cases op <;> decide
  | jump c hd =>
      simp only [List.all_append, Text.all_isPrintable_of_isNumber hd]
      cases c <;> decide

namespace Instruction

theorem number?_eq_some_iff {t : Text} {n : Nat} :
    number? t = some n ↔ t.IsNumber ∧ min t.decimal numberLimit = n := by
  have hguard : (!t.isEmpty && t.all Text.isDigit) = true ↔ t.IsNumber := by
    simp [Text.IsNumber, Text.isDigit]
  rw [number?, Text.value_eq_decimal]
  by_cases h : t.IsNumber
  · rw [if_pos (hguard.mpr h)]
    simp [h]
  · rw [if_neg (mt hguard.mp h)]
    simp [h]

/-- A pair is cut at its first comma. -/
theorem pair?_eq_some_iff {t a b : Text} :
    pair? t = some (a, b) ↔ t = a ++ Text.ascii ", " ++ b ∧ Text.byte ',' ∉ a := by
  have hcomma : Text.ascii ", " = [Text.byte ',', Text.byte ' '] := rfl
  rw [pair?, hcomma]
  constructor
  · intro h
    by_cases hmem : Text.byte ',' ∈ t
    · obtain ⟨x, rest, rfl, hx⟩ := List.eq_append_cons_of_mem hmem
      rw [Text.dropWhile_bne_append_cons hx, Text.takeWhile_bne_append_cons hx] at h
      rcases rest with _ | ⟨y, rest⟩
      · simp at h
      · simp only [Option.ite_none_right_eq_some, Option.some.injEq, Prod.mk.injEq] at h
        obtain ⟨rfl, rfl, rfl⟩ := h
        exact ⟨by simp, hx⟩
    · rw [Text.dropWhile_bne_of_not_mem hmem] at h
      simp at h
  · rintro ⟨rfl, ha⟩
    rw [List.append_assoc, List.cons_append, Text.dropWhile_bne_append_cons ha,
      Text.takeWhile_bne_append_cons ha]
    simp

theorem comma_not_mem_of_isNumber {d : Text} (h : d.IsNumber) : Text.byte ',' ∉ d :=
  fun hmem => absurd (h.2 _ hmem) (by decide)

theorem comma_not_mem_name (r : Register) : Text.byte ',' ∉ r.name := by
  cases r <;> decide

theorem move?_eq_some_iff {t : Text} {i : Instruction} :
    move? t = some i ↔
      ∃ d r, d.IsNumber ∧ t = d ++ Text.ascii ", " ++ r.name ∧
        .move (min d.decimal numberLimit) r = i := by
  simp only [move?, Option.bind_eq_bind, Option.bind_eq_some_iff, Option.pure_def,
    Option.some.injEq, Prod.exists, pair?_eq_some_iff, number?_eq_some_iff,
    Register.ofName?_eq_some_iff]
  constructor
  · rintro ⟨d, _, ⟨rfl, -⟩, n, ⟨hd, rfl⟩, r, rfl, rfl⟩
    exact ⟨d, r, hd, rfl, rfl⟩
  · rintro ⟨d, r, hd, rfl, rfl⟩
    exact ⟨d, r.name, ⟨rfl, comma_not_mem_of_isNumber hd⟩, _, ⟨hd, rfl⟩, r, rfl, rfl⟩

theorem combine?_eq_some_iff {op : Operation} {t : Text} {i : Instruction} :
    combine? op t = some i ↔
      ∃ s r : Register, t = s.name ++ Text.ascii ", " ++ r.name ∧ .combine op s r = i := by
  simp only [combine?, Option.bind_eq_bind, Option.bind_eq_some_iff, Option.pure_def,
    Option.some.injEq, Prod.exists, pair?_eq_some_iff, Register.ofName?_eq_some_iff]
  constructor
  · rintro ⟨_, _, ⟨rfl, -⟩, s, rfl, r, rfl, rfl⟩
    exact ⟨s, r, rfl, rfl⟩
  · rintro ⟨s, r, rfl, rfl⟩
    exact ⟨s.name, r.name, ⟨rfl, comma_not_mem_name s⟩, s, rfl, r, rfl, rfl⟩

theorem jump?_eq_some_iff {c : Condition} {t : Text} {i : Instruction} :
    jump? c t = some i ↔ t.IsNumber ∧ .jump c (min t.decimal numberLimit) = i := by
  simp only [jump?, Option.map_eq_some_iff, number?_eq_some_iff]
  constructor
  · rintro ⟨n, ⟨ht, rfl⟩, rfl⟩
    exact ⟨ht, rfl⟩
  · rintro ⟨ht, rfl⟩
    exact ⟨_, ⟨ht, rfl⟩, rfl⟩

/-- The names of the ten commands. -/
def commandNames : List Text :=
  ["MOV", "ADD", "SUB", "COPY", "AND", "OR", "CMP", "JMP", "JEQ", "JNEQ"].map Text.ascii

theorem lookup_commands_eq_none_iff {w : Text} :
    commands.lookup w = none ↔ w ∉ commandNames := by
  rw [List.lookup_eq_none_iff]
  simp [commands, commandNames]

theorem lookup_commands_eq_some {w : Text} {read : Text → Option Instruction}
    (h : commands.lookup w = some read) :
    (w = Text.ascii "MOV" ∧ read = move?) ∨
      (∃ op : Operation, w = op.mnemonic ∧ read = combine? op) ∨
        ∃ c : Condition, w = c.mnemonic ∧ read = jump? c := by
  obtain ⟨before, after, hsplit, -⟩ := List.lookup_eq_some_iff.mp h
  have hmem : (w, read) ∈ commands := hsplit ▸ List.mem_append_cons_self
  simp only [commands, List.mem_cons, List.not_mem_nil, or_false, Prod.mk.injEq] at hmem
  rcases hmem with h | h | h | h | h | h | h | h | h | h
  · exact .inl h
  · exact .inr (.inl ⟨.add, h⟩)
  · exact .inr (.inl ⟨.sub, h⟩)
  · exact .inr (.inl ⟨.copy, h⟩)
  · exact .inr (.inl ⟨.and, h⟩)
  · exact .inr (.inl ⟨.or, h⟩)
  · exact .inr (.inl ⟨.cmp, h⟩)
  · exact .inr (.inr ⟨.always, h⟩)
  · exact .inr (.inr ⟨.equal, h⟩)
  · exact .inr (.inr ⟨.notEqual, h⟩)

theorem decode_of_not_mem {line : Text} (h : Text.byte ' ' ∉ line) :
    decode line = .error .commandUnknown := by
  rw [decode, Text.dropWhile_bne_of_not_mem h]

theorem append_space (w operands : Text) :
    w ++ Text.ascii " " ++ operands = w ++ Text.byte ' ' :: operands :=
  List.append_assoc _ _ _

theorem decode_append_space {w : Text} (h : Text.byte ' ' ∉ w) (operands : Text) :
    decode (w ++ Text.ascii " " ++ operands) =
      match commands.lookup w with
      | none => .error .commandUnknown
      | some read =>
        match read operands with
        | none => .error .operandInvalid
        | some i => .ok i := by
  have hdrop := Text.dropWhile_bne_append_cons h operands
  have htake := Text.takeWhile_bne_append_cons h operands
  cases hread : commands.lookup w with
  | none => simp only [append_space, decode, hdrop, htake, hread]
  | some read =>
      cases hi : read operands with
      | none => simp only [append_space, decode, hdrop, htake, hread, hi]
      | some i => simp only [append_space, decode, hdrop, htake, hread, hi]

/-- What is read is spelled by the line. -/
theorem spells_code_of_decode {line : Text} {i : Instruction} (h : decode line = .ok i) :
    Spells line i.code := by
  by_cases hmem : Text.byte ' ' ∈ line
  · obtain ⟨w, operands, rfl, hw⟩ := List.eq_append_cons_of_mem hmem
    rw [← append_space, decode_append_space hw] at h
    rw [← append_space]
    cases hread : commands.lookup w with
    | none => simp [hread] at h
    | some read =>
        cases hi : read operands with
        | none => simp [hread, hi] at h
        | some j =>
            simp only [hread, hi, Except.ok.injEq] at h
            subst h
            rcases lookup_commands_eq_some hread with
              ⟨rfl, rfl⟩ | ⟨op, rfl, rfl⟩ | ⟨c, rfl, rfl⟩
            · obtain ⟨d, r, hd, rfl, rfl⟩ := move?_eq_some_iff.mp hi
              rw [← List.append_assoc, ← List.append_assoc]
              exact .move hd r
            · obtain ⟨s, r, rfl, rfl⟩ := combine?_eq_some_iff.mp hi
              rw [← List.append_assoc, ← List.append_assoc]
              exact .combine op s r
            · obtain ⟨hd, rfl⟩ := jump?_eq_some_iff.mp hi
              exact .jump c hd
  · rw [decode_of_not_mem hmem] at h
    cases h

theorem decode_of_lookup {w operands : Text} {read : Text → Option Instruction} {i : Instruction}
    (hw : Text.byte ' ' ∉ w) (hlookup : commands.lookup w = some read)
    (hread : read operands = some i) : decode (w ++ Text.ascii " " ++ operands) = .ok i := by
  rw [decode_append_space hw, hlookup]
  simp only [hread]

/-- Every spelling is read. -/
theorem exists_decode_of_spells {line : Text} {c : Code} (h : Spells line c) :
    ∃ i, decode line = .ok i ∧ i.code = c := by
  cases h with
  | @move d hd r =>
      have hread := move?_eq_some_iff.mpr ⟨d, r, hd, rfl, rfl⟩
      have hdecode := decode_of_lookup (w := Text.ascii "MOV") (by decide) rfl hread
      rw [← List.append_assoc, ← List.append_assoc] at hdecode
      exact ⟨_, hdecode, rfl⟩
  | combine op s r =>
      have hread : combine? op _ = some _ := combine?_eq_some_iff.mpr ⟨s, r, rfl, rfl⟩
      have hdecode := decode_of_lookup (w := op.mnemonic) (by cases op <;> decide)
        (by cases op <;> rfl) hread
      rw [← List.append_assoc, ← List.append_assoc] at hdecode
      exact ⟨_, hdecode, rfl⟩
  | jump cond hd =>
      have hread : jump? cond _ = some _ := jump?_eq_some_iff.mpr ⟨hd, rfl⟩
      exact ⟨_, decode_of_lookup (w := cond.mnemonic) (by cases cond <;> decide)
        (by cases cond <;> rfl) hread, rfl⟩

theorem exists_decode_iff_spells {line : Text} {c : Code} :
    (∃ i, decode line = .ok i ∧ i.code = c) ↔ Spells line c := by
  constructor
  · rintro ⟨i, hi, rfl⟩
    exact spells_code_of_decode hi
  · exact exists_decode_of_spells

theorem decode_eq_commandUnknown_iff {line : Text} :
    decode line = .error .commandUnknown ↔
      Text.byte ' ' ∉ line ∨ line.takeWhile (· != Text.byte ' ') ∉ commandNames := by
  by_cases hmem : Text.byte ' ' ∈ line
  · obtain ⟨w, operands, rfl, hw⟩ := List.eq_append_cons_of_mem hmem
    rw [or_iff_right (not_not.mpr hmem), Text.takeWhile_bne_append_cons hw,
      ← lookup_commands_eq_none_iff, ← append_space, decode_append_space hw]
    cases hread : commands.lookup w with
    | none => simp
    | some read =>
        cases hi : read operands with
        | none => simp [hi]
        | some i => simp [hi]
  · exact iff_of_true (decode_of_not_mem hmem) (Or.inl hmem)

/-- Reading accepts exactly the lines of the grammar, with the numeric form that they spell. Any
other line has the form of no command; it fails for its operands if its first word is a command, and
for the command if not. -/
theorem decode_accepts_exactly_spellings (line : Text) :
    (∀ c, (∃ i, decode line = .ok i ∧ i.code = c) ↔ Spells line c) ∧
      ((∀ c, ¬ Spells line c) →
        codeOf (decode line) = { op := 0, src := 0, dst := 0, value := 0 }) ∧
      (decode line = .error .commandUnknown ↔
        Text.byte ' ' ∉ line ∨ line.takeWhile (· != Text.byte ' ') ∉ commandNames) ∧
      (decode line = .error .operandInvalid ↔
        (∀ c, ¬ Spells line c) ∧ Text.byte ' ' ∈ line ∧
          line.takeWhile (· != Text.byte ' ') ∈ commandNames) := by
  have hspells : (∀ c, ¬ Spells line c) ↔ ∀ i, decode line ≠ .ok i := by
    constructor
    · intro h i hi
      exact h i.code (spells_code_of_decode hi)
    · intro h c hc
      obtain ⟨i, hi, -⟩ := exists_decode_of_spells hc
      exact h i hi
  have hcommand : Text.byte ' ' ∈ line ∧ line.takeWhile (· != Text.byte ' ') ∈ commandNames ↔
      decode line ≠ .error .commandUnknown := by
    rw [Ne, decode_eq_commandUnknown_iff, not_or, not_not, not_not]
  refine ⟨fun c => exists_decode_iff_spells, ?_, decode_eq_commandUnknown_iff, ?_⟩
  · intro h
    cases hdecode : decode line with
    | ok i => exact absurd hdecode (hspells.mp h i)
    | error e => rfl
  · rw [hspells, hcommand]
    cases decode line with
    | ok i => simp
    | error e => cases e <;> simp

end Instruction

end LineMachine
