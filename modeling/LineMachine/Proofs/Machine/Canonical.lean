import LineMachine.Proofs.Machine.Grammar
import Mathlib.Tactic.IntervalCases

/-!
# The canonical line of an instruction

A code is four integers, and most codes are the form of no instruction. `Code.IsWellFormed` says
which ones are, field by field (`exists_code_eq_iff`). A well-formed code is read back from its own
text unless its number is beyond what an instruction holds. No other code is ever read, whatever its
text looks like.

A line that is read may be written in another way than the canonical one. The two differ in the
digits of the number only, so they are the same line exactly if these digits are what is written for
the number (`text_eq_iff_of_spells`).
-/

namespace LineMachine

theorem Register.exists_index_eq_iff {n : Int} :
    (∃ r : Register, (r.index.val : Int) = n) ↔ 0 ≤ n ∧ n ≤ 7 := by
  constructor
  · rintro ⟨r, rfl⟩
    cases r <;> decide
  · rintro ⟨hlow, hhigh⟩
    interval_cases n
    exacts [⟨.ax, rfl⟩, ⟨.bx, rfl⟩, ⟨.cx, rfl⟩, ⟨.dx, rfl⟩, ⟨.ex, rfl⟩, ⟨.fx, rfl⟩, ⟨.gx, rfl⟩,
      ⟨.hx, rfl⟩]

theorem Operation.exists_number_eq_iff {n : Int} :
    (∃ op : Operation, op.number = n) ↔ 2 ≤ n ∧ n ≤ 7 := by
  constructor
  · rintro ⟨op, rfl⟩
    cases op <;> decide
  · rintro ⟨hlow, hhigh⟩
    interval_cases n
    exacts [⟨.add, rfl⟩, ⟨.sub, rfl⟩, ⟨.copy, rfl⟩, ⟨.and, rfl⟩, ⟨.or, rfl⟩, ⟨.cmp, rfl⟩]

theorem Operation.number_inj {p q : Operation} : p.number = q.number ↔ p = q := by
  cases p <;> cases q <;> decide

theorem Condition.exists_number_eq_iff {n : Int} :
    (∃ c : Condition, c.number = n) ↔ 8 ≤ n ∧ n ≤ 10 := by
  constructor
  · rintro ⟨c, rfl⟩
    cases c <;> decide
  · rintro ⟨hlow, hhigh⟩
    interval_cases n
    exacts [⟨.always, rfl⟩, ⟨.equal, rfl⟩, ⟨.notEqual, rfl⟩]

theorem Condition.number_inj {p q : Condition} : p.number = q.number ↔ p = q := by
  cases p <;> cases q <;> decide

namespace Code

/-- The code has a command, the registers that its command takes exist and the number that it takes
is not negative. What it does not take is zero. -/
def IsWellFormed (c : Code) : Prop :=
  (1 ≤ c.op ∧ c.op ≤ 10) ∧
    match c.shape with
    | .numberRegister => c.src = 0 ∧ (0 ≤ c.dst ∧ c.dst ≤ 7) ∧ 0 ≤ c.value
    | .registers => (0 ≤ c.src ∧ c.src ≤ 7) ∧ (0 ≤ c.dst ∧ c.dst ≤ 7) ∧ c.value = 0
    | .number => c.src = 0 ∧ c.dst = 0 ∧ 0 ≤ c.value
    | .bare => False

@[simp] theorem shapeOf_operation (op : Operation) : shapeOf op.number = .registers := by
  cases op <;> rfl

@[simp] theorem shapeOf_condition (c : Condition) : shapeOf c.number = .number := by
  cases c <;> rfl

@[simp] theorem mnemonic_operation (op : Operation) : mnemonic op.number = op.mnemonic := by
  cases op <;> rfl

@[simp] theorem mnemonic_condition (c : Condition) : mnemonic c.number = c.mnemonic := by
  cases c <;> rfl

@[simp] theorem shape_move (v : Nat) (d : Register) :
    (Instruction.move v d).code.shape = .numberRegister := rfl

@[simp] theorem shape_combine (op : Operation) (s d : Register) :
    (Instruction.combine op s d).code.shape = .registers := shapeOf_operation op

@[simp] theorem shape_jump (c : Condition) (t : Nat) :
    (Instruction.jump c t).code.shape = .number := shapeOf_condition c

theorem isWellFormed_code (i : Instruction) : i.code.IsWellFormed := by
  cases i with
  | move v d =>
      have hd := Register.exists_index_eq_iff.mp ⟨d, rfl⟩
      simp [IsWellFormed, Instruction.code, hd, shape, shapeOf]
  | combine op s d =>
      have hop := Operation.exists_number_eq_iff.mp ⟨op, rfl⟩
      have hs := Register.exists_index_eq_iff.mp ⟨s, rfl⟩
      have hd := Register.exists_index_eq_iff.mp ⟨d, rfl⟩
      rw [IsWellFormed, shape_combine]
      exact ⟨⟨Int.le_trans (by decide) hop.1, Int.le_trans hop.2 (by decide)⟩, hs, hd, rfl⟩
  | jump c t =>
      have hc := Condition.exists_number_eq_iff.mp ⟨c, rfl⟩
      rw [IsWellFormed, shape_jump]
      exact ⟨⟨Int.le_trans (by decide) hc.1, hc.2⟩, rfl, rfl, Int.natCast_nonneg t⟩

theorem exists_code_eq {c : Code} (h : c.IsWellFormed) : ∃ i : Instruction, i.code = c := by
  obtain ⟨op, src, dst, value⟩ := c
  obtain ⟨⟨hlow, hhigh⟩, hfields⟩ := h
  simp only at hlow hhigh
  rcases (by omega : op = 1 ∨ (2 ≤ op ∧ op ≤ 7) ∨ (8 ≤ op ∧ op ≤ 10)) with rfl | hop | hop
  · obtain ⟨rfl, hdst, hvalue⟩ := hfields
    obtain ⟨d, rfl⟩ := Register.exists_index_eq_iff.mpr hdst
    obtain ⟨v, rfl⟩ := Int.eq_ofNat_of_zero_le hvalue
    exact ⟨.move v d, rfl⟩
  · obtain ⟨op, rfl⟩ := Operation.exists_number_eq_iff.mpr hop
    simp only [shape, shapeOf_operation] at hfields
    obtain ⟨hsrc, hdst, rfl⟩ := hfields
    obtain ⟨s, rfl⟩ := Register.exists_index_eq_iff.mpr hsrc
    obtain ⟨d, rfl⟩ := Register.exists_index_eq_iff.mpr hdst
    exact ⟨.combine op s d, rfl⟩
  · obtain ⟨c, rfl⟩ := Condition.exists_number_eq_iff.mpr hop
    simp only [shape, shapeOf_condition] at hfields
    obtain ⟨rfl, rfl, hvalue⟩ := hfields
    obtain ⟨t, rfl⟩ := Int.eq_ofNat_of_zero_le hvalue
    exact ⟨.jump c t, rfl⟩

/-- The well-formed codes are the codes of instructions. -/
theorem exists_code_eq_iff {c : Code} : (∃ i : Instruction, i.code = c) ↔ c.IsWellFormed := by
  constructor
  · rintro ⟨i, rfl⟩
    exact isWellFormed_code i
  · exact exists_code_eq

end Code

namespace Instruction

theorem text_move (v : Nat) (d : Register) :
    text (.move v d) =
      Text.ascii "MOV" ++ Text.ascii " " ++ Text.ofNat v ++ Text.ascii ", " ++ d.name := by
  rw [← Register.nameOfIndex_index]
  rfl

theorem text_combine (op : Operation) (s d : Register) :
    text (.combine op s d) =
      op.mnemonic ++ Text.ascii " " ++ s.name ++ Text.ascii ", " ++ d.name := by
  simp [text, code, Code.text, Code.shape]

theorem text_jump (c : Condition) (t : Nat) :
    text (.jump c t) = c.mnemonic ++ Text.ascii " " ++ Text.ofNat t := by
  simp [text, code, Code.text, Code.shape, Text.ofInt]

theorem code_injective : Function.Injective code := by
  intro i j h
  have hshape := congrArg Code.shape h
  cases i <;> cases j <;>
    simp only [Code.shape_move, Code.shape_combine, Code.shape_jump, reduceCtorEq] at hshape
  case move.move v d w e =>
      simp only [code, Code.mk.injEq, Int.natCast_inj, Fin.val_inj, Register.index_inj] at h
      rw [h.2.2.1, h.2.2.2]
  case combine.combine op s d op' s' d' =>
      simp only [code, Code.mk.injEq, Int.natCast_inj, Fin.val_inj, Register.index_inj,
        Operation.number_inj] at h
      rw [h.1, h.2.1, h.2.2.1]
  case jump.jump c t c' t' =>
      simp only [code, Code.mk.injEq, Int.natCast_inj, Condition.number_inj] at h
      rw [h.1, h.2.2.2]

theorem min_decimal_ofNat {n : Nat} (h : (n : Int) ≤ numberLimit) :
    min (Text.ofNat n).decimal numberLimit = n := by
  rw [Text.decimal_ofNat]
  exact Nat.min_eq_left (Int.ofNat_le.mp h)

theorem spells_text {i : Instruction} (h : i.code.value ≤ numberLimit) :
    Spells i.text i.code := by
  cases i with
  | move v d =>
      have hspells := Spells.move (Text.isNumber_ofNat v) d
      rwa [min_decimal_ofNat h, ← text_move] at hspells
  | combine op s d =>
      rw [text_combine]
      exact .combine op s d
  | jump c t =>
      have hspells := Spells.jump c (Text.isNumber_ofNat t)
      rwa [min_decimal_ofNat h, ← text_jump] at hspells

theorem decode_text {i : Instruction} (h : i.code.value ≤ numberLimit) :
    decode i.text = .ok i := by
  obtain ⟨j, hj, hcode⟩ := exists_decode_of_spells (spells_text h)
  rw [hj, code_injective hcode]

theorem all_isDigit_of_isNumber {d : Text} (h : d.IsNumber) : d.all Text.isDigit = true :=
  List.all_eq_true.mpr fun b hb => Text.isDigit_iff.mpr (h.2 b hb)

theorem any_isDigit_name (r : Register) : r.name.any Text.isDigit = false := by
  cases r <;> decide

/-- The canonical line has the digits that are written for the number, and is the same otherwise. -/
theorem text_eq_iff_of_spells {line : Text} {c : Code} (h : Spells line c) :
    c.text = line ↔
      ¬ (Text.digitRun line).HasSpareZero ∧ (Text.digitRun line).decimal ≤ numberLimit := by
  cases h with
  | @move d hd r =>
      have hrun : Text.digitRun (Text.ascii "MOV" ++ Text.ascii " " ++ d ++ Text.ascii ", " ++
          r.name) = d := by
        rw [List.append_assoc _ (Text.ascii ", ")]
        apply Text.digitRun_append (by decide) (all_isDigit_of_isNumber hd)
        rw [List.any_append, any_isDigit_name]
        decide
      change text (.move (min d.decimal numberLimit) r) = _ ↔ _
      rw [text_move, hrun, List.append_left_inj, List.append_left_inj, List.append_right_inj,
        Text.ofNat_min_decimal_eq_iff hd]
  | combine op s r =>
      have hrun : Text.digitRun (op.mnemonic ++ Text.ascii " " ++ s.name ++ Text.ascii ", " ++
          r.name) = [] := by
        have hnone : (op.mnemonic ++ Text.ascii " " ++ s.name ++ Text.ascii ", " ++ r.name).any
            Text.isDigit = false := by
          simp only [List.any_append, any_isDigit_name]
          cases op <;> decide
        have happend := Text.digitRun_append (d := []) hnone rfl (List.any_nil)
        rwa [List.append_nil, List.append_nil] at happend
      change text (.combine op s r) = _ ↔ _
      rw [text_combine, hrun]
      simp [Text.HasSpareZero]
  | @jump cond d hd =>
      have hrun : Text.digitRun (cond.mnemonic ++ Text.ascii " " ++ d) = d := by
        have happend : Text.digitRun (cond.mnemonic ++ Text.ascii " " ++ d ++ []) = d :=
          Text.digitRun_append (by cases cond <;> decide) (all_isDigit_of_isNumber hd) rfl
        rwa [List.append_nil] at happend
      change text (.jump cond (min d.decimal numberLimit)) = _ ↔ _
      rw [text_jump, hrun, List.append_right_inj, Text.ofNat_min_decimal_eq_iff hd]

/-- A code is read back from its text exactly if it is well-formed and its number is not beyond what
an instruction holds. All codes that are ever read are of this kind, and so is reading stable: the
canonical line of what was read is read as the same. It is the line itself exactly if the digits in
the line, if there are any, have no zero to spare and denote a number that an instruction holds. -/
theorem decode_text_iff_isWellFormed :
    (∀ c : Code,
      (∃ i, decode c.text = .ok i ∧ i.code = c) ↔ c.IsWellFormed ∧ c.value ≤ numberLimit) ∧
    ∀ (line : Text) (i : Instruction), decode line = .ok i →
      (i.code.IsWellFormed ∧ i.code.value ≤ numberLimit) ∧
      decode i.text = .ok i ∧
      (i.text = line ↔
        ¬ (Text.digitRun line).HasSpareZero ∧ (Text.digitRun line).decimal ≤ numberLimit) := by
  have hread : ∀ (line : Text) (i : Instruction), decode line = .ok i →
      i.code.IsWellFormed ∧ i.code.value ≤ numberLimit := fun line i h =>
    ⟨Code.isWellFormed_code i, (spells_code_of_decode h).value_le⟩
  refine ⟨fun c => ⟨?_, ?_⟩, fun line i h => ⟨hread line i h, ?_, ?_⟩⟩
  · rintro ⟨i, hi, rfl⟩
    exact hread _ i hi
  · rintro ⟨hform, hvalue⟩
    obtain ⟨i, rfl⟩ := Code.exists_code_eq hform
    exact ⟨i, decode_text hvalue, rfl⟩
  · exact decode_text (hread line i h).2
  · exact text_eq_iff_of_spells (spells_code_of_decode h)

end Instruction

end LineMachine
