import LineMachine.Proofs.Computation
import LineMachine.Proofs.Machine.Grammar
import LineMachine.Proofs.Machine.Refinement
import LineMachine.Proofs.Machine.WordMachine
import LineMachine.Proofs.Text.Lines

/-!
# A run is safe

No run of the word machine ends in a trap, whatever the machine held before and whatever the program
is, and it does what the machine does (`run_safe`). So all sums that occur are words, all indices
lie inside of their arrays and the pattern of each command exists.

The proof follows a run turn by turn. `m.words` is the word machine that holds what `m` holds, and
each function of the word machine takes `m.words` to the words of what the machine does
(`note_words`, `write_words`, `alu_combine`, `step_words`, `turn_words`). What they need is `Sound`,
which follows from the invariant `Underway` of the loop: registers are bytes since the machine
represents a state of the byte machine, and `pc` is less than the greatest word. A jump keeps the
latter since the decoder cuts numbers off at the greatest word, and moving on keeps it since a text
has fewer lines than bytes.
-/

namespace LineMachine

/-- The word machine that holds what the machine holds. -/
def Machine.words (m : Machine) : WordMachine :=
  { registers := m.registers, zx := m.zx, pc := m.pc, steps := m.steps
    log := m.log.toList.map Entry.text }

namespace Machine

@[simp] theorem registers_words (m : Machine) : m.words.registers = m.registers := rfl

@[simp] theorem zx_words (m : Machine) : m.words.zx = m.zx := rfl

@[simp] theorem pc_words (m : Machine) : m.words.pc = m.pc := rfl

@[simp] theorem steps_words (m : Machine) : m.words.steps = m.steps := rfl

end Machine

namespace WordMachine

/-- What holds at every point of a run. -/
structure Sound (w : WordMachine) : Prop where
  registers : ∀ r, 0 ≤ w.registers.read r ∧ w.registers.read r ≤ 255
  zx : w.zx = 0 ∨ w.zx = 1
  pc : 0 ≤ w.pc ∧ w.pc ≤ Instruction.numberLimit - 1
  steps : 0 ≤ w.steps ∧ w.steps ≤ Machine.commandLimit

theorem word_ok {i : Int} (hlow : -(Instruction.numberLimit : Int) - 1 ≤ i)
    (hhigh : i ≤ Instruction.numberLimit) : word i = .ok i :=
  if_pos ⟨hlow, hhigh⟩

theorem fetch_index (b : Bank) (r : Register) : fetch b r.index.val = .ok (b.read r) := by
  have h : 0 ≤ (r.index.val : Int) ∧ (r.index.val : Int) < Register.count := by omega
  rw [fetch, dif_pos h]
  rfl

theorem store_index (b : Bank) (r : Register) (v : Int) :
    store b r.index.val v = .ok (b.write r v) := by
  have h : 0 ≤ (r.index.val : Int) ∧ (r.index.val : Int) < Register.count := by omega
  rw [store, dif_pos h]
  rfl

theorem lineAt_natCast {lines : List Text} {i : Nat} {line : Text} (h : lines[i]? = some line) :
    lineAt lines i = .ok line := by
  obtain ⟨hi, rfl⟩ := List.getElem?_eq_some_iff.mp h
  rw [lineAt, dif_pos (by omega)]
  rfl

section Decoding

theorem exists_letter {b : UInt8} (hlow : Text.byte 'A' ≤ b) (hhigh : b ≤ Text.byte 'H') :
    ∃ r : Register, r.letter = b := by
  have hlow' : 65 ≤ b.toNat := UInt8.le_iff_toNat_le.mp hlow
  have hhigh' : b.toNat ≤ 72 := UInt8.le_iff_toNat_le.mp hhigh
  obtain ⟨r, hr⟩ : ∃ r : Register, r.letter.toNat = b.toNat := by
    have hcases : b.toNat = 65 ∨ b.toNat = 66 ∨ b.toNat = 67 ∨ b.toNat = 68 ∨ b.toNat = 69 ∨
        b.toNat = 70 ∨ b.toNat = 71 ∨ b.toNat = 72 := by omega
    rcases hcases with h | h | h | h | h | h | h | h <;> rw [h]
    exacts [⟨.ax, rfl⟩, ⟨.bx, rfl⟩, ⟨.cx, rfl⟩, ⟨.dx, rfl⟩, ⟨.ex, rfl⟩, ⟨.fx, rfl⟩, ⟨.gx, rfl⟩,
      ⟨.hx, rfl⟩]
  exact ⟨r, UInt8.toNat_inj.mp hr⟩

theorem registerNumber?_name (r : Register) : registerNumber? r.name = some r.index.val := by
  cases r <;> rfl

theorem eq_name_of_registerNumber? {t : Text} {n : Int} (h : registerNumber? t = some n) :
    ∃ r : Register, t = r.name := by
  unfold registerNumber? at h
  split at h
  case h_1 b x =>
    split at h
    case isTrue hletter =>
      obtain ⟨hlow, hhigh, rfl⟩ := hletter
      obtain ⟨r, rfl⟩ := exists_letter hlow hhigh
      exact ⟨r, rfl⟩
    case isFalse => cases h
  case h_2 => cases h

/-- The letter of a register counts its index. -/
theorem registerNumber?_eq (t : Text) :
    registerNumber? t = (Register.ofName? t).map fun r => (r.index.val : Int) := by
  cases h : Register.ofName? t with
  | some r =>
      rw [Register.ofName?_eq_some_iff.mp h, registerNumber?_name]
      rfl
  | none =>
      cases ht : registerNumber? t with
      | none => rfl
      | some n =>
          obtain ⟨r, hr⟩ := eq_name_of_registerNumber? ht
          rw [Register.ofName?_eq_some_iff.mpr hr] at h
          cases h

/-- The pattern of operation `op` exists and reads what `read` does. -/
def Agrees (op : Int) (read : Text → Option Instruction) : Prop :=
  ∃ pattern, pattern? (Code.shapeOf op) = some pattern ∧
    ∀ t, (pattern t).map (fun c => { c with op }) = (read t).map Instruction.code

theorem agrees_move : Agrees 1 Instruction.move? := by
  refine ⟨numberRegister?, rfl, fun t => ?_⟩
  simp only [numberRegister?, Instruction.move?, registerNumber?_eq]
  rcases Instruction.pair? t with _ | ⟨v, d⟩
  · rfl
  · simp only [Option.bind_eq_bind, Option.bind_some]
    cases Instruction.number? v <;> cases Register.ofName? d <;> rfl

theorem agrees_combine (op : Operation) : Agrees op.number (Instruction.combine? op) := by
  refine ⟨registers?, by cases op <;> rfl, fun t => ?_⟩
  simp only [registers?, Instruction.combine?, registerNumber?_eq]
  rcases Instruction.pair? t with _ | ⟨s, d⟩
  · rfl
  · simp only [Option.bind_eq_bind, Option.bind_some]
    cases Register.ofName? s <;> cases Register.ofName? d <;> rfl

theorem agrees_jump (c : Condition) : Agrees c.number (Instruction.jump? c) := by
  refine ⟨number?, by cases c <;> rfl, fun t => ?_⟩
  simp only [number?, Instruction.jump?]
  cases Instruction.number? t <;> rfl

theorem agrees_tables :
    List.Forall₂ (fun a b => a.1 = b.1 ∧ Agrees a.2 b.2) operations Instruction.commands := by
  exact .cons ⟨rfl, agrees_move⟩ (.cons ⟨rfl, agrees_combine .add⟩
    (.cons ⟨rfl, agrees_combine .sub⟩ (.cons ⟨rfl, agrees_combine .copy⟩
    (.cons ⟨rfl, agrees_combine .and⟩ (.cons ⟨rfl, agrees_combine .or⟩
    (.cons ⟨rfl, agrees_combine .cmp⟩
    (.cons ⟨rfl, agrees_jump .always⟩ (.cons ⟨rfl, agrees_jump .equal⟩
    (.cons ⟨rfl, agrees_jump .notEqual⟩ .nil)))))))))

/-- A name is in both tables of commands or in none of them. -/
theorem lookup_agrees {as : List (Text × Int)} {bs : List (Text × (Text → Option Instruction))}
    (h : List.Forall₂ (fun a b => a.1 = b.1 ∧ Agrees a.2 b.2) as bs) (name : Text) :
    (as.lookup name = none ∧ bs.lookup name = none) ∨
      ∃ op read, as.lookup name = some op ∧ bs.lookup name = some read ∧ Agrees op read := by
  induction h with
  | nil => exact Or.inl ⟨rfl, rfl⟩
  | @cons a b as bs hab _ ih =>
      obtain ⟨hname, hagrees⟩ := hab
      rw [List.lookup_cons, List.lookup_cons, ← hname]
      cases name == a.1 with
      | true => exact Or.inr ⟨a.2, b.2, rfl, rfl, hagrees⟩
      | false => exact ih

/-- The pattern of a command is never missing, and the two decoders read the same. -/
theorem decode_eq (line : Text) :
    decode line = .ok ((Instruction.decode line).map Instruction.code) := by
  rw [decode, Instruction.decode]
  cases line.dropWhile (· != Text.byte ' ') with
  | nil => rfl
  | cons _ operands =>
      rcases lookup_agrees agrees_tables (line.takeWhile (· != Text.byte ' ')) with
        ⟨hop, hread⟩ | ⟨op, read, hop, hread, pattern, hpattern, hagrees⟩
      · simp only [hop, hread]
        rfl
      · have hoperands := hagrees operands
        simp only [hop, hread, hpattern]
        cases hp : pattern operands <;> cases hr : read operands <;> simp [hp, hr] at hoperands ⊢
        · rfl
        · simp [Except.map, hoperands]

/-- The decoder cuts numbers off, so they are words. -/
theorem target_le {line : Text} {c : Condition} {t : Nat}
    (h : Instruction.decode line = .ok (.jump c t)) : t ≤ Instruction.numberLimit :=
  Int.ofNat_le.mp (Instruction.spells_code_of_decode h).value_le

end Decoding

section Executing

variable {m : Machine}

/-- The counter leaves room for the number of the line. -/
def HasRoom (m : Machine) : Prop := 0 ≤ m.pc ∧ m.pc ≤ Instruction.numberLimit - 1

theorem word_pc_succ (h : HasRoom m) : word (m.pc + 1) = .ok (m.pc + 1) := by
  obtain ⟨hlow, hhigh⟩ := h
  exact word_ok (by omega) (by omega)

theorem note_words (h : HasRoom m) (message : Message) :
    m.words.note (message.text (m.pc + 1)) = .ok (m.note message).words := by
  rw [WordMachine.note, Machine.pc_words, word_pc_succ h, ok_bind, pure_eq_ok_iff]
  simp [Machine.words, Machine.note, Entry.text]

theorem warning_index (number : Int) (d : Register) (side bound : String) :
    warning number d.index.val side bound = Message.warning number d side bound := by
  rw [warning, Register.nameOfIndex_index, Message.warning]

theorem clamp_words (h : HasRoom m) (d : Register) :
    m.words.clamp d.index.val = .ok
      (if m.registers.read d < Register.least then
        ({ m.note (.below d) with registers := m.registers.write d Register.least }.words, true)
      else if Register.greatest < m.registers.read d then
        ({ m.note (.above d) with registers := m.registers.write d Register.greatest }.words, true)
      else (m.words, false)) := by
  rw [clamp, Machine.pc_words, word_pc_succ h, ok_bind, Machine.registers_words, fetch_index,
    ok_bind, warning_index, warning_index]
  split
  · have hnote := note_words h (.below d)
    rw [Message.text] at hnote
    rw [hnote, ok_bind]
    exact congrArg (· >>= _) (store_index _ d Register.least)
  · split
    · have hnote := note_words h (.above d)
      rw [Message.text] at hnote
      rw [hnote, ok_bind]
      exact congrArg (· >>= _) (store_index _ d Register.greatest)
    · rfl

theorem write_words (h : HasRoom m) (d : Register) (v : Int) (done : Message) :
    m.words.write d.index.val v (done.text (m.pc + 1)) = .ok (m.put d v done).words := by
  -- The number is stored as it is and clamped in place, so there is a state in between.
  let raw : Machine := { m with registers := m.registers.write d v }
  have hraw : HasRoom raw := h
  have hread : raw.registers.read d = v := by rw [Bank.read_write, if_pos rfl]
  have hclamp := clamp_words hraw d
  have hleast : Register.least = 0 := rfl
  have hgreatest : Register.greatest = 255 := rfl
  rw [hread] at hclamp
  rw [write, Machine.registers_words, store_index, ok_bind]
  change (raw.words.clamp d.index.val >>= _) = _
  rw [hclamp, ok_bind, Machine.put, Machine.outcome]
  by_cases hbelow : v < Register.least
  · have hv : Machine.clamp v = Register.least := by rw [Machine.clamp]; omega
    rw [if_pos hbelow, if_pos hbelow, hv, Bank.write_write]
    rfl
  by_cases habove : Register.greatest < v
  · have hv : Machine.clamp v = Register.greatest := by rw [Machine.clamp]; omega
    rw [if_neg hbelow, if_pos habove, if_neg hbelow, if_pos habove, hv, Bank.write_write]
    rfl
  · have hv : Machine.clamp v = v := by rw [Machine.clamp]; omega
    rw [if_neg hbelow, if_neg habove, if_neg hbelow, if_neg habove, hv]
    exact note_words hraw done

theorem land_eq_toNat {i j : Int} (hi : 0 ≤ i) (hj : 0 ≤ j) :
    Int.land i j = (i.toNat &&& j.toNat : Nat) := by
  obtain ⟨a, rfl⟩ := Int.eq_ofNat_of_zero_le hi
  obtain ⟨b, rfl⟩ := Int.eq_ofNat_of_zero_le hj
  rfl

theorem lor_eq_toNat {i j : Int} (hi : 0 ≤ i) (hj : 0 ≤ j) :
    Int.lor i j = (i.toNat ||| j.toNat : Nat) := by
  obtain ⟨a, rfl⟩ := Int.eq_ofNat_of_zero_le hi
  obtain ⟨b, rfl⟩ := Int.eq_ofNat_of_zero_le hj
  rfl

theorem alu_move (h : HasRoom m) (v : Nat) (d : Register) :
    m.words.alu (Instruction.move v d).code = .ok (m.put d v (.moved v d)).words := by
  -- The unused source is register zero.
  have hsrc : fetch m.registers 0 = .ok (m.registers.read .ax) := fetch_index _ .ax
  simp only [alu, Instruction.code, Machine.registers_words, hsrc, fetch_index, ok_bind, if_pos,
    Register.nameOfIndex_index]
  exact write_words h d v (.moved v d)

theorem alu_combine (h : m.words.Sound) (op : Operation) (a d : Register) :
    m.words.alu (Instruction.combine op a d).code =
      .ok ({ m with zx := m.flagAfter op (m.registers.read d) (m.registers.read a) }.put d
        (op.result (m.registers.read d) (m.registers.read a)) (.combined op a d)).words := by
  obtain ⟨ha, ha'⟩ : 0 ≤ m.registers.read a ∧ m.registers.read a ≤ 255 := h.registers a
  obtain ⟨hd, hd'⟩ : 0 ≤ m.registers.read d ∧ m.registers.read d ≤ 255 := h.registers d
  have hlimit : Instruction.numberLimit = 9223372036854775807 := rfl
  simp only [alu, Instruction.code, Machine.registers_words, fetch_index, ok_bind,
    Register.nameOfIndex_index]
  cases op with
  | add =>
      have hsum : word (m.registers.read d + m.registers.read a) = .ok _ :=
        word_ok (by omega) (by omega)
      simp only [Operation.number, hsum, ok_bind]
      exact write_words h.pc d _ (.combined .add a d)
  | sub =>
      have hsub : word (m.registers.read d - m.registers.read a) = .ok _ :=
        word_ok (by omega) (by omega)
      simp only [Operation.number, hsub, ok_bind]
      exact write_words h.pc d _ (.combined .sub a d)
  | copy => exact write_words h.pc d _ (.combined .copy a d)
  | and =>
      rw [land_eq_toNat hd ha]
      exact write_words h.pc d _ (.combined .and a d)
  | or =>
      rw [lor_eq_toNat hd ha]
      exact write_words h.pc d _ (.combined .or a d)
  | cmp =>
      let flagged : Machine :=
        { m with zx := m.flagAfter .cmp (m.registers.read d) (m.registers.read a) }
      have hflagged : HasRoom flagged := h.pc
      exact write_words hflagged d _ (.combined .cmp a d)

/-- What the word machine makes of a line that takes `m` to `after`. It moves on afterwards. -/
def stepped (m after : Machine) : WordMachine × Int := ({ after.words with pc := m.pc }, after.pc)

theorem jump_words (h : HasRoom m) {c : Condition} {t : Nat} (ht : t ≤ Instruction.numberLimit)
    (hc : c.holds m.zx) :
    m.words.jump t ((Message.jumped c t).text (m.pc + 1)) =
      .ok (stepped m (m.execute (.ok (.jump c t)))) := by
  rw [jump, Machine.execute, if_pos hc]
  by_cases hzero : t = 0
  · have hnote := note_words h (.noSuchLine t)
    have hnext : word ((m.note (.noSuchLine t)).words.pc + 1) = .ok (m.pc + 1) := word_pc_succ h
    rw [if_pos (by omega), if_pos hzero]
    change (m.words.note ((Message.noSuchLine t).text (m.pc + 1)) >>= _) = _
    rw [hnote, ok_bind, hnext]
    rfl
  · have htarget : word ((t : Int) - 1) = .ok ((t : Int) - 1) := word_ok (by omega) (by omega)
    rw [if_neg (by omega), if_neg hzero, note_words h, ok_bind, htarget]
    rfl

/-- A jump is taken on its condition, whichever of the three it is. -/
theorem branch_code (w : WordMachine) (c : Condition) (t : Nat) (next : Int) :
    w.branch (Instruction.jump c t).code next =
      if c.holds w.zx then w.jump t ((Message.jumped c t).text next) else .ok (w, next) := by
  cases c with
  | always => rfl
  | equal =>
      by_cases h : w.zx = 1 <;> simp only [branch, Instruction.code, Condition.number,
        Condition.holds, h] <;> rfl
  | notEqual =>
      by_cases h : w.zx = 0 <;> simp only [branch, Instruction.code, Condition.number,
        Condition.holds, h] <;> rfl

theorem branch_words (h : HasRoom m) (c : Condition) {t : Nat} (ht : t ≤ Instruction.numberLimit) :
    m.words.branch (Instruction.jump c t).code (m.pc + 1) =
      .ok (stepped m (m.execute (.ok (.jump c t)))) := by
  rw [branch_code, Machine.zx_words]
  by_cases hc : c.holds m.zx
  · rw [if_pos hc]
    exact jump_words h ht hc
  · rw [if_neg hc, Machine.execute, if_neg hc]
    rfl

theorem step_words (h : m.words.Sound) (number : Int) (line : Text) :
    m.words.step line = .ok (stepped m (m.execute (Instruction.decodeLine number line))) := by
  rw [step, Machine.pc_words, word_pc_succ h.pc, ok_bind, decode_eq, ok_bind,
    Instruction.decodeLine]
  cases hdecode : Instruction.decode line with
  | error e =>
      have hnote := note_words h.pc .unknownCommand
      change (m.words.note (Message.unknownCommand.text (m.pc + 1)) >>= _) = _
      rw [hnote]
      rfl
  | ok i =>
      cases i with
      | move v d =>
          change (m.words.alu (Instruction.move v d).code >>= _) = _
          rw [alu_move h.pc]
          rfl
      | combine op a d =>
          have hjump : (Instruction.combine op a d).code.isJump = false := by cases op <;> rfl
          simp only [Except.map, hjump]
          change (m.words.alu (Instruction.combine op a d).code >>= _) = _
          rw [alu_combine h]
          rfl
      | jump c t =>
          have hjump : (Instruction.jump c t).code.isJump = true := by cases c <;> rfl
          simp only [Except.map, hjump]
          exact branch_words h.pc c (target_le hdecode)

theorem turn_words (h : m.words.Sound) (number : Int) (line : Text) :
    m.words.turn line = .ok (m.step (Instruction.decodeLine number line)).words := by
  obtain ⟨hlow, hhigh⟩ : 0 ≤ m.steps ∧ m.steps ≤ Machine.commandLimit := h.steps
  have hlimit : Machine.commandLimit < Instruction.numberLimit := by decide
  have hcount : word ((m.execute (Instruction.decodeLine number line)).steps + 1) =
      .ok ((m.execute (Instruction.decodeLine number line)).steps + 1) := by
    rw [Machine.steps_execute]
    exact word_ok (by omega) (by omega)
  rw [turn, step_words h number, ok_bind]
  exact congrArg (· >>= _) hcount

end Executing

section Running

variable {m : Machine} {lines : List Text} {n : Nat}

/-- The invariant of the loop, with `n` lines left to execute. -/
structure Underway (n : Nat) (m : Machine) : Prop where
  represents : ∃ s, Represents m s
  pc : m.pc ≤ Instruction.numberLimit - 1
  steps : 0 ≤ m.steps
  left : m.steps + n = Machine.commandLimit

theorem Underway.reset (m : Machine) : Underway Machine.commandLimit m.reset where
  represents := ⟨_, Represents.reset m⟩
  pc := show 0 ≤ (Instruction.numberLimit : Int) - 1 by decide
  steps := Int.le_refl 0
  left := Int.zero_add _

theorem Underway.note (h : Underway n m) (message : Message) : Underway n (m.note message) where
  represents := h.represents.imp fun _ hs => hs.note message
  pc := h.pc
  steps := h.steps
  left := h.left

theorem Underway.sound (h : Underway n m) : m.words.Sound := by
  obtain ⟨⟨s, hs⟩, hpc, hsteps, hleft⟩ := h
  constructor
  · intro r
    have hlt := (s.registers r).toNat_lt
    rw [Machine.registers_words, hs.registers]
    omega
  · rw [Machine.zx_words, hs.zx]
    cases s.flag <;> decide
  · rw [Machine.pc_words]
    exact ⟨hs.pc ▸ Int.natCast_nonneg _, hpc⟩
  · rw [Machine.steps_words]
    omega

/-- Moving on stays below the number of lines, and a jump stays below the greatest word. -/
theorem pc_execute_le (hlines : lines.length < Instruction.numberLimit) {line : Text}
    (hline : lines[m.pc.toNat]? = some line) (number : Int) :
    (m.execute (Instruction.decodeLine number line)).pc ≤ Instruction.numberLimit - 1 := by
  rcases m.pc_execute (Instruction.decodeLine number line) with hpc | ⟨c, t, hjump, -, -, hpc⟩
  · obtain ⟨hlt, -⟩ := List.getElem?_eq_some_iff.mp hline
    omega
  · have ht := target_le (Instruction.decode_of_decodeLine hjump)
    omega

theorem Underway.step (h : Underway (n + 1) m) (hlines : lines.length < Instruction.numberLimit)
    {line : Text} (hline : lines[m.pc.toNat]? = some line) :
    Underway n (m.step (Instruction.decodeLine (m.pc + 1) line)) := by
  obtain ⟨⟨s, hs⟩, hpc, hsteps, hleft⟩ := h
  have hproceed := hs.proceed lines
  rw [Machine.proceed_of_getElem?_eq_some hline] at hproceed
  have hcount := m.steps_step (Instruction.decodeLine (m.pc + 1) line)
  exact ⟨⟨_, hproceed⟩, pc_execute_le hlines hline (m.pc + 1), by omega, by omega⟩

theorem loop_of_getElem?_eq_none (h : m.words.Sound) (hline : lines[m.pc.toNat]? = none) :
    loop lines (n + 1) m.words = .ok [m.words] := by
  have hlow : 0 ≤ m.pc := h.pc.1
  have hend : lines.length ≤ m.pc.toNat := List.getElem?_eq_none_iff.mp hline
  rw [loop, Machine.pc_words, if_neg (by omega)]
  rfl

/-- The loop from its check of the limit on, which follows an executed line. -/
def checked (lines : List Text) (n : Nat) (m : Machine) : Except Trap (List WordMachine) :=
  if Machine.commandLimit ≤ m.steps then .ok [m.words, (m.note .tooManyCommands).words]
  else loop lines n m.words

theorem loop_of_getElem?_eq_some (h : m.words.Sound) {line : Text}
    (hline : lines[m.pc.toNat]? = some line) {after : Machine}
    (hafter : m.step (Instruction.decodeLine (m.pc + 1) line) = after) (hroom : HasRoom after) :
    loop lines (n + 1) m.words = (checked lines n after).map (m.words :: ·) := by
  obtain ⟨hlt, -⟩ := List.getElem?_eq_some_iff.mp hline
  have hlow : 0 ≤ m.pc := h.pc.1
  have hat : lineAt lines m.pc = .ok line := by
    rw [← Int.toNat_of_nonneg hlow]
    exact lineAt_natCast hline
  have hturn : m.words.turn line = .ok after.words := hafter ▸ turn_words h (m.pc + 1) line
  rw [loop, Machine.pc_words, if_pos (by omega), hat, ok_bind, hturn, ok_bind, Machine.steps_words,
    checked]
  by_cases hlimit : Machine.commandLimit ≤ after.steps
  · have hnote := note_words hroom .tooManyCommands
    rw [Message.text] at hnote
    rw [if_pos hlimit, if_pos hlimit, hnote]
    rfl
  · rw [if_neg hlimit, if_neg hlimit]
    cases loop lines n after.words <;> rfl

theorem checked_eq (h : Underway n m) (hlines : lines.length < Instruction.numberLimit) :
    checked lines n m = .ok ((m.history lines n).map Machine.words) := by
  induction n generalizing m with
  | zero =>
      have hleft := h.left
      rw [checked, if_pos (by omega)]
      rfl
  | succ n ih =>
      have hleft := h.left
      rw [checked, if_neg (by omega), Machine.history]
      cases hline : lines[m.pc.toNat]? with
      | none => exact loop_of_getElem?_eq_none h.sound hline
      | some line =>
          have hafter := h.step hlines hline
          rw [loop_of_getElem?_eq_some h.sound hline rfl hafter.sound.pc, ih hafter]
          rfl

theorem sound_of_mem_history (h : Underway n m) (hlines : lines.length < Instruction.numberLimit)
    {p : Machine} (hp : p ∈ m.history lines n) : p.words.Sound := by
  induction n generalizing m with
  | zero =>
      rw [Machine.history, List.mem_cons, List.mem_singleton] at hp
      rcases hp with rfl | rfl
      · exact h.sound
      · exact (h.note _).sound
  | succ n ih =>
      rw [Machine.history] at hp
      cases hline : lines[m.pc.toNat]? with
      | none =>
          simp only [hline, List.mem_singleton] at hp
          exact hp ▸ h.sound
      | some line =>
          simp only [hline, List.mem_cons] at hp
          rcases hp with rfl | hp
          · exact h.sound
          · exact ih (h.step hlines hline) hp

theorem length_lines_lt {code : Text} (h : code.length ≤ Instruction.numberLimit) :
    (Text.lines code).length < Instruction.numberLimit := by
  have hlimit : 1 < Instruction.numberLimit := by decide
  rcases Text.length_lines code with hone | hless <;> omega

/-- No run traps, and at each of its points registers are bytes, the flag is a bit and the counters
are in range. That the length of the text is a word is what lets its lines be counted. -/
theorem run_safe (m : Machine) (code : Text) (h : code.length ≤ Instruction.numberLimit) :
    m.words.run code = .ok ((m.points code).map Machine.words) ∧
      (m.points code).getLast? = some (m.run code) ∧
      ∀ p ∈ m.points code, p.words.Sound := by
  have hlines := length_lines_lt h
  have hstart := Underway.reset m
  refine ⟨?_, m.getLast?_points code, fun p hp => sound_of_mem_history hstart hlines hp⟩
  exact checked_eq hstart hlines

/-- A jump beyond all words, on a machine that has been set from outside. -/
theorem run_safe_far_jump :
    let m : Machine := { zx := 5, pc := -7, steps := 20000 }
    let code := Text.ascii "JMP 99999999999999999999"
    code.length ≤ Instruction.numberLimit ∧
      m.words.run code = .ok ((m.points code).map Machine.words) ∧
      (m.points code).getLast? = some (m.run code) ∧
      ∀ p ∈ m.points code, p.words.Sound := by
  have h : (Text.ascii "JMP 99999999999999999999").length ≤ Instruction.numberLimit := by decide
  exact ⟨h, run_safe _ _ h⟩

end Running

end WordMachine

end LineMachine
