import LineMachine.Text.Decimal
import Mathlib.Data.List.Basic
import Mathlib.Data.List.Induction
import Mathlib.Data.List.TakeWhile
import Mathlib.Data.Nat.Digits.Defs

/-!
# Reading numbers back

`denoted base d` is the number that the digits `d` denote in a base, the last of which is the least
significant. It gives back every number from what is written for it (`denoted_digits`), and
`signed base` does so for integers. `decimal` is the case of base ten. Decimal digits, in turn, are
what is written for their number exactly if no zero stands before them that could be left out
(`ofNat_decimal_eq_iff`).

All follow the last digit: a number with more than one digit is written as its quotient by the base
with one digit more (`digits_of_le`).
-/

namespace LineMachine.Text

/-- A number is written with one or more digits. -/
def IsNumber (d : Text) : Prop := d ≠ [] ∧ ∀ b ∈ d, byte '0' ≤ b ∧ b ≤ byte '9'

/-- The number that the digits `d` denote, the last of which is the least significant. -/
def denoted (base : Nat) (d : Text) : Nat := Nat.ofDigits base (d.reverse.map fun b => b.toNat - 48)

/-- The integer that is written with a minus sign before its digits if it is negative. -/
def signed (base : Nat) (t : Text) : Int :=
  if t.head? = some (byte '-') then -denoted base t.tail else denoted base t

/-- The number that is written with decimal digits. -/
abbrev decimal (d : Text) : Nat := denoted 10 d

/-- There is a zero in front that could be left out. -/
def HasSpareZero (d : Text) : Prop := d.head? = some (byte '0') ∧ 1 < d.length

instance (d : Text) : Decidable d.HasSpareZero := inferInstanceAs (Decidable (_ ∧ _))

/-- The first digits of a text that stand together. -/
def digitRun (t : Text) : Text := (t.dropWhile fun b => !isDigit b).takeWhile isDigit

/-! ### Digits in a base -/

@[simp] theorem denoted_nil (base : Nat) : denoted base [] = 0 := rfl

theorem denoted_append_singleton (base : Nat) (d : Text) (b : UInt8) :
    denoted base (d ++ [b]) = base * denoted base d + (b.toNat - 48) := by
  simp [denoted, Nat.ofDigits_cons, Nat.add_comm]

theorem toNat_byte_digitChar {n : Nat} (h : n < 10) : (byte n.digitChar).toNat = 48 + n := by
  rw [byte, Nat.toNat_digitChar_of_lt_ten h, Nat.toUInt8_eq, UInt8.toNat_ofNat']
  omega

theorem digits_of_lt {base n : Nat} (h : n < base) : digits base n = [byte n.digitChar] := by
  rw [digits, Nat.toDigits_of_lt_base h, List.map_singleton]

theorem digits_of_le {base n : Nat} (hbase : 1 < base) (h : base ≤ n) :
    digits base n = digits base (n / base) ++ [byte (n % base).digitChar] := by
  rw [digits, Nat.toDigits_of_base_le hbase h, List.map_append]
  rfl

theorem exists_eq_digitChar {base n : Nat} (hbase : 1 < base) {b : UInt8}
    (h : b ∈ digits base n) : ∃ d < base, b = byte d.digitChar := by
  induction n using Nat.strongRecOn with
  | ind n ih =>
      by_cases hn : n < base
      · rw [digits_of_lt hn, List.mem_singleton] at h
        exact ⟨n, hn, h⟩
      · rw [digits_of_le hbase (Nat.not_lt.mp hn), List.mem_append, List.mem_singleton] at h
        rcases h with h | h
        · exact ih (n / base) (Nat.div_lt_self (by omega) hbase) h
        · exact ⟨n % base, Nat.mod_lt n (by omega), h⟩

/-- A number is read back from what is written for it. -/
theorem denoted_digits {base : Nat} (hbase : 1 < base) (hten : base ≤ 10) (n : Nat) :
    denoted base (digits base n) = n := by
  induction n using Nat.strongRecOn with
  | ind n ih =>
      by_cases hn : n < base
      · rw [digits_of_lt hn, ← List.nil_append [_], denoted_append_singleton,
          toNat_byte_digitChar (by omega)]
        simp
      · have hlast : n % base < base := Nat.mod_lt n (by omega)
        rw [digits_of_le hbase (Nat.not_lt.mp hn), denoted_append_singleton,
          ih (n / base) (Nat.div_lt_self (by omega) hbase), toNat_byte_digitChar (by omega),
          Nat.add_sub_cancel_left, Nat.div_add_mod]

theorem denoted_padZero (base width : Nat) (d : Text) :
    denoted base (padZero width d) = denoted base d := by
  have hzeros : ((padZero width d).reverse.map fun b => b.toNat - 48) =
      (d.reverse.map fun b => b.toNat - 48) ++ List.replicate (width - d.length) 0 := by
    simp [padZero]
  rw [denoted, hzeros, Nat.ofDigits_append_replicate_zero, denoted]

theorem signed_cons_minus (base : Nat) (d : Text) : signed base (byte '-' :: d) = -denoted base d :=
  if_pos rfl

theorem signed_of_not_mem (base : Nat) {d : Text} (h : byte '-' ∉ d) :
    signed base d = denoted base d :=
  if_neg fun hhead => h (List.mem_of_mem_head? hhead)

/-! ### Decimal digits -/

theorem value_eq_decimal (d : Text) : value d = decimal d := by
  induction d using List.reverseRecOn with
  | nil => rfl
  | append_singleton d b ih =>
      rw [value, List.foldl_append, ← value, ih]
      exact (denoted_append_singleton 10 d b).symm

/-- The digits by their numbers. -/
theorem digit_iff_toNat {b : UInt8} :
    byte '0' ≤ b ∧ b ≤ byte '9' ↔ 48 ≤ b.toNat ∧ b.toNat ≤ 57 := by
  rw [UInt8.le_iff_toNat_le, UInt8.le_iff_toNat_le]
  exact Iff.rfl

theorem byte_digitChar_sub {b : UInt8} (h : byte '0' ≤ b ∧ b ≤ byte '9') :
    byte (b.toNat - 48).digitChar = b := by
  rw [digit_iff_toNat] at h
  apply UInt8.toNat_inj.mp
  rw [toNat_byte_digitChar (by omega)]
  omega

theorem ofNat_of_lt {n : Nat} (h : n < 10) : ofNat n = [byte n.digitChar] := digits_of_lt h

theorem ofNat_of_le {n : Nat} (h : 10 ≤ n) :
    ofNat n = ofNat (n / 10) ++ [byte (n % 10).digitChar] :=
  digits_of_le (by decide) h

/-- A digit behind a number that is not zero. -/
theorem ofNat_append_singleton {n : Nat} (hn : 0 < n) {b : UInt8}
    (hb : byte '0' ≤ b ∧ b ≤ byte '9') : ofNat n ++ [b] = ofNat (10 * n + (b.toNat - 48)) := by
  have hlt : b.toNat - 48 < 10 := by
    have hnat := digit_iff_toNat.mp hb
    omega
  have hdigits := Nat.toDigits_append_toDigits (by decide : 1 < 10) hn hlt
  rw [ofNat, ofNat, digits, digits, ← hdigits, List.map_append, Nat.toDigits_of_lt_base hlt,
    List.map_singleton, byte_digitChar_sub hb]

theorem isDigit_of_mem_digits {base n : Nat} (hbase : 1 < base) (hten : base ≤ 10) {b : UInt8}
    (h : b ∈ digits base n) : byte '0' ≤ b ∧ b ≤ byte '9' := by
  obtain ⟨d, hd, rfl⟩ := exists_eq_digitChar hbase h
  rw [digit_iff_toNat, toNat_byte_digitChar (by omega)]
  omega

theorem isDigit_of_mem_ofNat {n : Nat} {b : UInt8} (h : b ∈ ofNat n) :
    byte '0' ≤ b ∧ b ≤ byte '9' :=
  isDigit_of_mem_digits (by decide) (by decide) h

theorem not_mem_ofNat {b : UInt8} (h : ¬ (byte '0' ≤ b ∧ b ≤ byte '9')) (n : Nat) : b ∉ ofNat n :=
  fun hmem => h (isDigit_of_mem_ofNat hmem)

theorem not_mem_ofInt {b : UInt8} (h : ¬ (byte '0' ≤ b ∧ b ≤ byte '9')) (hminus : b ≠ byte '-')
    (i : Int) : b ∉ ofInt i := by
  cases i with
  | ofNat n => exact not_mem_ofNat h n
  | negSucc n =>
      rw [ofInt, List.mem_cons, not_or]
      exact ⟨hminus, not_mem_ofNat h (n + 1)⟩

theorem isNumber_ofNat (n : Nat) : (ofNat n).IsNumber := by
  refine ⟨?_, fun b hb => isDigit_of_mem_ofNat hb⟩
  simp [ofNat, digits]

theorem decimal_ofNat (n : Nat) : decimal (ofNat n) = n :=
  denoted_digits (by decide) (by decide) n

theorem signed_ofInt (i : Int) : signed 10 (ofInt i) = i := by
  cases i with
  | ofNat n =>
      have hminus : byte '-' ∉ ofNat n := not_mem_ofNat (by decide) n
      rw [ofInt, signed_of_not_mem 10 hminus]
      exact congrArg Int.ofNat (decimal_ofNat n)
  | negSucc n =>
      rw [ofInt, signed_cons_minus]
      exact congrArg (fun k : Nat => -(k : Int)) (decimal_ofNat (n + 1))

theorem ofInt_injective : Function.Injective ofInt :=
  Function.LeftInverse.injective signed_ofInt

theorem head?_ofNat {n : Nat} (hn : 0 < n) : (ofNat n).head? ≠ some (byte '0') := by
  induction n using Nat.strongRecOn with
  | ind n ih =>
      by_cases hlt : n < 10
      · rw [ofNat_of_lt hlt, List.head?_cons, Ne, Option.some.injEq, ← UInt8.toNat_inj,
          toNat_byte_digitChar hlt]
        change ¬ 48 + n = 48
        omega
      · rw [ofNat_of_le (by omega), List.head?_append_of_ne_nil _ (isNumber_ofNat _).1]
        exact ih (n / 10) (by omega) (by omega)

theorem not_hasSpareZero_ofNat (n : Nat) : ¬ (ofNat n).HasSpareZero := by
  rintro ⟨hhead, hlength⟩
  rcases Nat.eq_zero_or_pos n with rfl | hn
  · exact absurd hlength (by decide)
  · exact head?_ofNat hn hhead

/-- Digits that start with no zero denote no zero. -/
theorem decimal_pos {d : Text} (h : d.IsNumber) (hhead : d.head? ≠ some (byte '0')) :
    0 < decimal d := by
  induction d using List.reverseRecOn with
  | nil => exact absurd rfl h.1
  | append_singleton d b ih =>
      rw [decimal, denoted_append_singleton]
      by_cases hd : d = []
      · subst hd
        have hb := digit_iff_toNat.mp (h.2 b (by simp))
        have hne : b ≠ byte '0' := by simpa using hhead
        rw [Ne, ← UInt8.toNat_inj] at hne
        change ¬ b.toNat = 48 at hne
        omega
      · have hnumber : IsNumber d := ⟨hd, fun x hx => h.2 x (List.mem_append_left _ hx)⟩
        rw [List.head?_append_of_ne_nil _ hd] at hhead
        have hpos : 0 < denoted 10 d := ih hnumber hhead
        omega

theorem ofNat_decimal {d : Text} (h : d.IsNumber) (hspare : ¬ d.HasSpareZero) :
    ofNat (decimal d) = d := by
  induction d using List.reverseRecOn with
  | nil => exact absurd rfl h.1
  | append_singleton d b ih =>
      have hb := h.2 b (by simp)
      rw [decimal, denoted_append_singleton]
      by_cases hd : d = []
      · subst hd
        have hlt : b.toNat - 48 < 10 := by
          have hnat := digit_iff_toNat.mp hb
          omega
        rw [denoted_nil, Nat.mul_zero, Nat.zero_add, ofNat_of_lt hlt, byte_digitChar_sub hb,
          List.nil_append]
      · have hnumber : IsNumber d := ⟨hd, fun x hx => h.2 x (List.mem_append_left _ hx)⟩
        have hlength : 0 < d.length := List.length_pos_iff.mpr hd
        -- A zero in front of `d` would be one that can be left out, since `b` follows.
        have hhead : d.head? ≠ some (byte '0') := by
          intro hzero
          apply hspare
          rw [HasSpareZero, List.head?_append_of_ne_nil _ hd, List.length_append]
          exact ⟨hzero, by simpa using hlength⟩
        rw [← ofNat_append_singleton (decimal_pos hnumber hhead) hb,
          ih hnumber fun hzero => hhead hzero.1]

/-- Digits are what is written for their number exactly if no zero could be left out. -/
theorem ofNat_decimal_eq_iff {d : Text} (h : d.IsNumber) :
    ofNat (decimal d) = d ↔ ¬ d.HasSpareZero := by
  constructor
  · intro heq
    rw [← heq]
    exact not_hasSpareZero_ofNat _
  · exact ofNat_decimal h

theorem ofNat_min_decimal_eq_iff {d : Text} (h : d.IsNumber) (limit : Nat) :
    ofNat (min (decimal d) limit) = d ↔ ¬ d.HasSpareZero ∧ decimal d ≤ limit := by
  constructor
  · intro heq
    have hmin : min (decimal d) limit = decimal d := by
      have hdecimal := congrArg decimal heq
      rwa [decimal_ofNat] at hdecimal
    rw [hmin] at heq
    exact ⟨(ofNat_decimal_eq_iff h).mp heq, by omega⟩
  · rintro ⟨hspare, hle⟩
    rw [Nat.min_eq_left hle, ofNat_decimal h hspare]

theorem isDigit_iff {b : UInt8} : isDigit b = true ↔ byte '0' ≤ b ∧ b ≤ byte '9' := by
  simp [isDigit]

/-- Digits among other bytes. -/
theorem digitRun_append {before d after : Text} (hbefore : before.any isDigit = false)
    (hd : d.all isDigit = true) (hafter : after.any isDigit = false) :
    digitRun (before ++ d ++ after) = d := by
  rw [List.any_eq_false] at hbefore hafter
  rw [List.all_eq_true] at hd
  have hend : after.takeWhile isDigit = [] := by
    cases after with
    | nil => rfl
    | cons b after => simp [hafter b]
  rw [digitRun, List.append_assoc, List.dropWhile_append_of_pos (by simpa using hbefore)]
  cases d with
  | nil =>
      have hdrop : after.dropWhile (fun b => !isDigit b) = [] := by
        simpa [List.dropWhile_eq_nil_iff] using hafter
      rw [List.nil_append, hdrop, List.takeWhile_nil]
  | cons b d =>
      have hdrop : (b :: (d ++ after)).dropWhile (fun b => !isDigit b) = b :: (d ++ after) :=
        List.dropWhile_cons_of_neg (by simp [hd b])
      rw [List.cons_append, hdrop, ← List.cons_append, List.takeWhile_append_of_pos hd, hend,
        List.append_nil]

end LineMachine.Text
