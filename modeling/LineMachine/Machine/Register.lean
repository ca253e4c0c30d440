import LineMachine.Text.Decimal

/-!
# Registers

The machine has eight registers, `AX` to `HX`. A bank holds one integer for each of them. A bank
does not clamp: the machine does, when it writes the result of a line.
-/

namespace LineMachine

/-- The eight registers of the machine. -/
inductive Register where
  | ax | bx | cx | dx | ex | fx | gx | hx
  deriving DecidableEq, Repr

namespace Register

/-- The least value that a line leaves in a register. -/
def least : Int := 0

/-- The greatest value that a line leaves in a register. -/
def greatest : Int := 255

/-- The number of registers. -/
abbrev count : Nat := 8

/-- The registers in order. -/
def all : List Register := [.ax, .bx, .cx, .dx, .ex, .fx, .gx, .hx]

/-- The place of a register in the order. -/
def index : Register → Fin count
  | .ax => 0 | .bx => 1 | .cx => 2 | .dx => 3 | .ex => 4 | .fx => 5 | .gx => 6 | .hx => 7

/-- The register at a place in the order. -/
def ofIndex? (i : Int) : Option Register := if i < 0 then none else all[i.toNat]?

@[simp] theorem ofIndex?_index (r : Register) : ofIndex? r.index.val = some r := by
  cases r <;> rfl

theorem index_inj {q r : Register} : q.index = r.index ↔ q = r := by
  constructor
  · intro h
    have hq := ofIndex?_index q
    rw [h, ofIndex?_index] at hq
    exact (Option.some.inj hq).symm
  · rintro rfl
    rfl

/-- The letter that starts the name of a register. -/
def letter (r : Register) : UInt8 := Text.byte 'A' + r.index.val.toUInt8

/-- The name of a register: its letter and an `X`. -/
def name (r : Register) : Text := [r.letter, Text.byte 'X']

/-- The register with a given name. -/
def ofName? (t : Text) : Option Register := all.find? fun r => r.name == t

theorem ofName?_eq_some_iff {t : Text} {r : Register} : ofName? t = some r ↔ t = r.name := by
  constructor
  · intro h
    have hname := List.find?_some h
    exact (beq_iff_eq.mp hname).symm
  · rintro rfl
    cases r <;> decide

/-- What is printed for the register numbered `i`, whether there is one or not. -/
def nameOfIndex (i : Int) : Text :=
  match ofIndex? i with
  | some r => r.name
  | none => Text.ascii "Register(" ++ Text.ofInt i ++ Text.ascii ")"

@[simp] theorem nameOfIndex_index (r : Register) : nameOfIndex r.index.val = r.name := by
  simp [nameOfIndex]

end Register

/-- One integer for each register. -/
abbrev Bank := Vector Int Register.count

namespace Bank

/-- All registers are zero. -/
def zero : Bank := Vector.replicate Register.count 0

/-- The value of a register. -/
def read (b : Bank) (r : Register) : Int := b.get r.index

/-- The bank after `v` has been put into a register. -/
def write (b : Bank) (r : Register) (v : Int) : Bank := b.set r.index v r.index.isLt

theorem read_eq_getElem (b : Bank) (r : Register) : b.read r = b[r.index.val] := rfl

@[simp] theorem read_zero (r : Register) : zero.read r = 0 := by
  rw [read_eq_getElem, zero, Vector.getElem_replicate]

theorem read_write (b : Bank) (q r : Register) (v : Int) :
    (b.write r v).read q = if q = r then v else b.read q := by
  rw [read_eq_getElem, read_eq_getElem, write, Vector.getElem_set]
  simp only [Fin.val_inj, Register.index_inj, eq_comm]

theorem write_write (b : Bank) (r : Register) (u v : Int) :
    (b.write r u).write r v = b.write r v := by
  rw [write, write, Vector.set_set, write]

end Bank

end LineMachine
