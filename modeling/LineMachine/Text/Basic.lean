/-!
# Texts

A text is a sequence of bytes. Program texts, file names and messages all are texts, and nothing
forces them to be well-formed UTF-8: a program with a stray byte in a line is still a program, it
only has one line more that cannot be decoded.

`scan` is the one loop over texts in which a step may look ahead. Its step reads the first byte
together with the rest and says how many bytes of the rest belong to the piece it has found. The
number still to be skipped is carried along, so the recursion is on the text itself and no
position arithmetic is needed.
-/

namespace LineMachine

/-- A text is a sequence of bytes. -/
abbrev Text := List UInt8

namespace Text

/-- The bytes of a literal, which is written in ASCII. -/
def ascii (s : String) : Text := s.toList.map fun c => c.toNat.toUInt8

/-- The byte of an ASCII character. -/
abbrev byte (c : Char) : UInt8 := c.toNat.toUInt8

/-- A digit is one of the ten ASCII digits. -/
def isDigit (b : UInt8) : Bool := byte '0' ≤ b && b ≤ byte '9'

/-- The parts of a text between the occurrences of `sep`. There is always one part more than
there are occurrences. -/
def splitOn (sep : UInt8) (t : Text) : List Text :=
  t.foldr (fun b parts =>
    if b = sep then [] :: parts
    else match parts with
      | [] => [[b]]
      | p :: ps => (b :: p) :: ps) [[]]

@[simp] theorem splitOn_nil (sep : UInt8) : splitOn sep [] = [[]] := rfl

theorem splitOn_cons (sep b : UInt8) (t : Text) :
    splitOn sep (b :: t) =
      if b = sep then [] :: splitOn sep t
      else match splitOn sep t with
        | [] => [[b]]
        | p :: ps => (b :: p) :: ps := rfl

/-- It is the splitting of lists, which the library has lemmas for. -/
theorem splitOn_eq (sep : UInt8) (t : Text) : splitOn sep t = List.splitOn sep t := by
  induction t with
  | nil => rfl
  | cons b t ih =>
      rw [splitOn_cons, List.splitOn_cons_eq_if_modifyHead, ih]
      by_cases hb : b = sep
      · simp [hb]
      · rw [if_neg hb, if_neg (by simpa using hb)]
        cases h : List.splitOn sep t with
        | nil => exact absurd h (List.splitOn_ne_nil sep t)
        | cons p ps => rfl

theorem splitOn_of_not_mem {sep : UInt8} {t : Text} (h : sep ∉ t) : splitOn sep t = [t] := by
  rw [splitOn_eq, List.splitOn_eq_singleton h]

theorem splitOn_append_cons {sep : UInt8} {t : Text} (h : sep ∉ t) (u : Text) :
    splitOn sep (t ++ sep :: u) = t :: splitOn sep u := by
  rw [splitOn_eq, List.splitOn_append_cons_self_of_not_mem h, splitOn_eq]

theorem splitOn_ne_nil (sep : UInt8) (t : Text) : splitOn sep t ≠ [] := by
  rw [splitOn_eq]
  exact List.splitOn_ne_nil sep t

theorem not_mem_of_mem_splitOn {sep : UInt8} {t part : Text} (h : part ∈ splitOn sep t) :
    sep ∉ part := by
  induction t generalizing part with
  | nil =>
      rw [splitOn_nil, List.mem_singleton] at h
      rw [h]
      exact List.not_mem_nil
  | cons b t ih =>
      obtain ⟨p, ps, hparts⟩ := List.exists_cons_of_ne_nil (splitOn_ne_nil sep t)
      rw [splitOn_cons] at h
      rw [hparts] at h ih
      split at h
      · rcases List.mem_cons.mp h with rfl | h
        · exact List.not_mem_nil
        · exact ih h
      · next hb =>
        rcases List.mem_cons.mp h with rfl | h
        · rw [List.mem_cons, not_or]
          exact ⟨Ne.symm hb, ih List.mem_cons_self⟩
        · exact ih (List.mem_cons_of_mem p h)

/-- The texts `parts` with `sep` between neighbours. -/
def join (sep : Text) (parts : List Text) : Text := (parts.intersperse sep).flatten

@[simp] theorem join_nil (sep : Text) : join sep [] = [] := rfl

@[simp] theorem join_singleton (sep l : Text) : join sep [l] = l := by simp [join]

theorem join_cons (sep l : Text) {ls : List Text} (h : ls ≠ []) :
    join sep (l :: ls) = l ++ sep ++ join sep ls := by
  obtain ⟨k, ks, rfl⟩ := List.exists_cons_of_ne_nil h
  simp [join]

theorem splitOn_join {sep : UInt8} {parts : List Text} (h : ∀ p ∈ parts, sep ∉ p)
    (hne : parts ≠ []) : splitOn sep (join [sep] parts) = parts := by
  rw [splitOn_eq]
  exact List.splitOn_intercalate sep h hne

/-- Read pieces off a text from the left. The step gets the first byte and the rest, and answers
with a piece and with the number of further bytes that the piece takes up. -/
def scan {α : Type} (step : UInt8 → Text → α × Nat) (t : Text) : List α :=
  go [] 0 t
where
  /-- `go acc k t` skips `k` bytes of `t` and then reads on, with the pieces found so far in
  `acc`, the last one first. -/
  go (acc : List α) : Nat → Text → List α
    | _, [] => acc.reverse
    | k + 1, _ :: t => go acc k t
    | 0, b :: t => go ((step b t).1 :: acc) (step b t).2 t

/-- The pieces that have been found stand before those that are still to come. -/
theorem scan_go_eq_append {α : Type} (step : UInt8 → Text → α × Nat) (acc : List α) (k : Nat)
    (t : Text) : scan.go step acc k t = acc.reverse ++ scan.go step [] k t := by
  induction t generalizing acc k with
  | nil => simp [scan.go]
  | cons b t ih =>
      cases k with
      | zero =>
          rw [scan.go, scan.go, ih, ih [(step b t).1]]
          simp
      | succ k => rw [scan.go, scan.go, ih]

theorem scan_go_zero_cons {α : Type} (step : UInt8 → Text → α × Nat) (b : UInt8) (t : Text) :
    scan.go step [] 0 (b :: t) = (step b t).1 :: scan.go step [] (step b t).2 t := by
  rw [scan.go, scan_go_eq_append]
  rfl

theorem scan_go_drop {α : Type} (step : UInt8 → Text → α × Nat) (k : Nat) (t : Text) :
    scan.go step [] k t = scan step (t.drop k) := by
  induction t generalizing k with
  | nil => simp [scan, scan.go]
  | cons b t ih =>
      cases k with
      | zero => rfl
      | succ k => rw [scan.go, ih, List.drop_succ_cons]

@[simp] theorem scan_nil {α : Type} (step : UInt8 → Text → α × Nat) : scan step [] = [] := rfl

theorem scan_cons {α : Type} (step : UInt8 → Text → α × Nat) (b : UInt8) (t : Text) :
    scan step (b :: t) = (step b t).1 :: scan step (t.drop (step b t).2) := by
  rw [scan, scan_go_zero_cons, scan_go_drop]

end Text

end LineMachine
