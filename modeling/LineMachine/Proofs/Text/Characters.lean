import LineMachine.Text.Utf8
import Mathlib.Data.List.Basic
import Mathlib.Data.List.Infix
import Mathlib.Tactic.ByContra
import Mathlib.Tactic.SplitIfs

/-!
# Characters stand apart

No byte that continues an encoding starts one. So a text can be cut before any byte that is no
continuation byte, and the characters of the two parts are those of the whole (`pieces_append`).
Wherever the bytes of a character stand in a text, they are one of its characters: nothing before
them reaches into them.

`repair` keeps the characters of a text and puts the replacement character for each run of stray
bytes, which is `mend` on the pieces (`pieces_repair`). Two facts follow. The two sides of a character
are repaired on their own (`IsCharacter.repair_append`). And no character other than the replacement
appears that was not there before, be it in front, at the end or anywhere.
-/

namespace LineMachine.Text

theorem secondRange_subset (b : UInt8) :
    0x80 ≤ (secondRange b).1 ∧ (secondRange b).2 ≤ 0xBF := by
  rw [secondRange]
  split_ifs <;> decide

theorem isTail_of_isSecond {b c : UInt8} (h : isSecond b c = true) : isTail c = true := by
  simp only [isSecond, isTail, Bool.and_eq_true, decide_eq_true_eq] at h ⊢
  obtain ⟨hlow, hhigh⟩ := secondRange_subset b
  exact ⟨UInt8.le_trans hlow h.1, UInt8.le_trans h.2 hhigh⟩

theorem firstScalar_of_isTail {b : UInt8} (h : isTail b = true) (t : Text) :
    firstScalar b t = none := by
  simp only [isTail, Bool.and_eq_true, decide_eq_true_eq, UInt8.le_iff_toNat_le] at h
  have hlow : ¬ b < 0x80 := by
    rw [UInt8.lt_iff_toNat_lt]
    exact Nat.not_lt.mpr h.1
  have hhigh : b < 0xC2 := by
    rw [UInt8.lt_iff_toNat_lt]
    exact Nat.lt_of_le_of_lt h.2 (by decide)
  unfold firstScalar
  rw [if_neg hlow, if_pos hhigh]

/-- A character is read from its own bytes, whatever follows them. -/
theorem firstScalar_eq_some {b : UInt8} {t : Text} {code n : Nat}
    (h : firstScalar b t = some (code, n)) :
    n ≤ t.length ∧ ∀ u, firstScalar b (t.take n ++ u) = some (code, n) := by
  unfold firstScalar at h ⊢
  split_ifs at h with h1 h2 h3 h4 h5
  · rw [Option.some.injEq, Prod.mk.injEq] at h
    obtain ⟨rfl, rfl⟩ := h
    simp [h1]
  · rcases t with _ | ⟨c, t⟩
    · simp at h
    · simp only [Option.ite_none_right_eq_some, Option.some.injEq, Prod.mk.injEq] at h
      obtain ⟨hc, hcode, rfl⟩ := h
      simp [h1, h2, h3, hc, hcode]
  · rcases t with _ | ⟨c, _ | ⟨d, t⟩⟩
    · simp at h
    · simp at h
    · simp only [Option.ite_none_right_eq_some, Option.some.injEq, Prod.mk.injEq] at h
      obtain ⟨hcd, hcode, rfl⟩ := h
      simp [h1, h2, h3, h4, hcd, hcode]
  · rcases t with _ | ⟨c, _ | ⟨d, _ | ⟨e, t⟩⟩⟩
    · simp at h
    · simp at h
    · simp at h
    · simp only [Option.ite_none_right_eq_some, Option.some.injEq, Prod.mk.injEq] at h
      obtain ⟨hcde, hcode, rfl⟩ := h
      simp [h1, h2, h3, h4, h5, hcde, hcode]

/-- A character does not reach beyond a byte that is no continuation byte. -/
theorem firstScalar_append {b : UInt8} {t u : Text} (hu : ∀ c ∈ u.head?, isTail c = false) :
    firstScalar b (t ++ u) = firstScalar b t := by
  have hsecond : ∀ c ∈ u.head?, isSecond b c = false := by
    intro c hc
    by_contra h
    have htail := isTail_of_isSecond (Bool.not_eq_false _ ▸ h)
    rw [hu c hc] at htail
    cases htail
  rcases t with _ | ⟨c, _ | ⟨d, _ | ⟨e, t⟩⟩⟩
  · rcases u with _ | ⟨x, _ | ⟨y, _ | ⟨z, u⟩⟩⟩ <;> simp_all [firstScalar]
  · rcases u with _ | ⟨x, _ | ⟨y, u⟩⟩ <;> simp_all [firstScalar]
  · rcases u with _ | ⟨x, u⟩ <;> simp_all [firstScalar]
  · simp [firstScalar]

/-- `w` is the encoding of the character `code`. -/
def IsCharacter (code : Nat) (w : Text) : Prop :=
  ∃ b t, w = b :: t ∧ firstScalar b t = some (code, t.length)

theorem isCharacter_of_firstScalar {b : UInt8} {t : Text} {code n : Nat}
    (h : firstScalar b t = some (code, n)) : IsCharacter code (b :: t.take n) := by
  obtain ⟨hn, hfirst⟩ := firstScalar_eq_some h
  refine ⟨b, t.take n, rfl, ?_⟩
  rw [List.length_take_of_le hn, ← hfirst [], List.append_nil]

@[simp] theorem pieces_nil : pieces [] = [] := rfl

theorem pieces_cons_of_eq_none {b : UInt8} {t : Text} (h : firstScalar b t = none) :
    pieces (b :: t) = .stray b :: pieces t := by
  rw [pieces, scan_cons, firstPiece, h]
  rfl

theorem pieces_cons_of_eq_some {b : UInt8} {t : Text} {code n : Nat}
    (h : firstScalar b t = some (code, n)) :
    pieces (b :: t) = .scalar code (b :: t.take n) :: pieces (t.drop n) := by
  rw [pieces, scan_cons, firstPiece, h]
  rfl

theorem IsCharacter.pieces_append_left {code : Nat} {w : Text} (h : IsCharacter code w) (u : Text) :
    pieces (w ++ u) = .scalar code w :: pieces u := by
  obtain ⟨b, t, rfl, hfirst⟩ := h
  have happend := (firstScalar_eq_some hfirst).2 u
  rw [List.take_length] at happend
  rw [List.cons_append, pieces_cons_of_eq_some happend, List.take_left, List.drop_left]

theorem IsCharacter.pieces_eq {code : Nat} {w : Text} (h : IsCharacter code w) :
    pieces w = [.scalar code w] := by
  rw [← pieces_nil, ← h.pieces_append_left, List.append_nil]

/-- A text is empty, or it starts with a character or with a stray byte. -/
@[elab_as_elim]
theorem inductionOnPieces {motive : Text → Prop} (nil : motive [])
    (character : ∀ code w t, IsCharacter code w → motive t → motive (w ++ t))
    (stray : ∀ b t, firstScalar b t = none → motive t → motive (b :: t)) (t : Text) : motive t := by
  induction hlength : t.length using Nat.strongRecOn generalizing t with
  | ind n ih =>
      cases t with
      | nil => exact nil
      | cons b t =>
          rw [List.length_cons] at hlength
          cases h : firstScalar b t with
          | none => exact stray b t h (ih t.length (by omega) t rfl)
          | some found =>
              have hrest := ih (t.drop found.2).length (by rw [List.length_drop]; omega) _ rfl
              have hmotive := character _ _ _ (isCharacter_of_firstScalar h) hrest
              rwa [List.cons_append, List.take_append_drop] at hmotive

/-! ### Cutting a text -/

theorem IsCharacter.isTail_head? {code : Nat} {w : Text} (h : IsCharacter code w) (u : Text) :
    ∀ c ∈ (w ++ u).head?, isTail c = false := by
  obtain ⟨b, t, rfl, hfirst⟩ := h
  rintro c hc
  obtain rfl : b = c := by simpa using hc
  by_contra htail
  rw [firstScalar_of_isTail (Bool.not_eq_false _ ▸ htail)] at hfirst
  cases hfirst

/-- The pieces of a text that is cut before a byte that is no continuation byte. -/
theorem pieces_append (t : Text) {u : Text} (hu : ∀ c ∈ u.head?, isTail c = false) :
    pieces (t ++ u) = pieces t ++ pieces u := by
  induction t using inductionOnPieces with
  | nil => rfl
  | character code w t hw ih =>
      rw [List.append_assoc, hw.pieces_append_left, hw.pieces_append_left, ih, List.cons_append]
  | stray b t hb ih =>
      rw [List.cons_append, pieces_cons_of_eq_none ((firstScalar_append hu).trans hb),
        pieces_cons_of_eq_none hb, ih, List.cons_append]

@[simp] theorem flatMap_bytes_pieces (t : Text) : (pieces t).flatMap Piece.bytes = t := by
  induction t using inductionOnPieces with
  | nil => rfl
  | character code w t hw ih => rw [hw.pieces_append_left, List.flatMap_cons, ih, Piece.bytes]
  | stray b t hb ih =>
      rw [pieces_cons_of_eq_none hb, List.flatMap_cons, ih, Piece.bytes, List.singleton_append]

theorem isCharacter_of_mem_pieces {t : Text} {code : Nat} {w : Text}
    (h : .scalar code w ∈ pieces t) : IsCharacter code w := by
  induction t using inductionOnPieces with
  | nil => simp at h
  | character code' w' t hw ih =>
      rw [hw.pieces_append_left, List.mem_cons] at h
      rcases h with heq | hmem
      · cases heq
        exact hw
      · exact ih hmem
  | stray b t hb ih =>
      rw [pieces_cons_of_eq_none hb, List.mem_cons] at h
      exact ih (h.resolve_left Piece.noConfusion)

/-- Characters written one after the other are read back. -/
theorem pieces_flatMap_bytes {ps : List Piece}
    (h : ∀ p ∈ ps, ∃ code w, p = .scalar code w ∧ IsCharacter code w) :
    pieces (ps.flatMap Piece.bytes) = ps := by
  induction ps with
  | nil => rfl
  | cons p ps ih =>
      obtain ⟨code, w, rfl, hw⟩ := h p List.mem_cons_self
      rw [List.flatMap_cons, Piece.bytes, hw.pieces_append_left,
        ih fun q hq => h q (List.mem_cons_of_mem _ hq)]

section Reflection

variable {code : Nat} {w : Text} (hw : IsCharacter code w) (t : Text)

include hw

theorem IsCharacter.prefix_iff : w <+: t ↔ (pieces t).head? = some (.scalar code w) := by
  constructor
  · rintro ⟨u, rfl⟩
    rw [hw.pieces_append_left, List.head?_cons]
  · intro hhead
    obtain ⟨ps, hps⟩ := List.head?_eq_some_iff.mp hhead
    rw [← flatMap_bytes_pieces t, hps, List.flatMap_cons]
    exact List.prefix_append w _

theorem IsCharacter.suffix_iff : w <:+ t ↔ (pieces t).getLast? = some (.scalar code w) := by
  constructor
  · rintro ⟨u, rfl⟩
    have hcut := hw.isTail_head? []
    rw [List.append_nil] at hcut
    rw [pieces_append u hcut, hw.pieces_eq, List.getLast?_concat]
  · intro hlast
    obtain ⟨ps, hps⟩ := List.getLast?_eq_some_iff.mp hlast
    rw [← flatMap_bytes_pieces t, hps, List.flatMap_append, List.flatMap_singleton]
    exact List.suffix_append _ w

theorem IsCharacter.infix_iff : w <:+: t ↔ .scalar code w ∈ pieces t := by
  constructor
  · rintro ⟨u, v, rfl⟩
    rw [List.append_assoc, pieces_append u (hw.isTail_head? v), hw.pieces_append_left]
    exact List.mem_append_right _ List.mem_cons_self
  · intro hmem
    obtain ⟨ps, qs, hpq⟩ := List.append_of_mem hmem
    rw [← flatMap_bytes_pieces t, hpq, List.flatMap_append, List.flatMap_cons, ← List.append_assoc]
    exact List.infix_append _ w _

end Reflection

theorem pieces_ne_nil {t : Text} (h : t ≠ []) : pieces t ≠ [] := by
  intro hnil
  rw [← flatMap_bytes_pieces t, hnil] at h
  exact h rfl

/-- A character in front of a text that is cut somewhere lies before the cut. -/
theorem IsCharacter.prefix_of_prefix_append {code : Nat} {w t u : Text} (hw : IsCharacter code w)
    (hne : t ≠ []) (hu : ∀ c ∈ u.head?, isTail c = false) (h : w <+: t ++ u) : w <+: t := by
  rw [hw.prefix_iff, pieces_append t hu, List.head?_append_of_ne_nil _ (pieces_ne_nil hne)] at h
  exact (hw.prefix_iff t).mpr h

/-- A character at the end of a text lies behind every other character that is not the last. -/
theorem IsCharacter.suffix_of_suffix_append {code code' : Nat} {w c t : Text}
    (hw : IsCharacter code w) (hc : IsCharacter code' c) (hne : t ≠ []) {s : Text}
    (h : w <:+ s ++ c ++ t) : w <:+ t := by
  have hpieces := pieces_ne_nil hne
  rw [hw.suffix_iff, List.append_assoc, pieces_append s (hc.isTail_head? t), hc.pieces_append_left,
    List.getLast?_append_of_ne_nil _ (List.cons_ne_nil _ _),
    List.getLast?_cons_of_ne_nil hpieces] at h
  exact (hw.suffix_iff t).mpr h

theorem exists_isCharacter {w : Text} (hone : (pieces w).length = 1) (h : isUtf8 w = true) :
    ∃ code, IsCharacter code w := by
  obtain ⟨p, hp⟩ := List.length_eq_one_iff.mp hone
  rw [isUtf8, hp, List.all_cons, List.all_nil, Bool.and_true] at h
  cases p with
  | scalar code w' =>
      have hmem : .scalar code w' ∈ pieces w := by rw [hp]; exact List.mem_singleton_self _
      have hw' : w' = w := by rw [← flatMap_bytes_pieces w, hp]; simp [Piece.bytes]
      exact ⟨code, hw' ▸ isCharacter_of_mem_pieces hmem⟩
  | stray b => cases h

/-- Of two characters, neither starts with the other. -/
theorem IsCharacter.eq_of_prefix {code code' : Nat} {w w' : Text} (hw : IsCharacter code w)
    (hw' : IsCharacter code' w') (h : w <+: w') : w = w' := by
  have hhead := (hw.prefix_iff w').mp h
  rw [hw'.pieces_eq, List.head?_cons, Option.some.injEq, Piece.scalar.injEq] at hhead
  exact hhead.2.symm

theorem IsCharacter.eq_of_suffix {code code' : Nat} {w w' : Text} (hw : IsCharacter code w)
    (hw' : IsCharacter code' w') (h : w <:+ w') : w = w' := by
  have hlast := (hw.suffix_iff w').mp h
  rw [hw'.pieces_eq, List.getLast?_singleton, Option.some.injEq, Piece.scalar.injEq] at hlast
  exact hlast.2.symm

/-! ### Repair -/

/-- The pieces start with a stray byte. -/
def startsStray (ps : List Piece) : Bool := ps.head?.any fun p => !p.isScalar

/-- The replacement character as a piece. -/
def replacementPiece : Piece := .scalar 0xFFFD replacement

/-- The pieces with the replacement character for each maximal run of stray bytes. -/
def mend : List Piece → List Piece
  | [] => []
  | .scalar code w :: ps => .scalar code w :: mend ps
  | .stray _ :: ps => if startsStray ps then mend ps else replacementPiece :: mend ps

theorem repairPieces_eq (ps : List Piece) : repairPieces ps = (mend ps).flatMap Piece.bytes := by
  -- The flag of the fold says whether the pieces behind start with a stray byte.
  refine congrArg Prod.snd (?_ : _ = (startsStray ps, (mend ps).flatMap Piece.bytes))
  induction ps with
  | nil => rfl
  | cons p ps ih =>
      rw [List.foldr_cons, ih]
      cases p with
      | scalar code w => rfl
      | stray b =>
          rw [mend]
          cases startsStray ps <;> rfl

@[simp] theorem repair_nil : repair [] = [] := rfl

theorem mem_or_eq_of_mem_mend {p : Piece} {ps : List Piece} (h : p ∈ mend ps) :
    p = replacementPiece ∨ p.isScalar = true ∧ p ∈ ps := by
  induction ps with
  | nil => cases h
  | cons q ps ih =>
      have hrest : p ∈ mend ps → p = replacementPiece ∨ p.isScalar = true ∧ p ∈ q :: ps :=
        fun hp => (ih hp).imp_right fun hq => ⟨hq.1, List.mem_cons_of_mem q hq.2⟩
      cases q with
      | scalar code w =>
          rcases List.mem_cons.mp h with rfl | hp
          · exact .inr ⟨rfl, List.mem_cons_self⟩
          · exact hrest hp
      | stray b =>
          rw [mend] at h
          split at h
          · exact hrest h
          · rcases List.mem_cons.mp h with rfl | hp
            · exact .inl rfl
            · exact hrest hp

theorem isCharacter_replacement : IsCharacter 0xFFFD replacement :=
  ⟨0xEF, [0xBF, 0xBD], rfl, by decide⟩

@[simp] theorem pieces_repair (t : Text) : pieces (repair t) = mend (pieces t) := by
  rw [repair, repairPieces_eq]
  apply pieces_flatMap_bytes
  intro p hp
  rcases mem_or_eq_of_mem_mend hp with rfl | ⟨hscalar, hmem⟩
  · exact ⟨_, _, rfl, isCharacter_replacement⟩
  · cases p with
    | scalar code w => exact ⟨code, w, rfl, isCharacter_of_mem_pieces hmem⟩
    | stray b => cases hscalar

/-- A character is no stray byte, so a run of stray bytes ends where one starts. -/
theorem mend_append_scalar (ps : List Piece) (code : Nat) (w : Text) (qs : List Piece) :
    mend (ps ++ .scalar code w :: qs) = mend ps ++ .scalar code w :: mend qs := by
  induction ps with
  | nil => rfl
  | cons p ps ih =>
      cases p with
      | scalar code' w' => rw [List.cons_append, mend, ih, mend, List.cons_append]
      | stray b =>
          have hstarts : startsStray (ps ++ .scalar code w :: qs) = startsStray ps := by
            cases ps <;> rfl
          rw [List.cons_append, mend, mend, hstarts, ih]
          split <;> rfl

theorem getLast?_mend_concat_stray (ps : List Piece) (b : UInt8) :
    (mend (ps ++ [.stray b])).getLast? = some replacementPiece := by
  induction ps with
  | nil => rfl
  | cons p ps ih =>
      have hcons : ∀ q, (q :: mend (ps ++ [.stray b])).getLast? = some replacementPiece := by
        intro q
        rw [List.getLast?_cons, ih, Option.getD_some]
      cases p with
      | scalar code w => exact hcons _
      | stray b' =>
          rw [List.cons_append, mend]
          split
          · exact ih
          · exact hcons _

/-- The two sides of a character are repaired on their own. -/
theorem IsCharacter.repair_append {code : Nat} {w : Text} (hw : IsCharacter code w) (t u : Text) :
    repair (t ++ w ++ u) = repair t ++ w ++ repair u := by
  have hpieces : pieces (t ++ w ++ u) = pieces t ++ .scalar code w :: pieces u := by
    rw [List.append_assoc, pieces_append t (hw.isTail_head? u), hw.pieces_append_left]
  rw [repair, repairPieces_eq, hpieces, mend_append_scalar, List.flatMap_append, List.flatMap_cons,
    Piece.bytes, ← repairPieces_eq, ← repairPieces_eq, ← List.append_assoc, ← repair, ← repair]

theorem IsCharacter.repair_append_left {code : Nat} {w : Text} (hw : IsCharacter code w)
    (t : Text) : repair (w ++ t) = w ++ repair t :=
  hw.repair_append [] t

theorem IsCharacter.repair_append_right {code : Nat} {w : Text} (hw : IsCharacter code w)
    (t : Text) : repair (t ++ w) = repair t ++ w := by
  have happend := hw.repair_append t []
  rwa [List.append_nil, repair_nil, List.append_nil] at happend

section NewCharacters

variable {code : Nat} {w : Text} (hne : w ≠ replacement)

include hne

theorem scalar_ne_replacementPiece : Piece.scalar code w ≠ replacementPiece := by
  rw [replacementPiece, Ne, Piece.scalar.injEq]
  exact fun h => hne h.2

theorem mem_of_mem_mend {ps : List Piece} (h : .scalar code w ∈ mend ps) :
    .scalar code w ∈ ps :=
  ((mem_or_eq_of_mem_mend h).resolve_left (scalar_ne_replacementPiece hne)).2

theorem head?_of_head?_mend {ps : List Piece} (h : (mend ps).head? = some (.scalar code w)) :
    ps.head? = some (.scalar code w) := by
  induction ps with
  | nil => cases h
  | cons p ps ih =>
      cases p with
      | scalar code' w' => exact h
      | stray b =>
          rw [mend] at h
          split at h
          case isTrue hstray => simp [startsStray, ih h, Piece.isScalar] at hstray
          case isFalse => exact absurd (Option.some.inj h).symm (scalar_ne_replacementPiece hne)

theorem getLast?_of_getLast?_mend {ps : List Piece}
    (h : (mend ps).getLast? = some (.scalar code w)) : ps.getLast? = some (.scalar code w) := by
  induction ps using List.reverseRecOn with
  | nil => cases h
  | append_singleton ps p ih =>
      cases p with
      | scalar code' w' =>
          rw [mend_append_scalar, mend, List.getLast?_concat] at h
          rw [List.getLast?_concat, h]
      | stray b =>
          rw [getLast?_mend_concat_stray] at h
          exact absurd (Option.some.inj h).symm (scalar_ne_replacementPiece hne)

end NewCharacters

/-! No character appears at the front, at the end or inside that was not there before. -/

section NoNewCharacters

variable {code : Nat} {w : Text} (hw : IsCharacter code w) (hne : w ≠ replacement) {t : Text}

include hw hne

theorem IsCharacter.prefix_of_prefix_repair (h : w <+: repair t) : w <+: t := by
  rw [hw.prefix_iff, pieces_repair] at h
  exact (hw.prefix_iff t).mpr (head?_of_head?_mend hne h)

theorem IsCharacter.suffix_of_suffix_repair (h : w <:+ repair t) : w <:+ t := by
  rw [hw.suffix_iff, pieces_repair] at h
  exact (hw.suffix_iff t).mpr (getLast?_of_getLast?_mend hne h)

theorem IsCharacter.infix_of_infix_repair (h : w <:+: repair t) : w <:+: t := by
  rw [hw.infix_iff, pieces_repair] at h
  exact (hw.infix_iff t).mpr (mem_of_mem_mend hne h)

end NoNewCharacters

/-! ### Texts that need no repair -/

theorem mend_eq_nil_iff {ps : List Piece} : mend ps = [] ↔ ps = [] := by
  constructor
  · intro h
    induction ps with
    | nil => rfl
    | cons p ps ih =>
        cases p with
        | scalar code w => cases h
        | stray b =>
            rw [mend] at h
            split at h
            case isTrue hstray =>
              rw [ih h] at hstray
              cases hstray
            case isFalse => cases h
  · rintro rfl
    rfl

theorem repair_eq_nil_iff {t : Text} : repair t = [] ↔ t = [] := by
  constructor
  · intro h
    have hmend : mend (pieces t) = [] := by rw [← pieces_repair, h, pieces_nil]
    rw [← flatMap_bytes_pieces t, mend_eq_nil_iff.mp hmend, List.flatMap_nil]
  · rintro rfl
    rfl

theorem mend_eq_self {ps : List Piece} (h : ps.all Piece.isScalar = true) : mend ps = ps := by
  induction ps with
  | nil => rfl
  | cons p ps ih =>
      rw [List.all_cons, Bool.and_eq_true] at h
      cases p with
      | scalar code w => rw [mend, ih h.2]
      | stray b => cases h.1

theorem repair_eq_self_of_isUtf8 {t : Text} (h : isUtf8 t = true) : repair t = t := by
  rw [repair, repairPieces_eq, mend_eq_self h, flatMap_bytes_pieces]

/-- The last stray byte of a run leaves a replacement character behind. -/
theorem all_isScalar_of_not_mem_mend {ps : List Piece} (h : replacementPiece ∉ mend ps) :
    ps.all Piece.isScalar = true := by
  induction ps with
  | nil => rfl
  | cons p ps ih =>
      cases p with
      | scalar code w =>
          rw [List.all_cons, Piece.isScalar, Bool.true_and]
          exact ih fun hmem => h (List.mem_cons_of_mem _ hmem)
      | stray b =>
          rw [mend] at h
          split at h
          case isTrue hstray =>
            have hall := ih h
            cases ps with
            | nil => cases hstray
            | cons q qs =>
                rw [List.all_cons, Bool.and_eq_true] at hall
                simp [startsStray, hall.1] at hstray
          case isFalse => exact absurd List.mem_cons_self h

/-- A text whose repair shows no replacement character was whole. -/
theorem repair_eq_self_of_not_infix {t : Text} (h : ¬ replacement <:+: repair t) :
    repair t = t := by
  rw [isCharacter_replacement.infix_iff, pieces_repair] at h
  exact repair_eq_self_of_isUtf8 (all_isScalar_of_not_mem_mend h)

/-- The byte is a character of its own. -/
def isAscii (b : UInt8) : Bool := b < 0x80

theorem isUtf8_of_all_isAscii {t : Text} (h : t.all isAscii = true) : isUtf8 t = true := by
  induction t with
  | nil => rfl
  | cons b t ih =>
      rw [List.all_cons, Bool.and_eq_true] at h
      have hfirst : firstScalar b t = some (b.toNat, 0) := by
        unfold firstScalar
        rw [if_pos (of_decide_eq_true h.1)]
      rw [isUtf8, pieces_cons_of_eq_some hfirst, List.all_cons, List.drop_zero]
      exact ih h.2

theorem repair_eq_self_of_all_isAscii {t : Text} (h : t.all isAscii = true) : repair t = t :=
  repair_eq_self_of_isUtf8 (isUtf8_of_all_isAscii h)

/-- Repair leaves no text of ASCII bytes behind that was not there before. -/
theorem repair_eq_self_of_all_isAscii_repair {t : Text} (h : (repair t).all isAscii = true) :
    repair t = t := by
  apply repair_eq_self_of_not_infix
  intro hpart
  have hmem : 0xEF ∈ repair t := hpart.subset List.mem_cons_self
  exact absurd (List.all_eq_true.mp h 0xEF hmem) (by decide)

end LineMachine.Text
