import LineMachine.Proofs.Text.Characters
import Mathlib.Data.List.Chain

/-!
# Encoded characters

The characters that are read from a text are those of Unicode, each in the one encoding that it has
(`isCharacter_iff`). So a text is well-formed if and only if it is made of encoded characters.

Any text is made of characters and of runs of bytes that no character takes up. `Segmented` says this
without the scan that finds them, and a text is `Mended` by one replacement character for each run.
This is what `repair` does and nothing else (`mended_iff`).
-/

namespace LineMachine.Text

/-! ### The forms of an encoding -/

theorem isTail_iff {b : UInt8} : isTail b = true ↔ 0x80 ≤ b.toNat ∧ b.toNat ≤ 0xBF := by
  simp [isTail, UInt8.le_iff_toNat_le]

/-- What the second byte may be after a lead byte. -/
theorem isSecond_iff {b c : UInt8} : isSecond b c = true ↔
    0x80 ≤ c.toNat ∧ c.toNat ≤ 0xBF ∧
      (b.toNat = 0xE0 → 0xA0 ≤ c.toNat) ∧ (b.toNat = 0xED → c.toNat ≤ 0x9F) ∧
      (b.toNat = 0xF0 → 0x90 ≤ c.toNat) ∧ (b.toNat = 0xF4 → c.toNat ≤ 0x8F) := by
  simp only [isSecond, secondRange, ← UInt8.toNat_inj]
  split_ifs <;> simp_all [UInt8.le_iff_toNat_le] <;> omega

/-- The bytes of an encoding, by their number, and the code point that they carry. -/
inductive Encodes : Nat → Text → Prop where
  | one {b : UInt8} : b.toNat < 0x80 → Encodes b.toNat [b]
  | two {b c : UInt8} : 0xC2 ≤ b.toNat → b.toNat < 0xE0 → isSecond b c = true →
      Encodes ((b.toNat - 0xC0) * 64 + (c.toNat - 0x80)) [b, c]
  | three {b c d : UInt8} : 0xE0 ≤ b.toNat → b.toNat < 0xF0 → isSecond b c = true →
      isTail d = true →
      Encodes (((b.toNat - 0xE0) * 64 + (c.toNat - 0x80)) * 64 + (d.toNat - 0x80)) [b, c, d]
  | four {b c d e : UInt8} : 0xF0 ≤ b.toNat → b.toNat < 0xF5 → isSecond b c = true →
      isTail d = true → isTail e = true →
      Encodes
        ((((b.toNat - 0xF0) * 64 + (c.toNat - 0x80)) * 64 + (d.toNat - 0x80)) * 64 +
          (e.toNat - 0x80))
        [b, c, d, e]

theorem IsCharacter.encodes {code : Nat} {w : Text} (h : IsCharacter code w) : Encodes code w := by
  obtain ⟨b, t, rfl, h⟩ := h
  unfold firstScalar at h
  simp only [UInt8.lt_iff_toNat_lt, UInt8.reduceToNat] at h
  split_ifs at h with h1 h2 h3 h4 h5
  · obtain ⟨rfl, ht⟩ := Prod.mk.inj (Option.some.inj h)
    rw [List.length_eq_zero_iff.mp ht.symm]
    exact .one h1
  · rcases t with _ | ⟨c, t⟩
    · cases h
    · simp only [Option.ite_none_right_eq_some, Option.some.injEq, Prod.mk.injEq] at h
      obtain ⟨hc, rfl, ht⟩ := h
      obtain rfl : t = [] := List.length_eq_zero_iff.mp (by simpa using ht.symm)
      exact .two (Nat.not_lt.mp h2) h3 hc
  · rcases t with _ | ⟨c, _ | ⟨d, t⟩⟩
    · cases h
    · cases h
    · simp only [Option.ite_none_right_eq_some, Option.some.injEq, Prod.mk.injEq,
        Bool.and_eq_true] at h
      obtain ⟨⟨hc, hd⟩, rfl, ht⟩ := h
      obtain rfl : t = [] := List.length_eq_zero_iff.mp (by simpa using ht.symm)
      exact .three (Nat.not_lt.mp h3) h4 hc hd
  · rcases t with _ | ⟨c, _ | ⟨d, _ | ⟨e, t⟩⟩⟩
    · cases h
    · cases h
    · cases h
    · simp only [Option.ite_none_right_eq_some, Option.some.injEq, Prod.mk.injEq,
        Bool.and_eq_true] at h
      obtain ⟨⟨⟨hc, hd⟩, he⟩, rfl, ht⟩ := h
      obtain rfl : t = [] := List.length_eq_zero_iff.mp (by simpa using ht.symm)
      exact .four (Nat.not_lt.mp h4) h5 hc hd he

theorem Encodes.isCharacter {code : Nat} {w : Text} (h : Encodes code w) : IsCharacter code w := by
  cases h with
  | one hb => exact ⟨_, _, rfl, by simp [firstScalar, UInt8.lt_iff_toNat_lt, hb]⟩
  | two hlow hhigh hc =>
      refine ⟨_, _, rfl, ?_⟩
      unfold firstScalar
      simp only [UInt8.lt_iff_toNat_lt, UInt8.reduceToNat]
      rw [if_neg (by omega), if_neg (by omega), if_pos hhigh, if_pos hc]
      rfl
  | three hlow hhigh hc hd =>
      refine ⟨_, _, rfl, ?_⟩
      unfold firstScalar
      simp only [UInt8.lt_iff_toNat_lt, UInt8.reduceToNat]
      rw [if_neg (by omega), if_neg (by omega), if_neg (by omega), if_pos hhigh,
        if_pos (by rw [hc, hd]; rfl)]
      rfl
  | four hlow hhigh hc hd he =>
      refine ⟨_, _, rfl, ?_⟩
      unfold firstScalar
      simp only [UInt8.lt_iff_toNat_lt, UInt8.reduceToNat]
      rw [if_neg (by omega), if_neg (by omega), if_neg (by omega), if_neg (by omega),
        if_pos hhigh, if_pos (by rw [hc, hd, he]; rfl)]
      rfl

/-! ### The characters of Unicode -/

/-- The encoding of a character. -/
def encoding (c : Char) : Text := String.utf8EncodeChar c

theorem toNat_eq_or (c : Char) : c.toNat < 0xD800 ∨ 0xDFFF < c.toNat ∧ c.toNat < 0x110000 := c.valid

theorem toNat_ofNat_of_lt {n : Nat} (h : n < 256) : (UInt8.ofNat n).toNat = n := by
  rw [UInt8.toNat_ofNat', Nat.mod_eq_of_lt h]

theorem Encodes.of_eq {code code' : Nat} {w : Text} (h : Encodes code w) (hcode : code = code') :
    Encodes code' w :=
  hcode ▸ h

theorem encodes_encoding (c : Char) : Encodes c.toNat (encoding c) := by
  have hvalid := toNat_eq_or c
  have hval : c.val.toNat = c.toNat := rfl
  rw [encoding, String.utf8EncodeChar]
  simp only [hval]
  generalize c.toNat = v at hvalid
  have htail : ∀ n, (UInt8.ofNat (n % 64 + 128)).toNat = n % 64 + 128 :=
    fun n => toNat_ofNat_of_lt (by omega)
  split_ifs with h1 h2 h3
  · have hb := toNat_ofNat_of_lt (n := v) (by omega)
    exact (Encodes.one (by omega)).of_eq hb
  · have hb := toNat_ofNat_of_lt (n := v / 64 % 32 + 192) (by omega)
    refine (Encodes.two (by omega) (by omega) ?_).of_eq ?_
    · rw [isSecond_iff, htail]
      omega
    · rw [hb, htail]
      omega
  · have hb := toNat_ofNat_of_lt (n := v / 4096 % 16 + 224) (by omega)
    refine (Encodes.three (by omega) (by omega) ?_ ?_).of_eq ?_
    · rw [isSecond_iff, hb, htail]
      omega
    · rw [isTail_iff, htail]
      omega
    · rw [hb, htail, htail]
      omega
  · have hb := toNat_ofNat_of_lt (n := v / 262144 % 8 + 240) (by omega)
    refine (Encodes.four (by omega) (by omega) ?_ ?_ ?_).of_eq ?_
    · rw [isSecond_iff, hb, htail]
      omega
    · rw [isTail_iff, htail]
      omega
    · rw [isTail_iff, htail]
      omega
    · rw [hb, htail, htail, htail]
      omega

theorem Encodes.isValidChar {code : Nat} {w : Text} (h : Encodes code w) : code.isValidChar := by
  rw [Nat.isValidChar]
  cases h with
  | one hb => omega
  | two hlow hhigh hc =>
      rw [isSecond_iff] at hc
      omega
  | three hlow hhigh hc hd =>
      rw [isSecond_iff] at hc
      rw [isTail_iff] at hd
      omega
  | four hlow hhigh hc hd he =>
      rw [isSecond_iff] at hc
      rw [isTail_iff] at hd he
      omega

theorem ofNat_eq {n : Nat} {b : UInt8} (h : n = b.toNat) : UInt8.ofNat n = b := by
  rw [h, UInt8.ofNat_toNat]

theorem Encodes.encoding_eq {c : Char} {w : Text} (h : Encodes c.toNat w) : encoding c = w := by
  have hval : c.val.toNat = c.toNat := rfl
  rw [encoding, String.utf8EncodeChar]
  simp only [hval]
  generalize c.toNat = code at h
  cases h with
  | @one b hb => rw [if_pos (by omega), ofNat_eq rfl]
  | @two b c' hlow hhigh hc =>
      rw [isSecond_iff] at hc
      rw [if_neg (by omega), if_pos (by omega), ofNat_eq (b := b) (by omega),
        ofNat_eq (b := c') (by omega)]
  | @three b c' d hlow hhigh hc hd =>
      rw [isSecond_iff] at hc
      rw [isTail_iff] at hd
      rw [if_neg (by omega), if_neg (by omega), if_pos (by omega),
        ofNat_eq (b := b) (by omega), ofNat_eq (b := c') (by omega), ofNat_eq (b := d) (by omega)]
  | @four b c' d e hlow hhigh hc hd he =>
      rw [isSecond_iff] at hc
      rw [isTail_iff] at hd he
      rw [if_neg (by omega), if_neg (by omega), if_neg (by omega),
        ofNat_eq (b := b) (by omega), ofNat_eq (b := c') (by omega), ofNat_eq (b := d) (by omega),
        ofNat_eq (b := e) (by omega)]

theorem isCharacter_encoding (c : Char) : IsCharacter c.toNat (encoding c) :=
  (encodes_encoding c).isCharacter

theorem isCharacter_iff {code : Nat} {w : Text} :
    IsCharacter code w ↔ ∃ c : Char, c.toNat = code ∧ encoding c = w := by
  constructor
  · intro h
    have hcode : (Char.ofNatAux code h.encodes.isValidChar).toNat = code := rfl
    exact ⟨_, hcode, (h.encodes.of_eq hcode.symm).encoding_eq⟩
  · rintro ⟨c, rfl, rfl⟩
    exact isCharacter_encoding c

theorem isUtf8_iff {t : Text} : isUtf8 t = true ↔ ∃ cs : List Char, t = cs.flatMap encoding := by
  constructor
  · intro h
    induction t using inductionOnPieces with
    | nil => exact ⟨[], rfl⟩
    | character code w t hw ih =>
        rw [isUtf8, hw.pieces_append_left, List.all_cons, Piece.isScalar, Bool.true_and] at h
        obtain ⟨cs, rfl⟩ := ih h
        obtain ⟨c, -, rfl⟩ := isCharacter_iff.mp hw
        exact ⟨c :: cs, List.flatMap_cons.symm⟩
    | stray b t hb ih =>
        rw [isUtf8, pieces_cons_of_eq_none hb, List.all_cons] at h
        cases h
  · rintro ⟨cs, rfl⟩
    induction cs with
    | nil => rfl
    | cons c cs ih =>
        rw [isUtf8, List.flatMap_cons, (isCharacter_encoding c).pieces_append_left, List.all_cons]
        exact ih

/-! ### Characters and runs -/

/-- A character takes up the byte at `i`. -/
def Covered (t : Text) (i : Nat) : Prop :=
  ∃ (u : Text) (c : Char) (v : Text),
    t = u ++ encoding c ++ v ∧ u.length ≤ i ∧ i < u.length + (encoding c).length

/-- A part of a text: a character or a run of bytes. -/
inductive Segment where
  | character (c : Char)
  | run (w : Text)

namespace Segment

/-- The bytes of a segment. -/
def bytes : Segment → Text
  | character c => encoding c
  | run w => w

/-- The segment is a run. -/
def isRun : Segment → Bool
  | character _ => false
  | run _ => true

/-- The bytes of a segment, with the replacement character for a run. -/
def mended : Segment → Text
  | character c => encoding c
  | run _ => encoding (Char.ofNat 0xFFFD)

end Segment

/-- A text is made of these segments. Its runs are not empty and no two of them are neighbours, and
no character takes up any of their bytes, wherever it is looked for in the text. -/
structure Segmented (t : Text) (ss : List Segment) : Prop where
  bytes_eq : t = ss.flatMap Segment.bytes
  run_ne_nil : ∀ w, .run w ∈ ss → w ≠ []
  maximal : ss.IsChain fun s s' => (s.isRun && s'.isRun) = false
  uncovered : ∀ before w after, ss = before ++ .run w :: after →
    ∀ i, (before.flatMap Segment.bytes).length ≤ i →
      i < (before.flatMap Segment.bytes).length + w.length → ¬Covered t i

/-- `t'` is the text `t` with the replacement character for each of its runs. -/
def Mended (t t' : Text) : Prop := ∃ ss, Segmented t ss ∧ t' = ss.flatMap Segment.mended

/-- Put a byte in front, into the run that is there or into one of its own. -/
def joinRun (b : UInt8) : List Segment → List Segment
  | .run w :: ss => .run (b :: w) :: ss
  | ss => .run [b] :: ss

/-- The segments of a list of pieces. -/
def segments : List Piece → List Segment
  | [] => []
  | .scalar code _ :: ps => .character (Char.ofNat code) :: segments ps
  | .stray b :: ps => joinRun b (segments ps)

section

variable (b : UInt8) (ss : List Segment)

theorem joinRun_cases : (∃ w rest, ss = .run w :: rest ∧ joinRun b ss = .run (b :: w) :: rest) ∨
    (ss.head?.any Segment.isRun = false ∧ joinRun b ss = .run [b] :: ss) := by
  cases ss with
  | nil => exact .inr ⟨rfl, rfl⟩
  | cons s ss =>
      cases s with
      | character c => exact .inr ⟨rfl, rfl⟩
      | run w => exact .inl ⟨w, ss, rfl, rfl⟩

theorem flatMap_bytes_joinRun :
    (joinRun b ss).flatMap Segment.bytes = b :: ss.flatMap Segment.bytes := by
  rcases joinRun_cases b ss with ⟨w, rest, rfl, h⟩ | ⟨-, h⟩ <;> rw [h] <;> rfl

theorem joinRun_append_character (c : Char) (ss' : List Segment) :
    joinRun b (ss ++ .character c :: ss') = joinRun b ss ++ .character c :: ss' := by
  cases ss with
  | nil => rfl
  | cons s ss => cases s <;> rfl

end

theorem head?_segments (ps : List Piece) :
    (segments ps).head?.any Segment.isRun = startsStray ps := by
  cases ps with
  | nil => rfl
  | cons p ps =>
      cases p with
      | scalar code w => rfl
      | stray b =>
          rw [segments]
          rcases joinRun_cases b (segments ps) with ⟨w, rest, -, h⟩ | ⟨-, h⟩ <;> rw [h] <;> rfl

theorem encoding_of_isCharacter {code : Nat} {w : Text} (h : IsCharacter code w) :
    encoding (Char.ofNat code) = w := by
  obtain ⟨c, rfl, rfl⟩ := isCharacter_iff.mp h
  rw [Char.ofNat_toNat]

section

variable {ps : List Piece} (h : ∀ code w, .scalar code w ∈ ps → IsCharacter code w)

include h

theorem flatMap_bytes_segments :
    (segments ps).flatMap Segment.bytes = ps.flatMap Piece.bytes := by
  induction ps with
  | nil => rfl
  | cons p ps ih =>
      have ih := ih fun code w hmem => h code w (List.mem_cons_of_mem p hmem)
      cases p with
      | scalar code w =>
          rw [segments, List.flatMap_cons, ih, List.flatMap_cons, Segment.bytes, Piece.bytes,
            encoding_of_isCharacter (h code w List.mem_cons_self)]
      | stray b =>
          rw [segments, flatMap_bytes_joinRun, ih]
          rfl

/-- A run is replaced once, when its last byte is met. -/
theorem flatMap_mended_segments :
    (segments ps).flatMap Segment.mended = (mend ps).flatMap Piece.bytes := by
  induction ps with
  | nil => rfl
  | cons p ps ih =>
      have ih := ih fun code w hmem => h code w (List.mem_cons_of_mem p hmem)
      cases p with
      | scalar code w =>
          rw [segments, mend, List.flatMap_cons, ih, List.flatMap_cons, Segment.mended, Piece.bytes,
            encoding_of_isCharacter (h code w List.mem_cons_self)]
      | stray b =>
          rw [segments, mend, ← head?_segments]
          rcases joinRun_cases b (segments ps) with ⟨w, rest, hrun, hjoin⟩ | ⟨hhead, hjoin⟩
          · rw [hjoin, if_pos (by rw [hrun]; rfl), ← ih, hrun]
            rfl
          · rw [hjoin, if_neg (by rw [hhead]; decide), List.flatMap_cons, List.flatMap_cons, ih]
            rfl

end

theorem run_ne_nil_of_mem_segments {ps : List Piece} {w : Text} (h : .run w ∈ segments ps) :
    w ≠ [] := by
  induction ps with
  | nil => cases h
  | cons p ps ih =>
      cases p with
      | scalar code enc => exact ih ((List.mem_cons.mp h).resolve_left nofun)
      | stray b =>
          rw [segments] at h
          rcases joinRun_cases b (segments ps) with ⟨w', rest, hrun, hjoin⟩ | ⟨-, hjoin⟩ <;>
            rw [hjoin] at h <;> rcases List.mem_cons.mp h with heq | hmem
          · cases heq
            exact List.cons_ne_nil _ _
          · exact ih (by rw [hrun]; exact List.mem_cons_of_mem _ hmem)
          · cases heq
            exact List.cons_ne_nil _ _
          · exact ih hmem

theorem isChain_segments (ps : List Piece) :
    (segments ps).IsChain fun s s' => (s.isRun && s'.isRun) = false := by
  induction ps with
  | nil => exact .nil
  | cons p ps ih =>
      cases p with
      | scalar code w => exact List.isChain_cons.mpr ⟨fun _ _ => rfl, ih⟩
      | stray b =>
          rw [segments]
          rcases joinRun_cases b (segments ps) with ⟨w, rest, hrun, hjoin⟩ | ⟨hhead, hjoin⟩
          · rw [hrun] at ih
            rw [hjoin]
            exact List.isChain_cons.mpr (List.isChain_cons.mp ih)
          · rw [hjoin]
            refine List.isChain_cons.mpr ⟨fun s hs => ?_, ih⟩
            rw [Option.mem_def.mp hs] at hhead
            simpa [Segment.isRun] using hhead

theorem segments_append_scalar (ps : List Piece) (code : Nat) (w : Text) (qs : List Piece) :
    segments (ps ++ .scalar code w :: qs) =
      segments ps ++ .character (Char.ofNat code) :: segments qs := by
  induction ps with
  | nil => rfl
  | cons p ps ih =>
      cases p with
      | scalar code' w' => rw [List.cons_append, segments, ih, segments, List.cons_append]
      | stray b => rw [List.cons_append, segments, ih, segments, joinRun_append_character]

theorem flatMap_bytes_segments_pieces (t : Text) :
    (segments (pieces t)).flatMap Segment.bytes = t := by
  rw [flatMap_bytes_segments fun _ _ => isCharacter_of_mem_pieces, flatMap_bytes_pieces]

/-- Wherever a character stands in a text, it is one of the segments. -/
theorem segments_of_eq {t u v : Text} {c : Char} (h : t = u ++ encoding c ++ v) :
    segments (pieces t) = segments (pieces u) ++ .character c :: segments (pieces v) := by
  have hc := isCharacter_encoding c
  rw [h, List.append_assoc, pieces_append u (hc.isTail_head? v), hc.pieces_append_left,
    segments_append_scalar, Char.ofNat_toNat]

theorem segmented_segments (t : Text) : Segmented t (segments (pieces t)) where
  bytes_eq := (flatMap_bytes_segments_pieces t).symm
  run_ne_nil _ := run_ne_nil_of_mem_segments
  maximal := isChain_segments (pieces t)
  uncovered before w after hss i hlow hhigh := by
    rintro ⟨u, c, v, ht, hstart, hend⟩
    have hu := congrArg List.length (flatMap_bytes_segments_pieces u)
    rw [segments_of_eq ht] at hss
    -- The run is on one side of the character.
    rcases List.append_eq_append_iff.mp hss with ⟨rest, hbefore, hrest⟩ | ⟨rest, hbefore, hrest⟩
    · cases rest with
      | nil => cases hrest
      | cons s rest =>
          obtain ⟨rfl, -⟩ := List.cons.inj hrest
          rw [hbefore, List.flatMap_append, List.flatMap_cons, List.length_append, hu,
            List.length_append, Segment.bytes] at hlow
          omega
    · cases rest with
      | nil => cases hrest
      | cons s rest =>
          obtain ⟨rfl, -⟩ := List.cons.inj hrest
          rw [hbefore, List.flatMap_append, List.flatMap_cons, List.length_append,
            List.length_append, Segment.bytes] at hu
          omega

/-! There is no other way to cut a text into segments. -/

theorem Covered.append_left {t : Text} {i : Nat} (h : Covered t i) (u : Text) :
    Covered (u ++ t) (u.length + i) := by
  obtain ⟨u', c, v, rfl, hlow, hhigh⟩ := h
  refine ⟨u ++ u', c, v, by simp only [List.append_assoc], ?_, ?_⟩ <;>
    rw [List.length_append] <;> omega

theorem Segmented.tail {t : Text} {s : Segment} {ss : List Segment} (h : Segmented t (s :: ss)) :
    Segmented (ss.flatMap Segment.bytes) ss where
  bytes_eq := rfl
  run_ne_nil w hw := h.run_ne_nil w (List.mem_cons_of_mem s hw)
  maximal := (List.isChain_cons.mp h.maximal).2
  uncovered before w after hss i hlow hhigh hcovered := by
    apply h.uncovered (s :: before) w after (by rw [hss, List.cons_append]) (s.bytes.length + i)
    · rw [List.flatMap_cons, List.length_append]
      omega
    · rw [List.flatMap_cons, List.length_append]
      omega
    · rw [h.bytes_eq, List.flatMap_cons]
      exact hcovered.append_left s.bytes

theorem encoding_ne_nil (c : Char) : encoding c ≠ [] := by
  obtain ⟨b, t, h, -⟩ := isCharacter_encoding c
  rw [h]
  exact List.cons_ne_nil b t

/-- A run ends the text or has a character behind it. -/
theorem Segmented.isTail_head? {t w : Text} {ss : List Segment} (h : Segmented t (.run w :: ss)) :
    ∀ c ∈ (ss.flatMap Segment.bytes).head?, isTail c = false := by
  cases ss with
  | nil => exact nofun
  | cons s ss =>
      have hnext := (List.isChain_cons.mp h.maximal).1 s rfl
      cases s with
      | character c => exact (isCharacter_encoding c).isTail_head? _
      | run w' => cases hnext

theorem eq_map_stray {ps : List Piece} (h : ∀ code w, .scalar code w ∉ ps) :
    ps = (ps.flatMap Piece.bytes).map Piece.stray := by
  induction ps with
  | nil => rfl
  | cons p ps ih =>
      cases p with
      | scalar code w => exact absurd List.mem_cons_self (h code w)
      | stray b =>
          rw [List.flatMap_cons, Piece.bytes, List.singleton_append, List.map_cons,
            ← ih fun code w hmem => h code w (List.mem_cons_of_mem _ hmem)]

theorem Segmented.pieces_run {t w : Text} {ss : List Segment} (h : Segmented t (.run w :: ss)) :
    pieces w = w.map Piece.stray := by
  have hstray : ∀ code enc, .scalar code enc ∉ pieces w := by
    intro code enc hmem
    obtain ⟨c, rfl, rfl⟩ := isCharacter_iff.mp (isCharacter_of_mem_pieces hmem)
    obtain ⟨u, v, rfl⟩ := ((isCharacter_encoding c).infix_iff w).mpr hmem
    have hpos := List.length_pos_iff.mpr (encoding_ne_nil c)
    apply h.uncovered [] _ ss rfl u.length (Nat.zero_le _)
    · simp only [List.flatMap_nil, List.length_nil, List.length_append]
      omega
    · refine ⟨u, c, v ++ ss.flatMap Segment.bytes, ?_, Nat.le_refl _, by omega⟩
      rw [h.bytes_eq, List.flatMap_cons, Segment.bytes, List.append_assoc]
  have hw := eq_map_stray hstray
  rwa [flatMap_bytes_pieces] at hw

theorem segments_map_stray_append {w : Text} (hw : w ≠ []) {ps : List Piece}
    (hps : (segments ps).head?.any Segment.isRun = false) :
    segments (w.map Piece.stray ++ ps) = .run w :: segments ps := by
  induction w, hw using List.recNeNil with
  | singleton b =>
      rcases joinRun_cases b (segments ps) with ⟨w', rest, hrun, -⟩ | ⟨-, hjoin⟩
      · rw [hrun] at hps
        cases hps
      · exact hjoin
  | cons b w hne ih => rw [List.map_cons, List.cons_append, segments, ih, joinRun]

theorem Segmented.segments_eq {t : Text} {ss : List Segment} (h : Segmented t ss) :
    segments (pieces t) = ss := by
  induction ss generalizing t with
  | nil =>
      rw [h.bytes_eq]
      rfl
  | cons s ss ih =>
      have ih := ih h.tail
      rw [h.bytes_eq, List.flatMap_cons]
      cases s with
      | character c =>
          rw [Segment.bytes, (isCharacter_encoding c).pieces_append_left, segments, ih,
            Char.ofNat_toNat]
      | run w =>
          have hnext : (segments (pieces (ss.flatMap Segment.bytes))).head?.any Segment.isRun =
              false := by
            rw [ih]
            cases ss with
            | nil => rfl
            | cons s ss => exact (List.isChain_cons.mp h.maximal).1 s rfl
          rw [Segment.bytes, pieces_append w h.isTail_head?, h.pieces_run,
            segments_map_stray_append (h.run_ne_nil w List.mem_cons_self) hnext, ih]

theorem mended_iff {t t' : Text} : Mended t t' ↔ t' = repair t := by
  have hrepair : (segments (pieces t)).flatMap Segment.mended = repair t := by
    rw [flatMap_mended_segments fun _ _ => isCharacter_of_mem_pieces, repair, repairPieces_eq]
  constructor
  · rintro ⟨ss, hss, rfl⟩
    rw [← hrepair, hss.segments_eq]
  · rintro rfl
    exact ⟨_, segmented_segments t, hrepair.symm⟩

/-! ### Texts that are mended -/

theorem isUtf8_repair (t : Text) : isUtf8 (repair t) = true := by
  rw [isUtf8, pieces_repair, List.all_eq_true]
  intro p hp
  rcases mem_or_eq_of_mem_mend hp with rfl | ⟨hscalar, -⟩
  · rfl
  · exact hscalar

theorem repair_eq_self_iff {t : Text} : repair t = t ↔ isUtf8 t = true := by
  constructor
  · intro h
    rw [← h]
    exact isUtf8_repair t
  · exact repair_eq_self_of_isUtf8

end LineMachine.Text
