import LineMachine.Proofs.Text.Characters
import LineMachine.Proofs.Text.Lines
import Mathlib.Data.List.Infix

/-!
# Lines of a repaired text

A text without a line break is one line. Any other text is a line, the break that ends it and a rest
(`exists_first_break`), where a carriage return in front of a line feed takes it along. The two
equations for `splitOn newline (unifyBreaks t)` follow this cut, and so does the induction
`inductionOnLines`.

White space and line breaks are characters other than the replacement character. So repairing a text
neither makes nor loses nor moves one of them, and a text is trimmed and cut into lines before its
repair as after it (`lines_repair`).
-/

namespace LineMachine.Text

/-! ### Trimming -/

/-- No word of the list starts with another one. -/
def PrefixFree (ws : List Text) : Prop := ∀ a ∈ ws, ∀ b ∈ ws, a <+: b → a = b

theorem strip_append {ws : List Text} (hfree : PrefixFree ws) {w : Text} (hw : w ∈ ws)
    (hne : w ≠ []) (t : Text) : strip ws (w ++ t) = strip ws t := by
  obtain ⟨b, rest, rfl⟩ := List.exists_cons_of_ne_nil hne
  have hfind : (ws.find? fun v => !v.isEmpty && v.isPrefixOf (b :: (rest ++ t))) =
      some (b :: rest) := by
    cases hsome : ws.find? fun v => !v.isEmpty && v.isPrefixOf (b :: (rest ++ t)) with
    | none =>
        have hnot := List.find?_eq_none.mp hsome _ hw
        simp at hnot
    | some v =>
        have hmem := List.mem_of_find?_eq_some hsome
        have hstarts := List.find?_some hsome
        simp only [Bool.and_eq_true, List.isPrefixOf_iff_prefix] at hstarts
        -- Both words are in front, so one of them starts with the other.
        rcases List.prefix_or_prefix_of_prefix hstarts.2 (List.prefix_append (b :: rest) t) with
          hshort | hlong
        · rw [hfree _ hmem _ hw hshort]
        · rw [hfree _ hw _ hmem hlong]
  rw [List.cons_append, strip, hfind]
  simp

theorem strip_eq_self {ws : List Text} {t : Text} (h : ∀ w ∈ ws, w ≠ [] → ¬ w <+: t) :
    strip ws t = t := by
  fun_cases strip ws t with
  | case1 => rfl
  | case2 b t w hw =>
      have hstarts := List.find?_some hw
      simp only [Bool.and_eq_true, Bool.not_eq_true', List.isEmpty_eq_false_iff,
        List.isPrefixOf_iff_prefix] at hstarts
      exact absurd hstarts.2 (h w (List.mem_of_find?_eq_some hw) hstarts.1)
  | case3 b t hw => rfl

/-- A text starts with none of the words, or it is one of them and a rest. -/
@[elab_as_elim]
theorem inductionOnStrip (ws : List Text) {motive : Text → Prop}
    (done : ∀ t, (∀ w ∈ ws, w ≠ [] → ¬ w <+: t) → motive t)
    (word : ∀ w t, w ∈ ws → w ≠ [] → motive t → motive (w ++ t)) (t : Text) : motive t := by
  fun_induction strip ws t with
  | case1 => exact done [] fun w _ hne => by rwa [List.prefix_nil]
  | case2 b t w hw ih =>
      obtain ⟨hne, rest, hrest⟩ : w ≠ [] ∧ w <+: b :: t := by simpa using List.find?_some hw
      have hdrop : t.drop (w.length - 1) = rest := by
        obtain ⟨c, v, rfl⟩ := List.exists_cons_of_ne_nil hne
        obtain ⟨-, rfl⟩ := List.cons.inj hrest
        simp
      rw [← hrest]
      exact word w rest (List.mem_of_find?_eq_some hw) hne (hdrop ▸ ih)
  | case3 b t hw =>
      apply done
      intro w hmem hne hstarts
      have hnot := List.find?_eq_none.mp hw w hmem
      simp [hne, hstarts] at hnot

theorem exists_isCharacter_of_mem_spaces {w : Text} (hw : w ∈ spaces) :
    ∃ code, IsCharacter code w := by
  have hall : ∀ w ∈ spaces, (pieces w).length = 1 ∧ isUtf8 w = true := by decide
  exact exists_isCharacter (hall w hw).1 (hall w hw).2

theorem ne_replacement_of_mem_spaces {w : Text} (hw : w ∈ spaces) : w ≠ replacement := by
  rintro rfl
  exact absurd hw (by decide)

theorem prefixFree_spaces : PrefixFree spaces := by
  intro a ha b hb hprefix
  obtain ⟨_, hchar⟩ := exists_isCharacter_of_mem_spaces ha
  obtain ⟨_, hchar'⟩ := exists_isCharacter_of_mem_spaces hb
  exact hchar.eq_of_prefix hchar' hprefix

theorem prefixFree_map_reverse_spaces : PrefixFree (spaces.map List.reverse) := by
  intro a ha b hb hprefix
  obtain ⟨w, hw, rfl⟩ := List.mem_map.mp ha
  obtain ⟨w', hw', rfl⟩ := List.mem_map.mp hb
  obtain ⟨_, hchar⟩ := exists_isCharacter_of_mem_spaces hw
  obtain ⟨_, hchar'⟩ := exists_isCharacter_of_mem_spaces hw'
  rw [hchar.eq_of_suffix hchar' (List.reverse_prefix.mp hprefix)]

theorem trimLeft_repair (t : Text) : trimLeft (repair t) = repair (trimLeft t) := by
  unfold trimLeft
  induction t using inductionOnStrip spaces with
  | done t h =>
      rw [strip_eq_self h, strip_eq_self]
      intro w hw hne hstarts
      obtain ⟨_, hchar⟩ := exists_isCharacter_of_mem_spaces hw
      exact h w hw hne (hchar.prefix_of_prefix_repair (ne_replacement_of_mem_spaces hw) hstarts)
  | word w t hw hne ih =>
      obtain ⟨_, hchar⟩ := exists_isCharacter_of_mem_spaces hw
      rw [hchar.repair_append_left, strip_append prefixFree_spaces hw hne, ih,
        strip_append prefixFree_spaces hw hne]

theorem trimRight_repair (t : Text) : trimRight (repair t) = repair (trimRight t) := by
  unfold trimRight
  -- The induction is on the reversed text, which is what is stripped.
  obtain ⟨r, rfl⟩ := List.reverse_surjective t
  rw [List.reverse_reverse]
  induction r using inductionOnStrip (spaces.map List.reverse) with
  | done r h =>
      rw [strip_eq_self h, strip_eq_self, List.reverse_reverse]
      intro v hv hne hstarts
      obtain ⟨w, hw, rfl⟩ := List.mem_map.mp hv
      obtain ⟨_, hchar⟩ := exists_isCharacter_of_mem_spaces hw
      have hends := hchar.suffix_of_suffix_repair (ne_replacement_of_mem_spaces hw)
        (List.reverse_prefix.mp hstarts)
      rw [← List.reverse_prefix, List.reverse_reverse] at hends
      exact h _ hv hne hends
  | word v r hv hne ih =>
      obtain ⟨w, hw, rfl⟩ := List.mem_map.mp hv
      obtain ⟨_, hchar⟩ := exists_isCharacter_of_mem_spaces hw
      rw [List.reverse_append, List.reverse_reverse, hchar.repair_append_right, List.reverse_append,
        strip_append prefixFree_map_reverse_spaces hv hne, ih,
        strip_append prefixFree_map_reverse_spaces hv hne]

theorem trim_repair (t : Text) : trim (repair t) = repair (trim t) := by
  rw [trim, trimLeft_repair, trimRight_repair, ← trim]

/-! ### Line breaks -/

/-- The characters that end a line. -/
def breaks : List Text := [[0x0A], [0x0D], [0xC2, 0x85], [0xE2, 0x80, 0xA8], [0xE2, 0x80, 0xA9]]

theorem breaks_subset_spaces : breaks ⊆ spaces := by decide

theorem exists_isCharacter_of_mem_breaks {w : Text} (hw : w ∈ breaks) :
    ∃ code, IsCharacter code w :=
  exists_isCharacter_of_mem_spaces (breaks_subset_spaces hw)

/-- No line ends in the text. -/
def BreakFree (t : Text) : Prop := ∀ w ∈ breaks, ¬ w <:+: t

/-- `w` ends a line in front of `u`. A carriage return takes the line feed behind it along. -/
def EndsLine (w u : Text) : Prop :=
  w = [0x0D, 0x0A] ∨ w ∈ breaks ∧ (w = [0x0D] → ¬ [0x0A] <+: u)

theorem breakStep_of_not_prefix {b : UInt8} {t : Text} (h : ∀ w ∈ breaks, ¬ w <+: b :: t) :
    breakStep b t = (b, 0) := by
  unfold breakStep
  split
  · exact absurd (List.prefix_append [0x0D] _) (h [0x0D] (by decide))
  · exact absurd (List.prefix_append [0x0D] _) (h [0x0D] (by decide))
  · exact absurd (List.prefix_append [0xC2, 0x85] _) (h [0xC2, 0x85] (by decide))
  · exact absurd (List.prefix_append [0xE2, 0x80, 0xA8] _) (h [0xE2, 0x80, 0xA8] (by decide))
  · exact absurd (List.prefix_append [0xE2, 0x80, 0xA9] _) (h [0xE2, 0x80, 0xA9] (by decide))
  · rfl

@[simp] theorem unifyBreaks_nil : unifyBreaks [] = [] := rfl

theorem unifyBreaks_append_of_endsLine {w u : Text} (h : EndsLine w u) :
    unifyBreaks (w ++ u) = newline :: unifyBreaks u := by
  rcases h with rfl | ⟨hw, hreturn⟩
  · simp [unifyBreaks, scan_cons, breakStep]
  · simp only [breaks, List.mem_cons, List.not_mem_nil, or_false] at hw
    rcases hw with rfl | rfl | rfl | rfl | rfl
    · simp [unifyBreaks, scan_cons, breakStep]
    · cases u with
      | nil => rfl
      | cons b u =>
        have hb : b ≠ 0x0A := by rintro rfl; simp at hreturn
        simp [unifyBreaks, scan_cons, breakStep, hb]
    · simp [unifyBreaks, scan_cons, breakStep]
    · simp [unifyBreaks, scan_cons, breakStep]
    · simp [unifyBreaks, scan_cons, breakStep]

theorem EndsLine.isTail_head? {w u : Text} (h : EndsLine w u) :
    ∀ c ∈ (w ++ u).head?, isTail c = false := by
  rcases h with rfl | ⟨hw, -⟩
  · rintro c ⟨⟩
    rfl
  · obtain ⟨_, hchar⟩ := exists_isCharacter_of_mem_breaks hw
    exact hchar.isTail_head? u

theorem breakFree_nil : BreakFree [] := by
  intro w hw hpart
  rw [List.infix_nil.mp hpart] at hw
  exact not_nil_mem_spaces (breaks_subset_spaces hw)

theorem BreakFree.of_cons {b : UInt8} {t : Text} (h : BreakFree (b :: t)) : BreakFree t :=
  fun w hw hpart => h w hw (List.infix_cons hpart)

/-- A line break does not reach back into the line that it ends. -/
theorem BreakFree.unifyBreaks_append {a u : Text} (ha : BreakFree a)
    (hu : ∀ c ∈ u.head?, isTail c = false) : unifyBreaks (a ++ u) = a ++ unifyBreaks u := by
  induction a with
  | nil => rfl
  | cons b a ih =>
      have hstep : breakStep b (a ++ u) = (b, 0) := by
        apply breakStep_of_not_prefix
        intro w hw hstarts
        obtain ⟨_, hchar⟩ := exists_isCharacter_of_mem_breaks hw
        have hline := hchar.prefix_of_prefix_append (List.cons_ne_nil b a) hu hstarts
        exact ha w hw hline.isInfix
      rw [List.cons_append, unifyBreaks, scan_cons, hstep]
      exact congrArg (b :: ·) (ih ha.of_cons)

theorem BreakFree.newline_not_mem {a : Text} (ha : BreakFree a) : newline ∉ a := by
  intro hmem
  obtain ⟨s, t, rfl⟩ := List.append_of_mem hmem
  exact ha [0x0A] (by decide) ⟨s, t, by simp⟩

theorem BreakFree.splitOn_unifyBreaks {a : Text} (ha : BreakFree a) :
    splitOn newline (unifyBreaks a) = [a] := by
  have hown := ha.unifyBreaks_append (u := []) (by simp)
  rw [List.append_nil, unifyBreaks_nil, List.append_nil] at hown
  rw [hown, splitOn_of_not_mem ha.newline_not_mem]

theorem BreakFree.splitOn_unifyBreaks_append {a w u : Text} (ha : BreakFree a)
    (hw : EndsLine w u) :
    splitOn newline (unifyBreaks (a ++ w ++ u)) = a :: splitOn newline (unifyBreaks u) := by
  rw [List.append_assoc, ha.unifyBreaks_append hw.isTail_head?, unifyBreaks_append_of_endsLine hw]
  exact splitOn_append_cons ha.newline_not_mem _

/-- A break in front of a text ends a line, if need be with the line feed behind it. -/
theorem exists_endsLine {w u : Text} (hw : w ∈ breaks) :
    ∃ w' u', w ++ u = w' ++ u' ∧ w' ≠ [] ∧ EndsLine w' u' := by
  by_cases hfeed : w = [0x0D] ∧ [0x0A] <+: u
  · obtain ⟨rfl, u, rfl⟩ := hfeed
    exact ⟨[0x0D, 0x0A], u, rfl, List.cons_ne_nil _ _, .inl rfl⟩
  · have hne := ne_of_mem_of_not_mem (breaks_subset_spaces hw) not_nil_mem_spaces
    exact ⟨w, u, rfl, hne, .inr ⟨hw, fun hreturn hstarts => hfeed ⟨hreturn, hstarts⟩⟩⟩

/-- A text is one line, or it is its first line, the break that ends it and a rest. -/
theorem exists_first_break (t : Text) :
    BreakFree t ∨
      ∃ a w u, t = a ++ w ++ u ∧ BreakFree a ∧ w ≠ [] ∧ EndsLine w u := by
  induction t with
  | nil => exact .inl breakFree_nil
  | cons b t ih =>
      by_cases hfront : ∃ w ∈ breaks, w <+: b :: t
      · obtain ⟨w, hw, u, hu⟩ := hfront
        obtain ⟨w', u', hcut, hne, hends⟩ := exists_endsLine (u := u) hw
        exact .inr ⟨[], w', u', by rw [← hu, hcut, List.nil_append], breakFree_nil, hne, hends⟩
      · have hcons : ∀ s, s <+: t → BreakFree s → BreakFree (b :: s) := by
          intro s hs hfree w hw hpart
          rcases List.infix_cons_iff.mp hpart with hstarts | hinside
          · exact hfront ⟨w, hw, hstarts.trans ((List.prefix_cons_inj b).mpr hs)⟩
          · exact hfree w hw hinside
        rcases ih with hfree | ⟨a, w, u, rfl, ha, hne, hends⟩
        · exact .inl (hcons t (List.prefix_refl t) hfree)
        · have hline : a <+: a ++ w ++ u := by
            rw [List.append_assoc]
            exact List.prefix_append a _
          exact .inr ⟨b :: a, w, u, rfl, hcons a hline ha, hne, hends⟩

@[elab_as_elim]
theorem inductionOnLines {motive : Text → Prop} (last : ∀ a, BreakFree a → motive a)
    (line : ∀ a w u, BreakFree a → EndsLine w u → motive u → motive (a ++ w ++ u)) (t : Text) :
    motive t := by
  induction hlength : t.length using Nat.strongRecOn generalizing t with
  | ind n ih =>
      rcases exists_first_break t with hfree | ⟨a, w, u, rfl, ha, hne, hends⟩
      · exact last t hfree
      · have hshort : u.length < n := by
          have hpos := List.length_pos_iff.mpr hne
          simp only [List.length_append] at hlength
          omega
        exact line a w u ha hends (ih u.length hshort u rfl)

/-! ### Repair -/

theorem BreakFree.repair {t : Text} (h : BreakFree t) : BreakFree (repair t) := by
  intro w hw hpart
  obtain ⟨_, hchar⟩ := exists_isCharacter_of_mem_breaks hw
  have hne := ne_replacement_of_mem_spaces (breaks_subset_spaces hw)
  exact h w hw (hchar.infix_of_infix_repair hne hpart)

theorem EndsLine.repair {w u : Text} (h : EndsLine w u) : EndsLine w (repair u) := by
  refine h.imp_right fun ⟨hw, hfeed⟩ => ⟨hw, fun hreturn hstarts => hfeed hreturn ?_⟩
  obtain ⟨_, hchar⟩ := exists_isCharacter_of_mem_breaks (w := [0x0A]) (by decide)
  exact hchar.prefix_of_prefix_repair (by decide) hstarts

theorem EndsLine.repair_append {w u : Text} (h : EndsLine w u) (a : Text) :
    Text.repair (a ++ w ++ u) = Text.repair a ++ w ++ Text.repair u := by
  rcases h with rfl | ⟨hw, -⟩
  · obtain ⟨_, hreturn⟩ := exists_isCharacter_of_mem_breaks (w := [0x0D]) (by decide)
    obtain ⟨_, hfeed⟩ := exists_isCharacter_of_mem_breaks (w := [0x0A]) (by decide)
    have hsplit : a ++ [0x0D, 0x0A] ++ u = a ++ [0x0D] ++ ([0x0A] ++ u) := by simp
    rw [hsplit, hreturn.repair_append, hfeed.repair_append_left]
    simp
  · obtain ⟨_, hchar⟩ := exists_isCharacter_of_mem_breaks hw
    exact hchar.repair_append a u

theorem splitOn_unifyBreaks_repair (t : Text) :
    splitOn newline (unifyBreaks (repair t)) = (splitOn newline (unifyBreaks t)).map repair := by
  induction t using inductionOnLines with
  | last a ha => rw [ha.repair.splitOn_unifyBreaks, ha.splitOn_unifyBreaks, List.map_singleton]
  | line a w u ha hw ih =>
      rw [hw.repair_append, ha.repair.splitOn_unifyBreaks_append hw.repair,
        ha.splitOn_unifyBreaks_append hw, ih, List.map_cons]

/-- The lines of a repaired text are the repaired lines of the text. -/
theorem lines_repair (t : Text) : lines (repair t) = (lines t).map repair := by
  simp only [lines, trim_repair, List.isEmpty_iff, repair_eq_nil_iff, splitOn_unifyBreaks_repair]
  split <;> rfl

end LineMachine.Text
