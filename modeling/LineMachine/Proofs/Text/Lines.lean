import LineMachine.Text.Lines

/-!
# How many lines a text has

A text has far fewer lines than bytes. Its two ends are trimmed, so neither its first nor its last
byte belongs to a line break, and a text with more than one line has at least two bytes more than
line breaks (`length_lines`).

The lemmas on `strip` and `trim` say what is left of a text: a part of it that does not start, and
after `trim` does not end, with white space.
-/

namespace LineMachine.Text

theorem strip_suffix (ws : List Text) (t : Text) : strip ws t <:+ t := by
  fun_induction strip ws t with
  | case1 => exact List.suffix_refl _
  | case2 b t w hw ih =>
      exact (ih.trans (List.drop_suffix _ _)).trans (List.suffix_cons b t)
  | case3 b t hw => exact List.suffix_refl _

/-- What is left after stripping does not start with one of the words. -/
theorem not_prefix_strip {ws : List Text} {w : Text} (hw : w ∈ ws) (hne : w ≠ []) (t : Text) :
    ¬ w <+: strip ws t := by
  fun_induction strip ws t with
  | case1 => rwa [List.prefix_nil]
  | case2 b t w' hw' ih => exact ih
  | case3 b t hnone =>
      intro hstarts
      have hw' := List.find?_eq_none.mp hnone w hw
      simp [hne, hstarts] at hw'

theorem not_nil_mem_spaces : [] ∉ spaces := by decide

theorem trim_prefix_trimLeft (t : Text) : trim t <+: trimLeft t := by
  rw [trim, trimRight, ← List.reverse_suffix, List.reverse_reverse]
  exact strip_suffix _ _

theorem length_trim_le (t : Text) : (trim t).length ≤ t.length :=
  Nat.le_trans (trim_prefix_trimLeft t).length_le (strip_suffix spaces t).length_le

theorem not_prefix_trim {w : Text} (hw : w ∈ spaces) (t : Text) : ¬ w <+: trim t := by
  intro hstarts
  have hne : w ≠ [] := ne_of_mem_of_not_mem hw not_nil_mem_spaces
  exact not_prefix_strip hw hne t (hstarts.trans (trim_prefix_trimLeft t))

theorem not_suffix_trim {w : Text} (hw : w ∈ spaces) (t : Text) : ¬ w <:+ trim t := by
  intro hsuffix
  have hne : w.reverse ≠ [] := by
    rw [Ne, List.reverse_eq_nil_iff]
    exact ne_of_mem_of_not_mem hw not_nil_mem_spaces
  rw [trim, trimRight, ← List.reverse_prefix, List.reverse_reverse] at hsuffix
  exact not_prefix_strip (List.mem_map_of_mem hw) hne _ hsuffix

/-- Line breaks are white space. -/
theorem exists_space_of_breakStep {b : UInt8} {t : Text} (h : (breakStep b t).1 = newline) :
    ∃ w ∈ spaces, w <+: b :: t := by
  unfold breakStep at h
  split at h
  · exact ⟨[0x0D], by decide, by simp⟩
  · exact ⟨[0x0D], by decide, by simp⟩
  · exact ⟨[0xC2, 0x85], by decide, by simp⟩
  · exact ⟨[0xE2, 0x80, 0xA8], by decide, by simp⟩
  · exact ⟨[0xE2, 0x80, 0xA9], by decide, by simp⟩
  · exact ⟨[0x0A], by decide, by simp_all⟩

/-- The last byte of a text that does not end with white space belongs to no line break. -/
theorem count_newline_scan_go_lt {t : Text} (hne : t ≠ []) (hend : ∀ w ∈ spaces, ¬ w <:+ t)
    (k : Nat) : (scan.go breakStep [] k t).count newline < t.length := by
  induction t generalizing k with
  | nil => exact absurd rfl hne
  | cons b t ih =>
      have htail : t ≠ [] → ∀ k, (scan.go breakStep [] k t).count newline < t.length :=
        fun ht => ih ht fun w hw hsuffix => hend w hw (hsuffix.trans (List.suffix_cons b t))
      cases k with
      | succ k =>
          rw [scan.go]
          by_cases ht : t = []
          · simp [ht, scan.go]
          · exact Nat.lt_succ_of_lt (htail ht k)
      | zero =>
          rw [scan_go_zero_cons, List.count_cons, List.length_cons]
          by_cases ht : t = []
          · subst ht
            have hb : (breakStep b []).1 ≠ newline := by
              intro hbreak
              obtain ⟨w, hw, rest, hrest⟩ := exists_space_of_breakStep hbreak
              rcases List.append_eq_singleton_iff.mp hrest with ⟨rfl, -⟩ | ⟨rfl, -⟩
              · exact not_nil_mem_spaces hw
              · exact hend _ hw (List.suffix_refl _)
            simp [hb, scan.go]
          · have hlt := htail ht (breakStep b t).2
            split <;> omega

theorem length_splitOn (sep : UInt8) (t : Text) :
    (splitOn sep t).length = t.count sep + 1 := by
  induction t with
  | nil => rfl
  | cons b t ih =>
      rw [splitOn_cons, List.count_cons]
      by_cases hb : b = sep
      · simp [hb, ih]
      · cases hparts : splitOn sep t with
        | nil => simp [hparts] at ih
        | cons p ps =>
            rw [hparts] at ih
            simpa [hb] using ih

/-- A text with more than one line has at least one byte more than lines. -/
theorem length_lines (t : Text) : (lines t).length ≤ 1 ∨ (lines t).length < t.length := by
  simp only [lines]
  cases hbody : trim t with
  | nil => simp
  | cons b rest =>
      have hlength : rest.length + 1 ≤ t.length := by
        rw [← List.length_cons, ← hbody]
        exact length_trim_le t
      have hfirst : (breakStep b rest).1 ≠ newline := by
        intro hbreak
        obtain ⟨w, hw, hstarts⟩ := exists_space_of_breakStep hbreak
        exact not_prefix_trim hw t (hbody ▸ hstarts)
      have hcount : (unifyBreaks (b :: rest)).count newline =
          (scan.go breakStep [] (breakStep b rest).2 rest).count newline := by
        rw [unifyBreaks, scan, scan_go_zero_cons, List.count_cons_of_ne hfirst]
      rw [List.isEmpty_cons, if_neg Bool.false_ne_true, length_splitOn, hcount]
      by_cases hrest : rest = []
      · left
        simp [hrest, scan.go]
      · right
        have hend : ∀ w ∈ spaces, ¬ w <:+ rest := fun w hw hsuffix =>
          not_suffix_trim hw t (hbody ▸ hsuffix.trans (List.suffix_cons b rest))
        have hlt := count_newline_scan_go_lt hrest hend (breakStep b rest).2
        omega

end LineMachine.Text
