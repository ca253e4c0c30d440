import LineMachine.Proofs.Text.Joining

/-!
# Texts and how their lines are laid out

A `Layout` is a text in its parts: the white space around it, its lines, and what stands between
two neighbours. The ways to end a line may be mixed.

The lines of a laid out text are the lines of the layout (`Layout.lines_text`), and every text that
is not blank has a layout (`exists_layout`).
-/

namespace LineMachine.Text

/-! ### White space around a text -/

/-- The text is made of white space. -/
def IsBlank (t : Text) : Prop := ∃ ws ⊆ spaces, t = ws.flatten

theorem strip_flatten_append {ws xs : List Text} (hfree : PrefixFree ws) (hne : [] ∉ ws)
    (hxs : xs ⊆ ws) (t : Text) : strip ws (xs.flatten ++ t) = strip ws t := by
  induction xs with
  | nil => rfl
  | cons x xs ih =>
      obtain ⟨hx, hxs⟩ := List.cons_subset.mp hxs
      rw [List.flatten_cons, List.append_assoc,
        strip_append hfree hx (ne_of_mem_of_not_mem hx hne), ih hxs]

theorem exists_strip {ws : List Text} (hfree : PrefixFree ws) (t : Text) :
    ∃ xs ⊆ ws, t = xs.flatten ++ strip ws t := by
  induction t using inductionOnStrip ws with
  | done t h => exact ⟨[], List.nil_subset ws, by rw [strip_eq_self h]; rfl⟩
  | word w t hw hne ih =>
      obtain ⟨xs, hxs, ht⟩ := ih
      refine ⟨w :: xs, List.cons_subset.mpr ⟨hw, hxs⟩, ?_⟩
      rw [strip_append hfree hw hne, List.flatten_cons, List.append_assoc, ← ht]

theorem not_nil_mem_map_reverse_spaces : [] ∉ spaces.map List.reverse := by decide

theorem trimLeft_flatten_append {ws : List Text} (hws : ws ⊆ spaces) (t : Text) :
    trimLeft (ws.flatten ++ t) = trimLeft t :=
  strip_flatten_append prefixFree_spaces not_nil_mem_spaces hws t

theorem trimRight_append_flatten {ws : List Text} (hws : ws ⊆ spaces) (t : Text) :
    trimRight (t ++ ws.flatten) = trimRight t := by
  have hreverse : (ws.map List.reverse).reverse ⊆ spaces.map List.reverse := by
    rw [List.reverse_subset]
    exact List.map_subset _ hws
  rw [trimRight, List.reverse_append, List.reverse_flatten,
    strip_flatten_append prefixFree_map_reverse_spaces not_nil_mem_map_reverse_spaces hreverse,
    trimRight]

theorem exists_trimLeft (t : Text) : ∃ ws ⊆ spaces, t = ws.flatten ++ trimLeft t :=
  exists_strip prefixFree_spaces t

theorem exists_trimRight (t : Text) : ∃ ws ⊆ spaces, t = trimRight t ++ ws.flatten := by
  obtain ⟨xs, hxs, ht⟩ := exists_strip prefixFree_map_reverse_spaces t.reverse
  refine ⟨(xs.map List.reverse).reverse, ?_, ?_⟩
  · intro w hw
    obtain ⟨x, hx, rfl⟩ := List.mem_map.mp (List.mem_reverse.mp hw)
    obtain ⟨v, hv, rfl⟩ := List.mem_map.mp (hxs hx)
    rwa [List.reverse_reverse]
  · rw [trimRight, ← List.reverse_flatten, ← List.reverse_append, ← ht, List.reverse_reverse]

/-- A text is white space, what is left when it is trimmed, and white space. -/
theorem exists_trim (t : Text) :
    ∃ ws ⊆ spaces, ∃ ws' ⊆ spaces, t = ws.flatten ++ trim t ++ ws'.flatten := by
  obtain ⟨ws, hws, ht⟩ := exists_trimLeft t
  obtain ⟨ws', hws', ht'⟩ := exists_trimRight (trimLeft t)
  exact ⟨ws, hws, ws', hws', by rw [List.append_assoc, trim, ← ht', ← ht]⟩

theorem trim_eq_nil_iff {t : Text} : trim t = [] ↔ IsBlank t := by
  constructor
  · intro h
    obtain ⟨ws, hws, ws', hws', ht⟩ := exists_trim t
    rw [h, List.append_nil, ← List.flatten_append] at ht
    exact ⟨ws ++ ws', List.append_subset.mpr ⟨hws, hws'⟩, ht⟩
  · rintro ⟨ws, hws, rfl⟩
    rw [trim, ← List.append_nil ws.flatten, trimLeft_flatten_append hws]
    simp [trimLeft, trimRight, strip]

theorem isTail_head?_flatten {ws : List Text} (hws : ws ⊆ spaces) :
    ∀ c ∈ ws.flatten.head?, isTail c = false := by
  cases ws with
  | nil => simp
  | cons w ws =>
      obtain ⟨_, hchar⟩ := exists_isCharacter_of_mem_spaces (hws List.mem_cons_self)
      exact hchar.isTail_head? ws.flatten

/-- White space around a text that has none at its ends is trimmed, and nothing else is. -/
theorem trim_flatten_append {ws ws' : List Text} {t : Text} (hws : ws ⊆ spaces)
    (hws' : ws' ⊆ spaces) (hstart : StartsInked t) (hend : EndsInked t) :
    trim (ws.flatten ++ t ++ ws'.flatten) = t := by
  have hleft : trimLeft (t ++ ws'.flatten) = t ++ ws'.flatten := by
    apply strip_eq_self
    intro w hw _ hstarts
    obtain ⟨_, hchar⟩ := exists_isCharacter_of_mem_spaces hw
    exact hstart.2 w hw (hchar.prefix_of_prefix_append hstart.1 (isTail_head?_flatten hws') hstarts)
  have htrim : trimRight t = t := by
    have hown := trim_eq_self hstart hend
    rwa [trim, trimLeft, strip_eq_self fun w hw _ => hstart.2 w hw] at hown
  rw [List.append_assoc, trim, trimLeft_flatten_append hws, hleft, trimRight_append_flatten hws',
    htrim]

/-! ### Layouts -/

/-- Every text is a first line and further lines, each behind the end of the one before. -/
theorem exists_laidOut (t : Text) : ∃ first rest,
    t = laidOut first rest ∧ (∀ p ∈ rest, p.1 ∈ lineEnds) ∧ rest.IsChain Apart ∧
      splitOn newline (unifyBreaks t) = first :: rest.map Prod.snd := by
  induction t using inductionOnLines with
  | last a ha =>
      exact ⟨a, [], (laidOut_nil a).symm, by simp, .nil, ha.splitOn_unifyBreaks⟩
  | line a w u ha hw ih =>
      obtain ⟨first, rest, rfl, hends, hapart, hlines⟩ := ih
      refine ⟨a, (w, first) :: rest, (laidOut_cons a w first rest).symm,
        List.forall_mem_cons.mpr ⟨hw.mem_lineEnds, hends⟩, ?_, ?_⟩
      · cases rest with
        | nil => exact .singleton _
        | cons p rest =>
            exact List.isChain_cons_cons.mpr ⟨hw.apart, hapart⟩
      · rw [ha.splitOn_unifyBreaks_append hw, hlines, List.map_cons]

/-- A text in its parts: white space, lines with what ends them in between, and white space. -/
structure Layout where
  before : List Text
  first : Text
  rest : List (Text × Text)
  after : List Text
  before_subset : before ⊆ spaces
  after_subset : after ⊆ spaces
  areLines : AreLines (first :: rest.map Prod.snd)
  ends : ∀ p ∈ rest, p.1 ∈ lineEnds
  apart : rest.IsChain Apart

namespace Layout

/-- The text that is laid out. -/
def text (L : Layout) : Text := L.before.flatten ++ laidOut L.first L.rest ++ L.after.flatten

/-- The lines that are laid out. -/
def lines (L : Layout) : List Text := L.first :: L.rest.map Prod.snd

theorem lines_text (L : Layout) : Text.lines L.text = L.lines := by
  have hstart := startsInked_laidOut L.areLines L.ends L.apart
  have hend := endsInked_laidOut L.areLines.last L.ends
  have htrim : trim L.text = trim (laidOut L.first L.rest) := by
    rw [text, trim_flatten_append L.before_subset L.after_subset hstart hend,
      trim_eq_self hstart hend]
  have hlines : Text.lines L.text = Text.lines (laidOut L.first L.rest) := by
    simp only [Text.lines, htrim]
  rw [hlines, lines_laidOut L.areLines L.ends L.apart, lines]

end Layout

theorem lines_eq_nil_iff {t : Text} : lines t = [] ↔ IsBlank t := by
  rw [← trim_eq_nil_iff, lines]
  by_cases hbody : trim t = []
  · simp [hbody]
  · simp [hbody, splitOn_ne_nil]

theorem exists_layout {t : Text} (ht : ¬ IsBlank t) : ∃ L : Layout, L.text = t := by
  obtain ⟨before, hbefore, after, hafter, hbody⟩ := exists_trim t
  obtain ⟨first, rest, hlaid, hends, hapart, hlines⟩ := exists_laidOut (trim t)
  have hlines : lines t = first :: rest.map Prod.snd := by
    rw [← hlines, lines]
    simp [trim_eq_nil_iff, ht]
  exact ⟨⟨before, first, rest, after, hbefore, hafter, hlines ▸ areLines_lines t, hends, hapart⟩,
    by rw [Layout.text, ← hlaid, ← hbody]⟩

/-- The lines of a text can be read from any layout of it, whatever ends the lines, and every text
that is not blank has one. A blank text has no lines, and no other text has none. Lines written with
line feeds between them are the same lines again. -/
theorem lines_eq_iff_exists_layout (t : Text) :
    (∀ ls, ls ≠ [] → (lines t = ls ↔ ∃ L : Layout, L.text = t ∧ L.lines = ls)) ∧
      (lines t = [] ↔ IsBlank t) ∧ lines (join [newline] (lines t)) = lines t := by
  refine ⟨fun ls hne => ⟨?_, ?_⟩, lines_eq_nil_iff, lines_join (areLines_lines t)⟩
  · rintro rfl
    obtain ⟨L, rfl⟩ := exists_layout (mt lines_eq_nil_iff.mpr hne)
    exact ⟨L, rfl, L.lines_text.symm⟩
  · rintro ⟨L, rfl, rfl⟩
    exact L.lines_text

end LineMachine.Text
