import LineMachine.Proofs.Text.Breaks
import Mathlib.Data.List.Chain

/-!
# Texts made of lines

`AreLines ls` says which lists of texts are the lines of a text. No line break stands in any of
them. There is something in the first and in the last one, and the whole neither starts nor ends
with white space; in between, lines may be blank.

The lines of every text are of this kind (`areLines_lines`). Lines of this kind are the lines of the
text that is made by writing something that ends a line between neighbours (`lines_laidOut`), and
each time a line feed will do (`lines_join`). Only a carriage return, an empty line and a line feed
may not follow each other, because the two would be read as one end.
-/

namespace LineMachine.Text

/-- There is something in the text, and it does not start with white space. -/
def StartsInked (t : Text) : Prop := t ≠ [] ∧ ∀ w ∈ spaces, ¬ w <+: t

/-- There is something in the text, and it does not end with white space. -/
def EndsInked (t : Text) : Prop := t ≠ [] ∧ ∀ w ∈ spaces, ¬ w <:+ t

/-- The texts are the lines of a text. -/
structure AreLines (ls : List Text) : Prop where
  breakFree : ∀ l ∈ ls, BreakFree l
  first : ∀ l ∈ ls.head?, StartsInked l
  last : ∀ l ∈ ls.getLast?, EndsInked l

/-! ### The lines of a text -/

theorem EndsLine.exists_prefix {w u : Text} (h : EndsLine w u) : ∃ v ∈ spaces, v <+: w := by
  rcases h with rfl | ⟨hw, -⟩
  · exact ⟨[0x0D], by decide, by decide⟩
  · exact ⟨w, breaks_subset_spaces hw, List.prefix_refl w⟩

theorem EndsLine.exists_suffix {w u : Text} (h : EndsLine w u) : ∃ v ∈ spaces, v <:+ w := by
  rcases h with rfl | ⟨hw, -⟩
  · exact ⟨[0x0A], by decide, by decide⟩
  · exact ⟨w, breaks_subset_spaces hw, List.suffix_refl w⟩

theorem breakFree_of_mem_splitOn_unifyBreaks {t l : Text}
    (h : l ∈ splitOn newline (unifyBreaks t)) : BreakFree l := by
  induction t using inductionOnLines with
  | last a ha =>
      rw [ha.splitOn_unifyBreaks, List.mem_singleton] at h
      rwa [h]
  | line a w u ha hw ih =>
      rw [ha.splitOn_unifyBreaks_append hw, List.mem_cons] at h
      rcases h with rfl | hrest
      · exact ha
      · exact ih hrest

theorem StartsInked.head?_splitOn_unifyBreaks {t l : Text} (ht : StartsInked t)
    (h : l ∈ (splitOn newline (unifyBreaks t)).head?) : StartsInked l := by
  rcases exists_first_break t with hfree | ⟨a, w, u, rfl, ha, -, hw⟩
  · rw [hfree.splitOn_unifyBreaks, List.head?_cons, Option.mem_some_iff] at h
    rwa [← h]
  · rw [ha.splitOn_unifyBreaks_append hw, List.head?_cons, Option.mem_some_iff] at h
    subst h
    rw [List.append_assoc] at ht
    refine ⟨?_, fun v hv hstarts => ht.2 v hv (hstarts.trans (List.prefix_append a _))⟩
    -- Without a first line the text would start with the break that ends it.
    rintro rfl
    obtain ⟨v, hv, hstarts⟩ := hw.exists_prefix
    exact ht.2 v hv (hstarts.trans (List.prefix_append w u))

theorem EndsInked.getLast?_splitOn_unifyBreaks {t l : Text} (ht : EndsInked t)
    (h : l ∈ (splitOn newline (unifyBreaks t)).getLast?) : EndsInked l := by
  induction t using inductionOnLines with
  | last a ha =>
      rw [ha.splitOn_unifyBreaks, List.getLast?_singleton, Option.mem_some_iff] at h
      rwa [← h]
  | line a w u ha hw ih =>
      have hu : EndsInked u := by
        refine ⟨?_, fun v hv hends => ht.2 v hv (hends.trans (List.suffix_append _ u))⟩
        rintro rfl
        obtain ⟨v, hv, hends⟩ := hw.exists_suffix
        rw [List.append_nil] at ht
        exact ht.2 v hv (hends.trans (List.suffix_append a w))
      rw [ha.splitOn_unifyBreaks_append hw,
        List.getLast?_cons_of_ne_nil (splitOn_ne_nil _ _)] at h
      exact ih hu h

theorem areLines_lines (t : Text) : AreLines (lines t) := by
  by_cases hbody : trim t = []
  · rw [lines, hbody]
    exact ⟨by simp, by simp, by simp⟩
  · have hlines : lines t = splitOn newline (unifyBreaks (trim t)) := by simp [lines, hbody]
    have hstart : StartsInked (trim t) := ⟨hbody, fun w hw => not_prefix_trim hw t⟩
    have hend : EndsInked (trim t) := ⟨hbody, fun w hw => not_suffix_trim hw t⟩
    rw [hlines]
    exact ⟨fun l => breakFree_of_mem_splitOn_unifyBreaks, fun l => hstart.head?_splitOn_unifyBreaks,
      fun l => hend.getLast?_splitOn_unifyBreaks⟩

/-! ### The text of some lines -/

theorem StartsInked.append {a w u : Text} (h : StartsInked a) (hw : EndsLine w u) :
    StartsInked (a ++ w ++ u) := by
  rw [List.append_assoc]
  refine ⟨List.append_ne_nil_of_left_ne_nil h.1 _, fun v hv hstarts => ?_⟩
  obtain ⟨_, hchar⟩ := exists_isCharacter_of_mem_spaces hv
  exact h.2 v hv (hchar.prefix_of_prefix_append h.1 hw.isTail_head? hstarts)

theorem EndsInked.append {u w : Text} (h : EndsInked u) (hw : w ∈ breaks) (a : Text) :
    EndsInked (a ++ w ++ u) := by
  refine ⟨List.append_ne_nil_of_right_ne_nil _ h.1, fun v hv hends => ?_⟩
  obtain ⟨_, hchar⟩ := exists_isCharacter_of_mem_spaces hv
  obtain ⟨_, hbreak⟩ := exists_isCharacter_of_mem_breaks hw
  exact h.2 v hv (hchar.suffix_of_suffix_append hbreak h.1 hends)

theorem newline_mem_breaks : [newline] ∈ breaks := by decide

/-- The ways to end a line. -/
def lineEnds : List Text := [0x0D, 0x0A] :: breaks

/-- The ends of two lines, each with the line behind it, are not read as one. -/
def Apart (p q : Text × Text) : Prop := p.1 = [0x0D] → p.2 = [] → q.1 ≠ [0x0A]

/-- The text of a first line and of further lines, each with the end of the line before it. -/
def laidOut (first : Text) (rest : List (Text × Text)) : Text :=
  first ++ rest.flatMap fun p => p.1 ++ p.2

@[simp] theorem laidOut_nil (first : Text) : laidOut first [] = first := List.append_nil first

theorem laidOut_cons (first w l : Text) (rest : List (Text × Text)) :
    laidOut first ((w, l) :: rest) = first ++ w ++ laidOut l rest := by
  simp [laidOut]

theorem EndsLine.mem_lineEnds {w u : Text} (h : EndsLine w u) : w ∈ lineEnds :=
  List.mem_cons.mpr (h.imp_right And.left)

theorem EndsInked.append_lineEnd {u w : Text} (h : EndsInked u) (hw : w ∈ lineEnds) (a : Text) :
    EndsInked (a ++ w ++ u) := by
  rcases List.mem_cons.mp hw with rfl | hw
  · have hfeed := h.append newline_mem_breaks (a ++ [0x0D])
    rwa [List.append_assoc a] at hfeed
  · exact h.append hw a

theorem newline_prefix_lineEnd {w u : Text} (hw : w ∈ lineEnds) (h : [newline] <+: w ++ u) :
    w = [newline] := by
  have hall : ∀ w ∈ lineEnds, w.head? = some newline → w = [newline] := by decide
  have hne : ∀ w ∈ lineEnds, w ≠ [] := by decide
  apply hall w hw
  obtain ⟨b, v, rfl⟩ := List.exists_cons_of_ne_nil (hne w hw)
  rw [List.cons_append, List.cons_prefix_cons] at h
  rw [h.1, List.head?_cons]

section

variable {first w l : Text} {rest : List (Text × Text)}

theorem endsLine_laidOut (hw : w ∈ lineEnds) (hl : BreakFree l)
    (hends : ∀ p ∈ rest, p.1 ∈ lineEnds) (hapart : ((w, l) :: rest).IsChain Apart) :
    EndsLine w (laidOut l rest) := by
  refine (List.mem_cons.mp hw).imp_right fun hw => ⟨hw, fun hreturn hfeed => ?_⟩
  cases l with
  | cons b l =>
      rw [laidOut, List.cons_append, List.cons_prefix_cons] at hfeed
      exact hl.newline_not_mem (hfeed.1 ▸ List.mem_cons_self)
  | nil =>
      cases rest with
      | nil => simp at hfeed
      | cons p rest =>
          rw [laidOut_cons, List.nil_append] at hfeed
          have hp := newline_prefix_lineEnd (hends p List.mem_cons_self) hfeed
          exact (List.isChain_cons_cons.mp hapart).1 hreturn rfl hp

theorem EndsLine.apart {p : Text × Text} (h : EndsLine w (laidOut l (p :: rest))) :
    Apart (w, l) p := by
  rintro rfl rfl hp
  rcases h with hboth | ⟨-, hfeed⟩
  · cases hboth
  · apply hfeed rfl
    rw [laidOut_cons, List.nil_append, hp]
    exact List.prefix_append _ _

theorem splitOn_unifyBreaks_laidOut (hfree : ∀ l ∈ first :: rest.map Prod.snd, BreakFree l)
    (hends : ∀ p ∈ rest, p.1 ∈ lineEnds) (hapart : rest.IsChain Apart) :
    splitOn newline (unifyBreaks (laidOut first rest)) = first :: rest.map Prod.snd := by
  induction rest generalizing first with
  | nil =>
      rw [laidOut_nil]
      exact (hfree first List.mem_cons_self).splitOn_unifyBreaks
  | cons p rest ih =>
      obtain ⟨w, l⟩ := p
      obtain ⟨hfirst, hfree⟩ := List.forall_mem_cons.mp hfree
      obtain ⟨hw, hends⟩ := List.forall_mem_cons.mp hends
      have hl := hfree l List.mem_cons_self
      rw [laidOut_cons,
        hfirst.splitOn_unifyBreaks_append (endsLine_laidOut hw hl hends hapart),
        ih hfree hends hapart.of_cons, List.map_cons]

theorem endsInked_laidOut (hlast : ∀ l ∈ (first :: rest.map Prod.snd).getLast?, EndsInked l)
    (hends : ∀ p ∈ rest, p.1 ∈ lineEnds) : EndsInked (laidOut first rest) := by
  induction rest generalizing first with
  | nil =>
      rw [laidOut_nil]
      exact hlast first rfl
  | cons p rest ih =>
      obtain ⟨hw, hends⟩ := List.forall_mem_cons.mp hends
      rw [laidOut_cons]
      exact (ih hlast hends).append_lineEnd hw first

theorem startsInked_laidOut (h : AreLines (first :: rest.map Prod.snd))
    (hends : ∀ p ∈ rest, p.1 ∈ lineEnds) (hapart : rest.IsChain Apart) :
    StartsInked (laidOut first rest) := by
  have hfirst := h.first first rfl
  cases rest with
  | nil => rwa [laidOut_nil]
  | cons p rest =>
      obtain ⟨hw, hends⟩ := List.forall_mem_cons.mp hends
      have hl := h.breakFree p.2 (List.mem_cons_of_mem _ List.mem_cons_self)
      rw [laidOut_cons]
      exact hfirst.append (endsLine_laidOut hw hl hends hapart)

end

theorem trim_eq_self {t : Text} (hstart : StartsInked t) (hend : EndsInked t) : trim t = t := by
  have hleft : trimLeft t = t := strip_eq_self fun w hw _ => hstart.2 w hw
  rw [trim, hleft, trimRight, strip_eq_self, List.reverse_reverse]
  intro v hv _ hstarts
  obtain ⟨w, hw, rfl⟩ := List.mem_map.mp hv
  exact hend.2 w hw (List.reverse_prefix.mp hstarts)

@[simp] theorem lines_nil : lines [] = [] := by
  simp [lines, trim, trimLeft, trimRight, strip]

theorem lines_laidOut {first : Text} {rest : List (Text × Text)}
    (h : AreLines (first :: rest.map Prod.snd)) (hends : ∀ p ∈ rest, p.1 ∈ lineEnds)
    (hapart : rest.IsChain Apart) : lines (laidOut first rest) = first :: rest.map Prod.snd := by
  have hstart := startsInked_laidOut h hends hapart
  simp only [lines, trim_eq_self hstart (endsInked_laidOut h.last hends), List.isEmpty_iff,
    hstart.1, if_false, splitOn_unifyBreaks_laidOut h.breakFree hends hapart]

theorem join_cons_eq_laidOut (w l : Text) (ls : List Text) :
    join w (l :: ls) = laidOut l (ls.map (w, ·)) := by
  induction ls generalizing l with
  | nil => simp
  | cons l' ls ih => rw [join_cons _ _ (List.cons_ne_nil l' ls), ih, List.map_cons, laidOut_cons]

theorem lines_join {ls : List Text} (h : AreLines ls) : lines (join [newline] ls) = ls := by
  cases ls with
  | nil => rw [join_nil, lines_nil]
  | cons l ls =>
      have hlines : (ls.map ([newline], ·)).map Prod.snd = ls := by simp [Function.comp_def]
      have hends : ∀ p ∈ ls.map ([newline], ·), p.1 ∈ lineEnds := by simp [lineEnds, breaks]
      have hapart : (ls.map ([newline], ·)).IsChain Apart := by
        have hfeed : [newline] ≠ [0x0D] := by decide
        rw [List.isChain_map]
        exact (List.pairwise_of_forall fun _ _ hreturn => absurd hreturn hfeed).isChain
      rw [join_cons_eq_laidOut, lines_laidOut (hlines.symm ▸ h) hends hapart, hlines]

end LineMachine.Text
