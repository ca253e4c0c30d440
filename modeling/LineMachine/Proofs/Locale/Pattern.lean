import LineMachine.Locale.Pattern
import LineMachine.Proofs.Text.Characters

/-!
# Filling a pattern

A pattern whose places are all `%v` is filled one place after the other, and all that stands between
the places is kept. A `Template` is such a pattern cut at its places, together with the arguments
that they take; the locale matters only to the integers among these.
-/

namespace LineMachine

theorem Text.ascii_append (s t : String) : ascii (s ++ t) = ascii s ++ ascii t := by
  simp [ascii]

theorem Text.pieces_cons_of_isAscii {b : UInt8} (h : isAscii b = true) (t : Text) :
    pieces (b :: t) = .scalar b.toNat [b] :: pieces t := by
  have hfirst : firstScalar b t = some (b.toNat, 0) := by
    unfold firstScalar
    rw [if_pos (of_decide_eq_true h)]
  rw [pieces_cons_of_eq_some hfirst, List.take_zero, List.drop_zero]

namespace Locale

/-- The text stands in a pattern for itself. -/
def isLiteral (t : Text) : Bool := t.all fun b => Text.isAscii b && b != Text.byte '%'

/-- Fill the places of the rest of a pattern. -/
def fillRest (l : Locale) (taken : Bool) (args : List Argument) (rest : Text) : Text :=
  fillPieces l taken args ((Text.pieces rest).map Text.Piece.bytes)

variable (l : Locale) (taken : Bool) (args : List Argument)

theorem fillPieces_cons {p : Text} (hp : p ≠ Text.ascii "%") (ps : List Text) :
    fillPieces l taken args (p :: ps) = p ++ fillPieces l taken args ps := by
  cases ps with
  | nil => simp [fillPieces, hp]
  | cons verb ps => simp [fillPieces, hp]

theorem fillRest_nil (taken : Bool) : fillRest l taken [] [] = [] := by
  rw [fillRest, Text.pieces_nil, List.map_nil, fillPieces, leftover, List.isEmpty_nil,
    Bool.not_true, Bool.and_false, if_neg Bool.false_ne_true]

theorem fillRest_literal {t : Text} (h : isLiteral t = true) (rest : Text) :
    fillRest l taken args (t ++ rest) = t ++ fillRest l taken args rest := by
  induction t with
  | nil => rfl
  | cons b t ih =>
      rw [isLiteral, List.all_cons, Bool.and_eq_true, Bool.and_eq_true, bne_iff_ne] at h
      have hb : [b] ≠ Text.ascii "%" := fun heq => h.1.2 (List.cons.inj heq).1
      rw [List.cons_append, fillRest, Text.pieces_cons_of_isAscii h.1.1, List.map_cons,
        Text.Piece.bytes, fillPieces_cons l taken args hb, ← fillRest, ih h.2]
      rfl

theorem fillRest_place (a : Argument) (rest : Text) :
    fillRest l taken (a :: args) (Text.ascii "%v" ++ rest) =
      a.plain l ++ fillRest l true args rest := by
  have hpieces : Text.pieces (Text.ascii "%v" ++ rest) =
      .scalar 37 (Text.ascii "%") :: .scalar 118 (Text.ascii "v") :: Text.pieces rest := by
    change Text.pieces (37 :: 118 :: rest) = _
    rw [Text.pieces_cons_of_isAscii (by decide), Text.pieces_cons_of_isAscii (by decide)]
    rfl
  have hfill : fill l (Text.ascii "v") a = a.plain l := by
    have hfits : a.fits (Text.ascii "v") = true := by cases a <;> rfl
    rw [fill, if_pos hfits]
  rw [fillRest, hpieces, List.map_cons, List.map_cons, Text.Piece.bytes, Text.Piece.bytes,
    fillPieces, if_pos rfl, if_neg (by decide), hfill, fillRest]

/-- A pattern cut at its places: what stands in front, and each argument with what stands behind its
place. -/
structure Template where
  front : Text
  places : List (Argument × Text)

namespace Template

/-- The pattern with its places. -/
def pattern (t : Template) : Text :=
  t.front ++ t.places.flatMap fun place => Text.ascii "%v" ++ place.2

def arguments (t : Template) : List Argument := t.places.map Prod.fst

/-- The message, with the arguments in their places. -/
def written (l : Locale) (t : Template) : Text :=
  t.front ++ t.places.flatMap fun place => place.1.plain l ++ place.2

/-- All that stands between the places is kept. -/
def isPlain (t : Template) : Bool :=
  isLiteral t.front && t.places.all fun place => isLiteral place.2

theorem format_pattern (l : Locale) {t : Template} (h : t.isPlain = true) :
    format l t.pattern t.arguments = t.written l := by
  obtain ⟨front, places⟩ := t
  rw [isPlain, Bool.and_eq_true, List.all_eq_true] at h
  have hplaces : ∀ taken, fillRest l taken (places.map Prod.fst)
      (places.flatMap fun place => Text.ascii "%v" ++ place.2) =
        places.flatMap fun place => place.1.plain l ++ place.2 := by
    have hliteral := h.2
    clear h
    induction places with
    | nil => exact fillRest_nil l
    | cons place places ih =>
        intro taken
        rw [List.flatMap_cons, List.flatMap_cons, List.map_cons, List.append_assoc,
          fillRest_place, fillRest_literal l _ _ (hliteral place List.mem_cons_self),
          ih (fun place hplace => hliteral place (List.mem_cons_of_mem _ hplace)),
          List.append_assoc]
  exact (fillRest_literal l false _ h.1 _).trans (congrArg (front ++ ·) (hplaces false))

/-- An integer among the arguments is written as the locale says. -/
example : format english (Text.ascii "Line %v") [.int 10001] = Text.ascii "Line 10,001" := by
  decide

end Template

end Locale

end LineMachine
