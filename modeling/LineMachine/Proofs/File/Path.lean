import LineMachine.File.Path
import LineMachine.Proofs.Text.Characters
import Mathlib.Data.List.Induction

/-!
# Elements of paths

A cleaned path is determined by whether it is rooted and by the elements that remain. `canonical`
puts the two together, and `clean`, `join` and chains of `join` are described through it: joining
adds the elements of a name at the end and changes nothing before them (`join_eq_canonical`), so a
name may be joined at once or element by element.
-/

namespace LineMachine.Path

/-! ### Elements -/

theorem elements_ne_nil (p : Text) : elements p ≠ [] :=
  Text.splitOn_ne_nil slash p

theorem ofElements_elements (p : Text) : ofElements (elements p) = p := by
  rw [elements, Text.splitOn_eq]
  exact List.intercalate_splitOn _

theorem elements_injective : Function.Injective elements := by
  intro p q h
  rw [← ofElements_elements p, h, ofElements_elements]

theorem elements_ofElements {es : List Text} (h : ∀ e ∈ es, slash ∉ e) (hne : es ≠ []) :
    elements (ofElements es) = es :=
  Text.splitOn_join h hne

theorem elements_append_slash (p q : Text) :
    elements (p ++ slash :: q) = elements p ++ elements q := by
  rw [elements, elements, elements, Text.splitOn_eq, Text.splitOn_eq, Text.splitOn_eq,
    List.splitOn_append_cons_self]

theorem dropLast_elements_append (p : Text) : (elements p).dropLast ++ [base p] = elements p := by
  rw [base, List.getLastD_eq_getLast?, List.getLast?_eq_some_getLast (elements_ne_nil p),
    Option.getD_some, List.dropLast_concat_getLast]

theorem slash_not_mem {p e : Text} (h : e ∈ elements p) : slash ∉ e :=
  Text.not_mem_of_mem_splitOn h

@[simp] theorem ofElements_singleton (e : Text) : ofElements [e] = e := Text.join_singleton _ _

theorem ofElements_cons (e : Text) {es : List Text} (h : es ≠ []) :
    ofElements (e :: es) = e ++ slash :: ofElements es := by
  rw [ofElements, Text.join_cons _ _ h, List.append_assoc, List.singleton_append, ofElements]

theorem ofElements_append {es es' : List Text} (h : es ≠ []) (h' : es' ≠ []) :
    ofElements (es ++ es') = ofElements es ++ slash :: ofElements es' := by
  induction es, h using List.recNeNil with
  | singleton e => rw [List.singleton_append, ofElements_cons e h', ofElements_singleton]
  | cons e es hne ih =>
      rw [List.cons_append, ofElements_cons e (List.append_ne_nil_of_left_ne_nil hne _), ih,
        ofElements_cons e hne, List.append_assoc, List.cons_append]

/-! ### Splitting -/

theorem split_append {folder name : Text} (hfolder : folder = [] ∨ folder.getLast? = some slash)
    (hname : slash ∉ name) : split (folder ++ name) = (folder, name) := by
  have hall : ∀ b ∈ name.reverse, (b != slash) = true := by
    intro b hb
    rw [bne_iff_ne]
    rintro rfl
    exact hname (List.mem_reverse.mp hb)
  have hstop : folder.reverse.takeWhile (· != slash) = [] := by
    rcases hfolder with rfl | hlast
    · rfl
    · obtain ⟨front, rfl⟩ := List.getLast?_eq_some_iff.mp hlast
      rw [List.reverse_append, List.reverse_singleton, List.singleton_append]
      exact List.takeWhile_cons_of_neg (by simp)
  have hlast : ((folder ++ name).reverse.takeWhile (· != slash)).reverse = name := by
    rw [List.reverse_append, List.takeWhile_append_of_pos hall, hstop, List.append_nil,
      List.reverse_reverse]
  rw [split, hlast, List.length_append, Nat.add_sub_cancel, List.take_left]

/-- A path is its folder and its name. The folder is empty or ends with a slash. -/
theorem exists_split (p : Text) : ∃ folder name, p = folder ++ name ∧ slash ∉ name ∧
    (folder = [] ∨ folder.getLast? = some slash) ∧ split p = (folder, name) := by
  suffices h : ∃ folder name, p = folder ++ name ∧ slash ∉ name ∧
      (folder = [] ∨ folder.getLast? = some slash) by
    obtain ⟨folder, name, rfl, hname, hfolder⟩ := h
    exact ⟨folder, name, rfl, hname, hfolder, split_append hfolder hname⟩
  have hp := dropLast_elements_append p
  have hname : slash ∉ base p := by
    apply slash_not_mem (p := p)
    rw [← hp]
    exact List.mem_append_right _ List.mem_cons_self
  by_cases hfront : (elements p).dropLast = []
  · rw [hfront, List.nil_append] at hp
    exact ⟨[], base p, by rw [List.nil_append, ← ofElements_singleton (base p), hp,
      ofElements_elements], hname, .inl rfl⟩
  · have hjoin := ofElements_append hfront (List.cons_ne_nil (base p) [])
    rw [hp, ofElements_elements, ofElements_singleton] at hjoin
    refine ⟨ofElements (elements p).dropLast ++ [slash], base p, ?_, hname, .inr ?_⟩
    · rw [List.append_assoc, List.singleton_append]
      exact hjoin
    · exact List.getLast?_concat

/-! ### Names -/

theorem isElement_iff {e : Text} : isElement e = true ↔ e ≠ [] ∧ e ≠ dot ∧ e ≠ dotDot := by
  simp [isElement, and_assoc]

/-- The elements of a name do not lead up or stay where they are. -/
theorem isElement_of_mem_elements {name e : Text} (hname : isName name = true) (hdot : name ≠ dot)
    (h : e ∈ elements name) : isElement e = true := by
  simp only [isName, Bool.and_eq_true, Bool.or_eq_true, beq_iff_eq, hdot, false_or,
    List.all_eq_true] at hname
  exact hname.2 e h

theorem isCharacter_slash : Text.IsCharacter 0x2F [slash] := ⟨slash, [], rfl, by decide⟩

theorem isUtf8_append_slash (p q : Text) :
    Text.isUtf8 (p ++ slash :: q) = (Text.isUtf8 p && Text.isUtf8 q) := by
  have hcut := isCharacter_slash.isTail_head? q
  have hpieces := isCharacter_slash.pieces_append_left q
  rw [List.singleton_append] at hcut hpieces
  rw [Text.isUtf8, Text.pieces_append p hcut, hpieces, List.all_append, List.all_cons,
    Text.Piece.isScalar, Bool.true_and, Text.isUtf8, Text.isUtf8]

theorem isUtf8_of_mem {es : List Text} {e : Text} (h : Text.isUtf8 (ofElements es) = true)
    (he : e ∈ es) : Text.isUtf8 e = true := by
  induction es with
  | nil => cases he
  | cons f es ih =>
      by_cases hes : es = []
      · rw [hes, List.mem_singleton] at he
        rwa [hes, ofElements_singleton, ← he] at h
      · rw [ofElements_cons f hes, isUtf8_append_slash, Bool.and_eq_true] at h
        rcases List.mem_cons.mp he with rfl | he
        · exact h.1
        · exact ih h.2 he

theorem elements_of_not_mem {e : Text} (h : slash ∉ e) : elements e = [e] :=
  Text.splitOn_of_not_mem h

/-- A name with one element. -/
structure IsSimple (e : Text) : Prop where
  isName : isName e = true
  ne_dot : e ≠ dot
  elements_eq : elements e = [e]

theorem IsSimple.isElement {e : Text} (h : IsSimple e) : isElement e = true :=
  isElement_of_mem_elements h.isName h.ne_dot (by rw [h.elements_eq]; exact List.mem_cons_self)

theorem isSimple_of_mem_elements {name e : Text} (hname : isName name = true) (hdot : name ≠ dot)
    (h : e ∈ elements name) : IsSimple e := by
  have helement := isElement_of_mem_elements hname hdot h
  have helements := elements_of_not_mem (slash_not_mem h)
  have hutf8 : Text.isUtf8 e = true := by
    rw [isName, Bool.and_eq_true, ← ofElements_elements name] at hname
    exact isUtf8_of_mem hname.1 h
  refine ⟨?_, (isElement_iff.mp helement).2.1, helements⟩
  rw [isName, hutf8, helements, List.all_cons, helement]
  rw [List.all_nil, Bool.and_true, Bool.or_true, Bool.and_true]

theorem isSimple_base {name : Text} (hname : isName name = true) (hdot : name ≠ dot) :
    IsSimple (base name) := by
  apply isSimple_of_mem_elements hname hdot
  rw [← dropLast_elements_append name]
  exact List.mem_append_right _ List.mem_cons_self

/-! ### Cleaned paths -/

/-- The path with these elements, from the root of the whole file system or not. -/
def canonical (rooted : Bool) (es : List Text) : Text :=
  if rooted then slash :: ofElements es else if es.isEmpty then dot else ofElements es

theorem clean_eq_canonical (p : Text) : clean p = canonical (isRooted p) (cleanElements p) := by
  rw [clean, canonical]
  cases cleanElements p <;> rfl

theorem ne_nil_of_clean_eq {p : Text} (h : clean p = p) : p ≠ [] := by
  rintro rfl
  cases h

theorem cleanStep_of_isElement {e : Text} (h : isElement e = true) (rooted : Bool)
    (done : List Text) : cleanStep rooted done e = e :: done := by
  obtain ⟨hempty, hdot, hdotDot⟩ := isElement_iff.mp h
  simp [cleanStep, hempty, hdot, hdotDot]

theorem foldl_cleanStep_of_isElement {es : List Text} (h : ∀ e ∈ es, isElement e = true)
    (rooted : Bool) (done : List Text) :
    es.foldl (cleanStep rooted) done = es.reverse ++ done := by
  induction es generalizing done with
  | nil => rfl
  | cons e es ih =>
      rw [List.foldl_cons, cleanStep_of_isElement (h e List.mem_cons_self),
        ih fun e he => h e (List.mem_cons_of_mem _ he), List.reverse_cons, List.append_assoc,
        List.singleton_append]

/-- What cleaning does with one more element: it skips the element, or stays at the root, or takes
the last element away, or keeps the new one. -/
theorem cleanStep_cases (rooted : Bool) (es : List Text) (e : Text) :
    ((e = [] ∨ e = dot) ∧ cleanStep rooted es.reverse e = es.reverse) ∨
      (rooted = true ∧ es = [] ∧ e = dotDot ∧ cleanStep rooted es.reverse e = []) ∨
      (∃ front last, es = front ++ [last] ∧ last ≠ dotDot ∧ e = dotDot ∧
        cleanStep rooted es.reverse e = front.reverse) ∨
      (e ≠ [] ∧ e ≠ dot ∧ cleanStep rooted es.reverse e = e :: es.reverse) := by
  by_cases hskip : e = [] ∨ e = dot
  · exact .inl ⟨hskip, by rcases hskip with rfl | rfl <;> simp [cleanStep]⟩
  obtain ⟨hempty, hdot⟩ := not_or.mp hskip
  by_cases hup : e = dotDot
  · subst hup
    rcases List.eq_nil_or_concat es with rfl | ⟨front, last, rfl⟩
    · cases rooted with
      | false => exact .inr (.inr (.inr ⟨hempty, hdot, rfl⟩))
      | true => exact .inr (.inl ⟨rfl, rfl, rfl, rfl⟩)
    · rw [List.concat_eq_append]
      by_cases hlast : last = dotDot
      · exact .inr (.inr (.inr ⟨hempty, hdot, by simp [cleanStep, hlast, hempty, hdot]⟩))
      · exact .inr (.inr (.inl ⟨front, last, rfl, hlast, rfl,
          by simp [cleanStep, hlast, hempty, hdot]⟩))
  · exact .inr (.inr (.inr ⟨hempty, hdot,
      cleanStep_of_isElement (isElement_iff.mpr ⟨hempty, hdot, hup⟩) _ _⟩))

/-- Elements that cleaning keeps as they are. -/
structure IsClean (rooted : Bool) (es : List Text) : Prop where
  isStep : ∀ e ∈ es, e ≠ [] ∧ e ≠ dot ∧ slash ∉ e
  foldl_eq : es.foldl (cleanStep rooted) [] = es.reverse

namespace IsClean

variable {rooted : Bool} {es : List Text}

theorem nil (rooted : Bool) : IsClean rooted [] := ⟨nofun, rfl⟩

theorem concat (h : IsClean rooted es) {e : Text} (he : e ≠ [] ∧ e ≠ dot ∧ slash ∉ e)
    (hstep : cleanStep rooted es.reverse e = e :: es.reverse) : IsClean rooted (es ++ [e]) := by
  refine ⟨?_, ?_⟩
  · intro f hf
    rcases List.mem_append.mp hf with hf | hf
    · exact h.isStep f hf
    · rwa [List.mem_singleton.mp hf]
  · rw [List.foldl_append, h.foldl_eq, List.foldl_cons, List.foldl_nil, hstep, List.reverse_append,
      List.reverse_singleton, List.singleton_append]

theorem append (h : IsClean rooted es) {es' : List Text}
    (h' : ∀ e ∈ es', isElement e = true ∧ slash ∉ e) : IsClean rooted (es ++ es') := by
  induction es' generalizing es with
  | nil => rwa [List.append_nil]
  | cons e es' ih =>
      obtain ⟨helement, hslash⟩ := h' e List.mem_cons_self
      obtain ⟨hempty, hdot, -⟩ := isElement_iff.mp helement
      rw [List.append_cons]
      exact ih (h.concat ⟨hempty, hdot, hslash⟩ (cleanStep_of_isElement helement _ _))
        fun e he => h' e (List.mem_cons_of_mem _ he)

/-- Without its last element a clean list is clean, unless that element leads up. -/
theorem of_concat {e : Text} (h : IsClean rooted (es ++ [e])) (he : e ≠ dotDot) :
    IsClean rooted es := by
  have hstep := h.isStep e (List.mem_append_right _ (List.mem_singleton_self e))
  have helement : isElement e = true := isElement_iff.mpr ⟨hstep.1, hstep.2.1, he⟩
  refine ⟨fun f hf => h.isStep f (List.mem_append_left _ hf), ?_⟩
  have hfoldl := h.foldl_eq
  rw [List.foldl_append, List.foldl_cons, List.foldl_nil, cleanStep_of_isElement helement,
    List.reverse_append, List.reverse_singleton, List.singleton_append, List.cons.injEq] at hfoldl
  exact hfoldl.2

/-- Cleaning goes on from a clean list to a clean list. -/
theorem cleanStep (h : IsClean rooted es) {e : Text} (he : slash ∉ e) :
    IsClean rooted (cleanStep rooted es.reverse e).reverse := by
  rcases cleanStep_cases rooted es e with ⟨-, hstep⟩ | ⟨-, -, -, hstep⟩ |
    ⟨front, last, rfl, hlast, -, hstep⟩ | ⟨hempty, hdot, hstep⟩
  · rwa [hstep, List.reverse_reverse]
  · rw [hstep]
    exact nil rooted
  · rw [hstep, List.reverse_reverse]
    exact h.of_concat hlast
  · rw [hstep, List.reverse_cons, List.reverse_reverse]
    exact h.concat ⟨hempty, hdot, he⟩ hstep

theorem foldl_cleanStep {raw : List Text} (h : IsClean rooted es) (hraw : ∀ e ∈ raw, slash ∉ e) :
    IsClean rooted (raw.foldl (Path.cleanStep rooted) es.reverse).reverse := by
  induction raw generalizing es with
  | nil => rwa [List.foldl_nil, List.reverse_reverse]
  | cons e raw ih =>
      have hnext := ih (h.cleanStep (hraw e List.mem_cons_self))
        fun e he => hraw e (List.mem_cons_of_mem _ he)
      rwa [List.reverse_reverse] at hnext

end IsClean

theorem isClean_cleanElements (p : Text) : IsClean (isRooted p) (cleanElements p) :=
  (IsClean.nil (isRooted p)).foldl_cleanStep fun _ h => slash_not_mem h

/-- The elements of a canonical path, after some that lead nowhere. -/
theorem exists_elements_canonical (rooted : Bool) {es : List Text} (h : ∀ e ∈ es, slash ∉ e) :
    ∃ idle, elements (canonical rooted es) = idle ++ es ∧ ∀ e ∈ idle, e = [] ∨ e = dot := by
  have hrooted : elements (slash :: ofElements es) = [] :: elements (ofElements es) :=
    elements_append_slash [] (ofElements es)
  cases es with
  | nil =>
      cases rooted with
      | false => exact ⟨[dot], rfl, by simp⟩
      | true => exact ⟨[[], []], hrooted, by simp⟩
  | cons e es =>
      have hes := elements_ofElements h (List.cons_ne_nil e es)
      cases rooted with
      | false => exact ⟨[], hes, by simp⟩
      | true => exact ⟨[[]], by rw [canonical, if_pos rfl, hrooted, hes]; rfl, by simp⟩

theorem ofElements_suffix_canonical (rooted : Bool) (es : List Text) {es' : List Text}
    (h : es' ≠ []) : ofElements es' <:+ canonical rooted (es ++ es') := by
  have hsuffix : ofElements es' <:+ ofElements (es ++ es') := by
    by_cases hes : es = []
    · rw [hes, List.nil_append]
    · rw [ofElements_append hes h]
      exact ⟨_ ++ [slash], List.append_assoc _ _ _⟩
  rw [canonical]
  split
  · exact hsuffix.trans (List.suffix_cons _ _)
  · rwa [if_neg (by simp [h])]

theorem IsClean.getLast?_canonical {rooted : Bool} {es : List Text} (h : IsClean rooted es)
    (hes : es ≠ []) : (canonical rooted es).getLast? ≠ some slash := by
  obtain ⟨front, e, rfl⟩ := (List.eq_nil_or_concat es).resolve_left hes
  rw [List.concat_eq_append] at *
  obtain ⟨hempty, -, hslash⟩ := h.isStep e (List.mem_append_right _ List.mem_cons_self)
  obtain ⟨before, hbefore⟩ := ofElements_suffix_canonical rooted front (List.cons_ne_nil e [])
  rw [← hbefore, ofElements_singleton, List.getLast?_append_of_ne_nil _ hempty]
  exact fun hlast => hslash (List.mem_of_getLast? hlast)

theorem IsClean.isRooted_canonical {rooted : Bool} {es : List Text} (h : IsClean rooted es) :
    isRooted (canonical rooted es) = rooted := by
  cases rooted with
  | true => rfl
  | false =>
      cases es with
      | nil => decide
      | cons e es =>
          obtain ⟨hempty, -, hslash⟩ := h.isStep e List.mem_cons_self
          obtain ⟨b, rest, rfl⟩ := List.exists_cons_of_ne_nil hempty
          have hb : b ≠ slash := by rintro rfl; exact hslash List.mem_cons_self
          have hhead : (ofElements ((b :: rest) :: es)).head? = some b := by
            cases es with
            | nil => rw [ofElements_singleton]; rfl
            | cons f es => rw [ofElements_cons _ (List.cons_ne_nil _ _)]; rfl
          rw [canonical, isRooted]
          simpa [hhead] using hb

theorem foldl_cleanStep_of_idle {idle : List Text} (h : ∀ e ∈ idle, e = [] ∨ e = dot)
    (rooted : Bool) (done : List Text) : idle.foldl (cleanStep rooted) done = done := by
  induction idle with
  | nil => rfl
  | cons e idle ih =>
      have hstep : cleanStep rooted done e = done := by
        rcases h e List.mem_cons_self with rfl | rfl <;> simp [cleanStep]
      rw [List.foldl_cons, hstep]
      exact ih fun e he => h e (List.mem_cons_of_mem _ he)

theorem IsClean.cleanElements_canonical {rooted : Bool} {es : List Text} (h : IsClean rooted es) :
    cleanElements (canonical rooted es) = es := by
  obtain ⟨idle, helements, hidle⟩ :=
    exists_elements_canonical rooted fun e he => (h.isStep e he).2.2
  rw [cleanElements, h.isRooted_canonical, helements, List.foldl_append,
    foldl_cleanStep_of_idle hidle, h.foldl_eq, List.reverse_reverse]

/-! ### Joining -/

theorem isRooted_append {p : Text} (hp : p ≠ []) (q : Text) : isRooted (p ++ q) = isRooted p := by
  obtain ⟨b, rest, rfl⟩ := List.exists_cons_of_ne_nil hp
  rfl

theorem isRooted_of_isName {name : Text} (hname : isName name = true) (hdot : name ≠ dot) :
    isRooted name = false := by
  cases name with
  | nil => rfl
  | cons b rest =>
      by_contra hrooted
      have hb : b = slash := by simpa [isRooted] using hrooted
      have hempty : [] ∈ elements (b :: rest) := by
        rw [hb, show slash :: rest = [] ++ slash :: rest from rfl, elements_append_slash]
        exact List.mem_cons_self
      have helement := isElement_of_mem_elements hname hdot hempty
      simp [isElement] at helement

/-- The elements of a name are put behind those of the folder. -/
theorem join_eq_canonical (folder : Text) {name : Text} (hname : isName name = true)
    (hdot : name ≠ dot) :
    join folder name = canonical (isRooted folder) (cleanElements folder ++ elements name) := by
  have helements : ∀ e ∈ elements name, isElement e = true :=
    fun e he => isElement_of_mem_elements hname hdot he
  have hne : name ≠ [] := by
    rintro rfl
    cases hname
  by_cases hfolder : folder = []
  · have hclean : cleanElements name = elements name := by
      rw [cleanElements, foldl_cleanStep_of_isElement helements, List.append_nil,
        List.reverse_reverse]
    have hjoin : join folder name = clean name := by simp [join, hfolder, hne]
    rw [hjoin, clean_eq_canonical, hclean, isRooted_of_isName hname hdot, hfolder]
    rfl
  · have hjoin : join folder name = clean (folder ++ slash :: name) := by
      simp [join, hfolder, hne, ofElements_cons folder (List.cons_ne_nil name [])]
    rw [hjoin, clean_eq_canonical, isRooted_append hfolder, cleanElements,
      isRooted_append hfolder, elements_append_slash, List.foldl_append,
      foldl_cleanStep_of_isElement helements, List.reverse_append, List.reverse_reverse]
    rfl

/-- A folder that ends with a slash needs no other to be joined. -/
theorem join_append_slash (front : Text) {name : Text} (hname : IsSimple name) :
    join (front ++ [slash]) name = clean (front ++ slash :: name) := by
  have hsplit : front ++ slash :: name = front ++ [slash] ++ name := by
    rw [List.append_assoc, List.singleton_append]
  have hrooted : isRooted (front ++ slash :: name) = isRooted (front ++ [slash]) := by
    rw [hsplit, isRooted_append (List.append_ne_nil_of_right_ne_nil _ (List.cons_ne_nil _ _))]
  have hidle : ∀ e ∈ elements [], e = [] ∨ e = dot := by simp [elements]
  have helements : cleanElements (front ++ slash :: name) =
      cleanElements (front ++ [slash]) ++ [name] := by
    rw [cleanElements, cleanElements, hrooted, elements_append_slash, elements_append_slash,
      hname.elements_eq, List.foldl_append, List.foldl_append, List.foldl_cons, List.foldl_nil,
      cleanStep_of_isElement hname.isElement, List.reverse_cons,
      foldl_cleanStep_of_idle hidle]
  rw [join_eq_canonical _ hname.isName hname.ne_dot, clean_eq_canonical, hrooted, helements,
    hname.elements_eq]

section

variable (folder : Text) {name : Text} (hname : isName name = true) (hdot : name ≠ dot)

include hname hdot

theorem isClean_append_elements :
    IsClean (isRooted folder) (cleanElements folder ++ elements name) :=
  (isClean_cleanElements folder).append fun _ he =>
    ⟨isElement_of_mem_elements hname hdot he, slash_not_mem he⟩

theorem isRooted_join : isRooted (join folder name) = isRooted folder := by
  rw [join_eq_canonical folder hname hdot,
    (isClean_append_elements folder hname hdot).isRooted_canonical]

theorem cleanElements_join :
    cleanElements (join folder name) = cleanElements folder ++ elements name := by
  rw [join_eq_canonical folder hname hdot,
    (isClean_append_elements folder hname hdot).cleanElements_canonical]

theorem suffix_join : name <:+ join folder name := by
  have hsuffix := ofElements_suffix_canonical (isRooted folder) (cleanElements folder)
    (elements_ne_nil name)
  rwa [ofElements_elements, ← join_eq_canonical folder hname hdot] at hsuffix

end

end LineMachine.Path
