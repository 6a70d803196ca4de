import SourceOutline.Java.Reference

/-!
# The text of a type in Java

Three passes make the name of a type out of its text: annotations are cut out, then what stands between angle
brackets, and then blanks.  The first pass does not see brackets and the second does not see annotations, so each
leaves alone what the other one looks for.

* `dropAnnotations_append`: a text is cut where no annotation goes on.
* `depthAfter?_dropAnnotations`: angle brackets are balanced without annotations if they are with them.
* `dropTypeArgumentsAt_append_of_depthAfter?`: nothing stays of a text inside of angle brackets.

Main statement: `typeText_of_pieces`.
-/

namespace SourceOutline.Java

/-! ## Annotations -/

section Annotations

theorem dropWhile_append_of_head {p : Char → Bool} {d : List Char} (hd : ∀ c, d.head? = some c → p c = false)
    (cs : List Char) : (cs ++ d).dropWhile p = cs.dropWhile p ++ d := by
  have hkept : d.dropWhile p = d := by
    cases d with
    | nil => rfl
    | cons c d => rw [List.dropWhile_cons_of_neg (by simp [hd c rfl])]
  rw [List.dropWhile_append, hkept]
  split
  · rename_i hempty
    rw [List.isEmpty_iff.mp hempty, List.nil_append]
  · rfl

theorem dropAnnotations_cons_of_ne {c : Char} (h : c ≠ '@') (r : List Char) :
    dropAnnotations (c :: r) = c :: dropAnnotations r := by
  rw [dropAnnotations, if_neg fun hc => h hc.1]

theorem dropAnnotations_of_not_mem {cs : List Char} (h : '@' ∉ cs) : dropAnnotations cs = cs := by
  induction cs with
  | nil => rw [dropAnnotations]
  | cons c cs ih =>
    rw [List.mem_cons, not_or] at h
    rw [dropAnnotations_cons_of_ne (Ne.symm h.1), ih h.2]

/-- Annotations before and after a place are cut out one by one, if what stands there can neither go on with the
name of an annotation nor is blank. -/
theorem dropAnnotations_append {d : List Char}
    (hhead : ∀ c, d.head? = some c → isAnnotationChar c = false ∧ Text.isBlank c = false) (cs : List Char) :
    dropAnnotations (cs ++ d) = dropAnnotations cs ++ dropAnnotations d := by
  fun_induction dropAnnotations cs with
  | case1 => rfl
  | case2 c r h ih =>
    have hr : (r ++ d).head? = r.head? := by
      cases r with
      | nil => simp at h
      | cons x r => rfl
    rw [List.cons_append, dropAnnotations, hr, if_pos h, dropWhile_append_of_head fun c hc => (hhead c hc).1,
      dropWhile_append_of_head fun c hc => (hhead c hc).2, ih]
  | case3 c r h ih =>
    have hnot : ¬ (c = '@' ∧ (r ++ d).head?.any isAnnotationChar) := by
      rintro ⟨hc, hany⟩
      cases r with
      | nil =>
        cases hx : d.head? with
        | none => simp [hx] at hany
        | some x => simp [hx, (hhead x hx).1] at hany
      | cons x r => exact h ⟨hc, hany⟩
    rw [List.cons_append, dropAnnotations, if_neg hnot, ih, List.cons_append]

/-- No blank goes on with the name of an annotation. -/
theorem not_isAnnotationChar_of_isBlank {c : Char} (h : Text.isBlank c = true) : isAnnotationChar c = false := by
  have hvalues : c.toNat ∈ List.range' 0x09 5 ++ List.range' 0x1C 5 ++ List.range' 0x2000 11 ++
      [0x85, 0xA0, 0x1680, 0x2028, 0x2029, 0x202F, 0x205F, 0x3000] := by
    simp only [Text.isBlank, Bool.or_eq_true, Bool.and_eq_true, decide_eq_true_eq, beq_iff_eq] at h
    simp only [List.mem_append, List.mem_range'_1, List.mem_cons, List.not_mem_nil, or_false]
    omega
  have hnone : ∀ n ∈ List.range' 0x09 5 ++ List.range' 0x1C 5 ++ List.range' 0x2000 11 ++
      [0x85, 0xA0, 0x1680, 0x2028, 0x2029, 0x202F, 0x205F, 0x3000], isAnnotationChar (Char.ofNat n) = false := by
    decide +kernel
  have hc := hnone c.toNat hvalues
  rwa [Char.ofNat_toNat] at hc

/-- An annotation is cut out with all blanks after it. -/
theorem dropAnnotations_annotation {name : List Char} {b : Char} (hne : name ≠ [])
    (hname : ∀ c ∈ name, isAnnotationChar c = true) (hb : Text.isBlank b = true) (r : List Char) :
    dropAnnotations ('@' :: name ++ b :: r) = dropAnnotations (r.dropWhile Text.isBlank) := by
  have hb' := not_isAnnotationChar_of_isBlank hb
  have hfirst : (name ++ b :: r).head?.any isAnnotationChar = true := by
    cases name with
    | nil => exact absurd rfl hne
    | cons c name => simp [hname c List.mem_cons_self]
  have hrest : (name ++ b :: r).dropWhile isAnnotationChar = b :: r := by
    rw [List.dropWhile_append_of_pos hname, List.dropWhile_cons_of_neg (by simp [hb'])]
  rw [List.cons_append, dropAnnotations, if_pos ⟨rfl, hfirst⟩, hrest, List.dropWhile_cons_of_pos hb]

end Annotations

/-! ## Angle brackets -/

section Angles

/-- An angle bracket. -/
def isAngle (c : Char) : Bool :=
  c = '<' || c = '>'

theorem isAngle_eq_false_iff {c : Char} : isAngle c = false ↔ c ≠ '<' ∧ c ≠ '>' := by
  simp [isAngle]

theorem not_isAngle_of_imp {q : Char → Bool} (hopen : q '<' = false) (hclose : q '>' = false) :
    ∀ c, q c = true → isAngle c = false := by
  intro c hc
  apply isAngle_eq_false_iff.mpr
  constructor
  · rintro rfl
    exact Bool.false_ne_true (hopen.symm.trans hc)
  · rintro rfl
    exact Bool.false_ne_true (hclose.symm.trans hc)

theorem filter_dropWhile {p q : Char → Bool} (h : ∀ c, q c = true → p c = false) (cs : List Char) :
    (cs.dropWhile q).filter p = cs.filter p := by
  induction cs with
  | nil => rfl
  | cons c cs ih =>
    by_cases hc : q c = true
    · rw [List.dropWhile_cons_of_pos hc, ih, List.filter_cons_of_neg (by simp [h c hc])]
    · rw [List.dropWhile_cons_of_neg hc]

/-- Annotations have no angle brackets, so none is lost with them. -/
theorem filter_isAngle_dropAnnotations (cs : List Char) :
    (dropAnnotations cs).filter isAngle = cs.filter isAngle := by
  have hname := not_isAngle_of_imp (q := isAnnotationChar) (by decide) (by decide)
  have hblank := not_isAngle_of_imp (q := Text.isBlank) (by decide) (by decide)
  fun_induction dropAnnotations cs with
  | case1 => rfl
  | case2 c r h ih =>
    have hat : isAngle c = false := by
      rw [h.1]
      decide
    rw [ih, filter_dropWhile hblank, filter_dropWhile hname, List.filter_cons_of_neg (by simp [hat])]
  | case3 c r h ih => rw [List.filter_cons, List.filter_cons, ih]

/-- Every angle bracket has its partner. -/
inductive Balanced : List Char → Prop where
  | nil : Balanced []
  | other {c : Char} {r : List Char} : c ≠ '<' → c ≠ '>' → Balanced r → Balanced (c :: r)
  | angles {inner r : List Char} : Balanced inner → Balanced r → Balanced ('<' :: inner ++ '>' :: r)

/-- How many angle brackets are open after a text, if none is closed that is not open. -/
def depthAfter? : Nat → List Char → Option Nat
  | depth, [] => some depth
  | depth, c :: r =>
    if c = '<' then depthAfter? (depth + 1) r
    else if c = '>' then if depth = 0 then none else depthAfter? (depth - 1) r
    else depthAfter? depth r

theorem depthAfter?_cons_of_ne {c : Char} (hopen : c ≠ '<') (hclose : c ≠ '>') (depth : Nat) (r : List Char) :
    depthAfter? depth (c :: r) = depthAfter? depth r := by
  rw [depthAfter?, if_neg hopen, if_neg hclose]

theorem Balanced.depthAfter?_append {cs : List Char} (h : Balanced cs) (depth : Nat) (r : List Char) :
    depthAfter? depth (cs ++ r) = depthAfter? depth r := by
  induction h generalizing depth r with
  | nil => rfl
  | other hopen hclose _ ih => rw [List.cons_append, depthAfter?_cons_of_ne hopen hclose, ih]
  | @angles inner rest _ _ ihinner ihrest =>
    have hassoc : '<' :: inner ++ '>' :: rest ++ r = '<' :: (inner ++ '>' :: (rest ++ r)) := by simp
    rw [hassoc, depthAfter?, if_pos rfl, ihinner, depthAfter?, if_neg (by decide), if_pos rfl,
      if_neg (Nat.succ_ne_zero depth)]
    exact ihrest depth r

theorem Balanced.depthAfter?_eq {cs : List Char} (h : Balanced cs) (depth : Nat) :
    depthAfter? depth cs = some depth := by
  have happend := h.depthAfter?_append depth []
  rwa [List.append_nil] at happend

theorem depthAfter?_filter (depth : Nat) (cs : List Char) :
    depthAfter? depth (cs.filter isAngle) = depthAfter? depth cs := by
  induction cs generalizing depth with
  | nil => rfl
  | cons c cs ih =>
    by_cases hc : isAngle c = true
    · rw [List.filter_cons_of_pos hc, depthAfter?, depthAfter?, ih, ih, ih]
    · have hne := isAngle_eq_false_iff.mp (Bool.eq_false_iff.mpr hc)
      rw [List.filter_cons_of_neg hc, ih, depthAfter?_cons_of_ne hne.1 hne.2]

theorem depthAfter?_dropAnnotations (depth : Nat) (cs : List Char) :
    depthAfter? depth (dropAnnotations cs) = depthAfter? depth cs := by
  rw [← depthAfter?_filter, filter_isAngle_dropAnnotations, depthAfter?_filter]

/-- Nothing stays of a text inside of angle brackets, as long as it closes only what it opens. -/
theorem dropTypeArgumentsAt_append_of_depthAfter? {depth depth' : Nat} {cs : List Char}
    (h : depthAfter? depth cs = some depth') (r : List Char) :
    dropTypeArgumentsAt (depth + 1) (cs ++ r) = dropTypeArgumentsAt (depth' + 1) r := by
  induction cs generalizing depth with
  | nil =>
    obtain rfl : depth = depth' := by simpa [depthAfter?] using h
    rfl
  | cons c cs ih =>
    rw [depthAfter?] at h
    rw [List.cons_append, dropTypeArgumentsAt]
    by_cases hopen : c = '<'
    · rw [if_pos hopen] at h ⊢
      exact ih h
    by_cases hclose : c = '>'
    · rw [if_neg hopen, if_pos hclose] at h ⊢
      by_cases hdepth : depth = 0
      · rw [if_pos hdepth] at h
        cases h
      · rw [if_neg hdepth] at h
        have hstep : depth + 1 - 1 = depth - 1 + 1 := by omega
        rw [hstep]
        exact ih h
    · rw [if_neg hopen, if_neg hclose] at h ⊢
      rw [if_neg (Nat.succ_ne_zero depth)]
      exact ih h

end Angles

/-! ## Pieces -/

section Pieces

/-- A piece of the text of a type. -/
inductive TypePiece where
  /-- A character that is no angle bracket, no `@` and no blank. -/
  | plain (c : Char) (hopen : c ≠ '<') (hclose : c ≠ '>') (hat : c ≠ '@') (hblank : Text.isBlank c = false)
  | blank (c : Char) (hblank : Text.isBlank c = true)
  /-- An annotation without arguments, and the blank that ends it. -/
  | annotation (name : List Char) (c : Char) (hne : name ≠ []) (hname : ∀ x ∈ name, isAnnotationChar x = true)
    (hblank : Text.isBlank c = true)
  /-- A text in angle brackets. -/
  | angles (content : List Char) (hbalanced : Balanced content)

namespace TypePiece

/-- How a piece is written. -/
def text : TypePiece → List Char
  | plain c .. => [c]
  | blank c _ => [c]
  | annotation name c .. => '@' :: name ++ [c]
  | angles content _ => '<' :: content ++ ['>']

/-- The character that stays of a piece, if one does. -/
def kept? : TypePiece → Option Char
  | plain c .. => some c
  | blank .. => none
  | annotation .. => none
  | angles .. => none

end TypePiece

/-- What the three passes leave of a text. -/
def bareText (cs : List Char) : List Char :=
  Text.squeeze (dropTypeArguments (dropAnnotations cs))

theorem toList_typeText (s : String) : (typeText s).toList = bareText s.toList :=
  String.toList_ofList

theorem bareText_cons {c : Char} (hopen : c ≠ '<') (hclose : c ≠ '>') (hat : c ≠ '@') (r : List Char) :
    bareText (c :: r) = Text.squeeze [c] ++ bareText r := by
  have hangles : dropTypeArguments (c :: dropAnnotations r) = [c] ++ dropTypeArguments (dropAnnotations r) := by
    rw [dropTypeArguments, dropTypeArgumentsAt, if_neg hopen, if_neg hclose, if_pos rfl]
    rfl
  rw [bareText, dropAnnotations_cons_of_ne hat, hangles, Text.squeeze_append]
  rfl

theorem bareText_blank_cons {c : Char} (h : Text.isBlank c = true) (r : List Char) :
    bareText (c :: r) = bareText r := by
  have hne : c ≠ '<' ∧ c ≠ '>' ∧ c ≠ '@' := by
    refine ⟨?_, ?_, ?_⟩ <;> rintro rfl <;> exact absurd h (by decide)
  have hdropped : Text.squeeze [c] = [] := by simp [Text.squeeze, h]
  rw [bareText_cons hne.1 hne.2.1 hne.2.2, hdropped, List.nil_append]

theorem bareText_dropWhile (cs : List Char) : bareText (cs.dropWhile Text.isBlank) = bareText cs := by
  induction cs with
  | nil => rfl
  | cons c cs ih =>
    by_cases hc : Text.isBlank c = true
    · rw [List.dropWhile_cons_of_pos hc, ih, bareText_blank_cons hc]
    · rw [List.dropWhile_cons_of_neg hc]

/-- A section in angle brackets is dropped, with the annotations in it. -/
theorem bareText_angles {content : List Char} (h : Balanced content) (r : List Char) :
    bareText ('<' :: content ++ '>' :: r) = bareText r := by
  have hclose : ∀ c, ('>' :: r).head? = some c → isAnnotationChar c = false ∧ Text.isBlank c = false := by
    rintro c ⟨⟩
    decide
  have hannotations : dropAnnotations ('<' :: content ++ '>' :: r) =
      '<' :: (dropAnnotations content ++ '>' :: dropAnnotations r) := by
    rw [List.cons_append, dropAnnotations_cons_of_ne (by decide), dropAnnotations_append hclose,
      dropAnnotations_cons_of_ne (by decide)]
  have hdepth : depthAfter? 0 (dropAnnotations content) = some 0 := by
    rw [depthAfter?_dropAnnotations, h.depthAfter?_eq]
  have hangles : dropTypeArguments ('<' :: (dropAnnotations content ++ '>' :: dropAnnotations r)) =
      dropTypeArguments (dropAnnotations r) := by
    rw [dropTypeArguments, dropTypeArgumentsAt, if_pos rfl, dropTypeArgumentsAt_append_of_depthAfter? hdepth,
      dropTypeArgumentsAt, if_neg (by decide), if_pos rfl]
    rfl
  rw [bareText, hannotations, hangles]
  rfl

/-- One piece in front of a text. -/
theorem bareText_piece_append (p : TypePiece) (r : List Char) :
    bareText (p.text ++ r) = p.kept?.toList ++ bareText r := by
  cases p with
  | plain c hopen hclose hat hblank =>
    have hkept : Text.squeeze [c] = [c] := by simp [Text.squeeze, hblank]
    show bareText (c :: r) = [c] ++ bareText r
    rw [bareText_cons hopen hclose hat, hkept]
  | blank c hblank => exact bareText_blank_cons hblank r
  | annotation name c hne hname hblank =>
    show bareText ('@' :: name ++ [c] ++ r) = bareText r
    rw [List.append_assoc, List.singleton_append, bareText, dropAnnotations_annotation hne hname hblank]
    exact bareText_dropWhile r
  | angles content hbalanced =>
    show bareText ('<' :: content ++ ['>'] ++ r) = bareText r
    rw [List.append_assoc, List.singleton_append, bareText_angles hbalanced]

theorem bareText_pieces (ps : List TypePiece) :
    bareText (ps.flatMap TypePiece.text) = ps.filterMap TypePiece.kept? := by
  induction ps with
  | nil =>
    rw [List.flatMap_nil, bareText, dropAnnotations]
    rfl
  | cons p ps ih =>
    rw [List.flatMap_cons, bareText_piece_append, ih, List.filterMap_cons]
    cases p.kept? <;> rfl

theorem kept_plain {ps : List TypePiece} {c : Char} (h : c ∈ ps.filterMap TypePiece.kept?) :
    c ≠ '<' ∧ c ≠ '>' ∧ c ≠ '@' ∧ Text.isBlank c = false := by
  obtain ⟨p, -, hp⟩ := List.mem_filterMap.mp h
  cases p with
  | plain d hopen hclose hat hblank =>
    obtain rfl : d = c := Option.some.inj hp
    exact ⟨hopen, hclose, hat, hblank⟩
  | blank => cases hp
  | annotation => cases hp
  | angles => cases hp

/-- Nothing is cut out of plain characters. -/
theorem bareText_of_plain {cs : List Char}
    (h : ∀ c ∈ cs, c ≠ '<' ∧ c ≠ '>' ∧ c ≠ '@' ∧ Text.isBlank c = false) : bareText cs = cs := by
  induction cs with
  | nil =>
    rw [bareText, dropAnnotations]
    rfl
  | cons c cs ih =>
    obtain ⟨hopen, hclose, hat, hblank⟩ := h c List.mem_cons_self
    have hkept : Text.squeeze [c] = [c] := by simp [Text.squeeze, hblank]
    rw [bareText_cons hopen hclose hat, hkept, ih fun d hd => h d (List.mem_cons_of_mem _ hd)]
    rfl

/-- **The text of a type** that is made of plain characters, blanks, annotations without arguments and
sections in angle brackets is its plain characters, in their order, however these follow each other and
whatever is nested in the sections.  So it has no angle bracket and no blank, and the text of that text is the
same again. -/
theorem typeText_of_pieces (ps : List TypePiece) :
    let s := String.ofList (ps.flatMap TypePiece.text)
    (typeText s).toList = ps.filterMap TypePiece.kept? ∧
      (∀ c ∈ (typeText s).toList, c ≠ '<' ∧ c ≠ '>' ∧ Text.isBlank c = false) ∧
      typeText (typeText s) = typeText s := by
  intro s
  have hkept : (typeText s).toList = ps.filterMap TypePiece.kept? := by
    rw [toList_typeText, String.toList_ofList, bareText_pieces]
  have hplain : ∀ c ∈ (typeText s).toList, c ≠ '<' ∧ c ≠ '>' ∧ c ≠ '@' ∧ Text.isBlank c = false := by
    intro c hc
    rw [hkept] at hc
    exact kept_plain hc
  refine ⟨hkept, fun c hc => ?_, ?_⟩
  · obtain ⟨hopen, hclose, -, hblank⟩ := hplain c hc
    exact ⟨hopen, hclose, hblank⟩
  · apply String.toList_injective
    rw [toList_typeText, bareText_of_plain hplain]

end Pieces

end SourceOutline.Java
