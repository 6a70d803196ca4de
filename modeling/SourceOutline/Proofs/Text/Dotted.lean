import SourceOutline.Text.Dotted

/-!
# Splitting and joining dotted names

* `splitLast_cases`: what stands before and after the last dot.
* `splitFirst_append_dot`, `eq_append_of_splitFirst`, `head_append_dot`: the first dot splits a name after its
  first component.
* `join_splitLast_append`: a package and a name that were split apart are the same name again,
  unless the name starts with a dot.
* `join_splitLast_iff`, `splitLast_join_iff`: exactly when splitting is undone by joining, and joining by
  splitting.
-/

namespace SourceOutline.Dotted

/-! ## The last dot -/

theorem exists_last_dot {cs : List Char} (h : '.' ∈ cs) : ∃ a b, cs = a ++ '.' :: b ∧ '.' ∉ b := by
  induction cs with
  | nil => simp at h
  | cons c r ih =>
    by_cases hr : '.' ∈ r
    · obtain ⟨a, b, hab, hb⟩ := ih hr
      exact ⟨c :: a, b, by rw [hab, List.cons_append], hb⟩
    · have hc : '.' = c := (List.mem_cons.mp h).resolve_right hr
      exact ⟨[], r, by rw [← hc, List.nil_append], hr⟩

/-- A name has no dot, or is split at the last one. -/
theorem splitLast_cases (s : String) :
    ('.' ∉ s.toList ∧ splitLast s = ("", s)) ∨
      ∃ a b, s = a ++ "." ++ b ∧ '.' ∉ b.toList ∧ splitLast s = (a, b) := by
  by_cases hdot : '.' ∈ s.toList
  · obtain ⟨a, b, hab, hb⟩ := exists_last_dot hdot
    refine Or.inr ⟨.ofList a, .ofList b, ?_, ?_, ?_⟩
    · rw [← String.toList_inj]
      simp [hab]
    · rwa [String.toList_ofList]
    · rw [splitLast, hab, splitLastChars_append_dot hb]
  · refine Or.inl ⟨hdot, ?_⟩
    rw [splitLast, splitLastChars_of_not_mem hdot, String.ofList_toList]

theorem dot_not_mem_last (s : String) : '.' ∉ (last s).toList := by
  rcases splitLast_cases s with ⟨hdot, hs⟩ | ⟨a, b, -, hb, hs⟩
  · rwa [last, hs]
  · rwa [last, hs]

theorem splitLast_append_dot {b : String} (h : '.' ∉ b.toList) (a : String) :
    splitLast (a ++ "." ++ b) = (a, b) := by
  have htext : (a ++ "." ++ b).toList = a.toList ++ '.' :: b.toList := by simp
  rw [splitLast, htext, splitLastChars_append_dot h, String.ofList_toList, String.ofList_toList]

theorem last_append_dot {b : String} (h : '.' ∉ b.toList) (a : String) : last (a ++ "." ++ b) = b := by
  rw [last, splitLast_append_dot h]

theorem last_of_not_mem {s : String} (h : '.' ∉ s.toList) : last s = s := by
  rw [last, splitLast, splitLastChars_of_not_mem h]
  exact String.ofList_toList

/-- More components at the front leave the last one alone. -/
theorem last_append (a b : String) : last (a ++ "." ++ b) = last b := by
  rcases splitLast_cases b with ⟨hdot, -⟩ | ⟨c, d, rfl, hd, -⟩
  · rw [last_append_dot hdot, last_of_not_mem hdot]
  · have hassoc : a ++ "." ++ (c ++ "." ++ d) = a ++ "." ++ c ++ "." ++ d := by simp only [String.append_assoc]
    rw [hassoc, last_append_dot hd, last_append_dot hd]

theorem length_last_le (s : String) : (last s).length ≤ s.length := by
  rcases splitLast_cases s with ⟨-, hs⟩ | ⟨a, b, rfl, -, hs⟩
  · exact Nat.le_of_eq (by rw [last, hs])
  · rw [last, hs, String.length_append]
    exact Nat.le_add_left _ _

/-- The last component ends like the whole name. -/
theorem getLast?_last {s : String} {c : Char} (hc : c ≠ '.') (h : s.toList.getLast? = some c) :
    (last s).toList.getLast? = some c := by
  rcases splitLast_cases s with ⟨-, hs⟩ | ⟨a, b, rfl, -, hs⟩
  · rwa [last, hs]
  · have htext : (a ++ "." ++ b).toList = a.toList ++ '.' :: b.toList := by simp
    rw [htext, List.getLast?_append, List.getLast?_cons, Option.some_or] at h
    rw [last, hs]
    cases hb : b.toList.getLast? with
    | none =>
      rw [hb] at h
      exact absurd (Option.some.inj h) (Ne.symm hc)
    | some d => rwa [hb] at h

/-! ## The first dot -/

theorem splitFirst_append_dot {a : String} (h : '.' ∉ a.toList) (b : String) :
    splitFirst (a ++ "." ++ b) = some (a, b) := by
  have hchars : ∀ cs : List Char, '.' ∉ cs → splitFirstChars (cs ++ '.' :: b.toList) = some (cs, b.toList) := by
    intro cs hcs
    induction cs with
    | nil => simp [splitFirstChars]
    | cons c r ih =>
      rw [List.mem_cons, not_or] at hcs
      rw [List.cons_append, splitFirstChars, if_neg (Ne.symm hcs.1), ih hcs.2]
      rfl
  have htext : (a ++ "." ++ b).toList = a.toList ++ '.' :: b.toList := by simp
  rw [splitFirst, htext, hchars _ h, Option.map_some, String.ofList_toList, String.ofList_toList]

/-- What is split at the first dot is put together again. -/
theorem eq_append_of_splitFirst {s a b : String} (h : splitFirst s = some (a, b)) : s = a ++ "." ++ b := by
  have hchars : ∀ {cs p q : List Char}, splitFirstChars cs = some (p, q) → cs = p ++ '.' :: q := by
    intro cs
    induction cs with
    | nil => intro p q hcs; cases hcs
    | cons c r ih =>
      intro p q hcs
      rw [splitFirstChars] at hcs
      by_cases hc : c = '.'
      · rw [if_pos hc] at hcs
        obtain ⟨rfl, rfl⟩ : [] = p ∧ r = q := by simpa using hcs
        rw [hc, List.nil_append]
      · rw [if_neg hc] at hcs
        obtain ⟨⟨p', q'⟩, hr, heq⟩ := Option.map_eq_some_iff.mp hcs
        obtain ⟨rfl, rfl⟩ := Prod.mk.inj heq
        rw [ih hr, List.cons_append]
  obtain ⟨⟨p, q⟩, hsplit, heq⟩ := Option.map_eq_some_iff.mp h
  obtain ⟨rfl, rfl⟩ := Prod.mk.inj heq
  rw [← String.toList_inj, hchars hsplit]
  simp

/-- An end of a name without a dot lies behind every dot. -/
theorem suffix_of_suffix_append_dot {cs a b : List Char} (hdot : '.' ∉ cs) (h : cs <:+ a ++ '.' :: b) :
    cs <:+ b := by
  rcases List.suffix_or_suffix_of_suffix h (List.suffix_append a ('.' :: b)) with h | h
  · rcases List.suffix_cons_iff.mp h with rfl | h
    · exact absurd List.mem_cons_self hdot
    · exact h
  · exact absurd (h.subset List.mem_cons_self) hdot

theorem head_of_not_mem {s : String} (h : '.' ∉ s.toList) : head s = s := by
  rw [head, splitFirst, splitFirstChars_eq_none_iff.mpr h]
  rfl

/-- More components at the end leave the first one alone. -/
theorem head_append_dot (a b : String) : head (a ++ "." ++ b) = head a := by
  have hchars : ∀ {cs p : List Char} {q : List Char}, splitFirstChars cs = some (p, q) →
      splitFirstChars (cs ++ '.' :: b.toList) = some (p, q ++ '.' :: b.toList) := by
    intro cs
    induction cs with
    | nil => intro p q h; cases h
    | cons c r ih =>
      intro p q h
      rw [List.cons_append]
      rw [splitFirstChars] at h ⊢
      by_cases hc : c = '.'
      · rw [if_pos hc] at h ⊢
        obtain ⟨rfl, rfl⟩ : [] = p ∧ r = q := by simpa using h
        rfl
      · rw [if_neg hc] at h ⊢
        obtain ⟨⟨p', q'⟩, hr, heq⟩ := Option.map_eq_some_iff.mp h
        obtain ⟨rfl, rfl⟩ := Prod.mk.inj heq
        rw [ih hr, Option.map_some]
  by_cases ha : '.' ∈ a.toList
  · cases hsplit : splitFirstChars a.toList with
    | none => exact absurd ha (splitFirstChars_eq_none_iff.mp hsplit)
    | some p =>
      have htext : (a ++ "." ++ b).toList = a.toList ++ '.' :: b.toList := by simp
      rw [head, head, splitFirst, splitFirst, htext, hchars hsplit, hsplit]
      rfl
  · rw [head_of_not_mem ha, head, splitFirst_append_dot ha]

/-! ## Joining -/

/-- Splitting at the last dot is undone by joining, also if something follows the name. -/
theorem join_splitLast_append {s : String} (h : s.toList.head? ≠ some '.') (rest : String) :
    join (splitLast s).1 ((splitLast s).2 ++ rest) = s ++ rest := by
  rcases splitLast_cases s with ⟨-, hs⟩ | ⟨a, b, rfl, -, hs⟩
  · rw [hs, join, if_pos rfl]
  · have ha : a ≠ "" := by
      rintro rfl
      simp at h
    rw [hs, join, if_neg ha]
    simp only [String.append_assoc]

theorem length_le_join (package name : String) : name.length ≤ (join package name).length := by
  rw [join]
  split
  · exact Nat.le_refl _
  · rw [String.length_append]
    omega

/-- What is split at the last dot and joined again is not longer. -/
theorem length_join_splitLast_le (s : String) :
    (join (splitLast s).1 (splitLast s).2).length ≤ s.length := by
  rcases splitLast_cases s with ⟨-, hs⟩ | ⟨a, b, rfl, -, hs⟩
  · exact Nat.le_of_eq (by simp [hs, join])
  · rw [hs, join]
    split
    · simp only [String.length_append]
      omega
    · exact Nat.le_refl _

/-- One more component at the end of a path. -/
theorem intercalate_concat (names : List String) (a b : String) :
    ".".intercalate (names ++ [a, b]) = ".".intercalate (names ++ [a]) ++ "." ++ b := by
  induction names with
  | nil => simp
  | cons c names ih =>
    cases names with
    | nil => simp [String.append_assoc]
    | cons d names =>
      simp only [List.cons_append, String.intercalate_cons_cons] at ih ⊢
      rw [ih]
      simp only [String.append_assoc]

/-- Splitting at the last dot is undone by joining, unless this dot comes first. -/
theorem join_splitLast_of_ne {s : String} (h : ∀ t, '.' ∉ t.toList → s ≠ "." ++ t) :
    join (splitLast s).1 (splitLast s).2 = s := by
  rcases splitLast_cases s with ⟨-, hs⟩ | ⟨a, b, rfl, hb, hs⟩
  · rw [hs, join, if_pos rfl]
  · have ha : a ≠ "" := by
      rintro rfl
      exact h b hb (by simp)
    rw [hs, join, if_neg ha]

/-- A dot that comes first and is the only one is lost. -/
theorem join_splitLast_dot {t : String} (h : '.' ∉ t.toList) :
    join (splitLast ("." ++ t)).1 (splitLast ("." ++ t)).2 = t := by
  have hsplit := splitLast_append_dot h ""
  rw [String.empty_append] at hsplit
  rw [hsplit, join, if_pos rfl]

/-- A dot at the front, and no other one. -/
def OnlyLeadingDot (s : String) : Prop :=
  ∃ t, '.' ∉ t.toList ∧ s = "." ++ t

/-- Splitting at the last dot is undone by joining exactly if this is not a dot at the front. -/
theorem join_splitLast_iff {s : String} : join (splitLast s).1 (splitLast s).2 = s ↔ ¬ OnlyLeadingDot s := by
  constructor
  · rintro h ⟨t, ht, rfl⟩
    rw [join_splitLast_dot ht] at h
    have hlength := congrArg String.length h
    rw [String.length_append] at hlength
    exact absurd hlength (Nat.ne_of_lt (Nat.lt_add_of_pos_left (by decide)))
  · intro h
    exact join_splitLast_of_ne fun t ht heq => h ⟨t, ht, heq⟩

/-- Joining is undone by splitting at the last dot exactly if the name has no dot. -/
theorem splitLast_join_iff {package name : String} :
    splitLast (join package name) = (package, name) ↔ '.' ∉ name.toList := by
  constructor
  · intro h
    have hlast := dot_not_mem_last (join package name)
    rwa [last, h] at hlast
  · intro h
    by_cases hpackage : package = ""
    · rw [hpackage, join, if_pos rfl, splitLast, splitLastChars_of_not_mem h, String.ofList_toList]
    · rw [join, if_neg hpackage, splitLast_append_dot h]

theorem join_splitLast {s : String} (h : s.toList.head? ≠ some '.') :
    join (splitLast s).1 (splitLast s).2 = s := by
  have := join_splitLast_append h ""
  rwa [String.append_empty, String.append_empty] at this

end SourceOutline.Dotted
