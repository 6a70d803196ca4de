import Mathlib.Data.List.TakeWhile
import SourceOutline.Files.Path

/-!
# Components and endings of paths

* `parts_append_slash`: the components of a path that is put together at a slash.
* `parts_normal`: a path without the components that do not count has the same components, hence the same
  last one (`name_normal`) and the same ending (`suffix_normal`).
* `suffix_of_name`, `suffix_cases`: an ending has one dot, at its front, and something behind it; this is
  what stands behind the last dot of the last component, if something stands before this dot.
-/

namespace SourceOutline.Path

/-! ## Components -/

section Components

/-- A component that counts. -/
def Counts (p : String) : Prop :=
  p ≠ "" ∧ p ≠ "."

instance (p : String) : Decidable (Counts p) := inferInstanceAs (Decidable (_ ∧ _))

theorem parts_eq (path : String) :
    parts path = ((piecesChars path.toList).map String.ofList).filter fun p => Counts p :=
  rfl

theorem piecesChars_of_not_mem {cs : List Char} (h : '/' ∉ cs) : piecesChars cs = [cs] := by
  induction cs with
  | nil => rfl
  | cons c r ih =>
    rw [List.mem_cons, not_or] at h
    rw [piecesChars, if_neg (Ne.symm h.1), ih h.2]

theorem piecesChars_append_slash {cs : List Char} (h : '/' ∉ cs) (r : List Char) :
    piecesChars (cs ++ '/' :: r) = cs :: piecesChars r := by
  induction cs with
  | nil => rfl
  | cons c cs ih =>
    rw [List.mem_cons, not_or] at h
    rw [List.cons_append, piecesChars, if_neg (Ne.symm h.1), ih h.2]

theorem slash_not_mem_of_mem_piecesChars {p cs : List Char} (h : p ∈ piecesChars cs) : '/' ∉ p := by
  induction cs generalizing p with
  | nil => simp_all [piecesChars]
  | cons c r ih =>
    rw [piecesChars] at h
    by_cases hc : c = '/'
    · rw [if_pos hc, List.mem_cons] at h
      rcases h with rfl | h
      · simp
      · exact ih h
    · rw [if_neg hc] at h
      cases hr : piecesChars r with
      | nil =>
        rw [hr] at h
        obtain rfl := List.mem_singleton.mp h
        simp [Ne.symm hc]
      | cons q qs =>
        rw [hr] at h ih
        rcases List.mem_cons.mp h with rfl | h
        · have hq : '/' ∉ q := ih List.mem_cons_self
          simp [Ne.symm hc, hq]
        · exact ih (List.mem_cons_of_mem _ h)

theorem parts_of_not_mem {p : String} (h : '/' ∉ p.toList) : parts p = [p].filter fun p => Counts p := by
  rw [parts_eq, piecesChars_of_not_mem h, List.map_singleton, String.ofList_toList]

/-- At a slash, what stands before it is a component if it counts. -/
theorem parts_append_slash {p : String} (h : '/' ∉ p.toList) (rest : String) :
    parts (p ++ "/" ++ rest) = ([p].filter fun p => Counts p) ++ parts rest := by
  have htext : (p ++ "/" ++ rest).toList = p.toList ++ '/' :: rest.toList := by simp
  rw [parts_eq, htext, piecesChars_append_slash h, List.map_cons, String.ofList_toList, List.filter_cons]
  split <;> simp [*, parts_eq]

theorem counts_of_mem_parts {p path : String} (h : p ∈ parts path) : '/' ∉ p.toList ∧ Counts p := by
  obtain ⟨hp, hcounts⟩ := List.mem_filter.mp h
  obtain ⟨cs, hcs, rfl⟩ := List.mem_map.mp hp
  rw [String.toList_ofList]
  exact ⟨slash_not_mem_of_mem_piecesChars hcs, by simpa [Counts] using hcounts⟩

/-- A slash at the front adds no component. -/
theorem parts_slash (rest : String) : parts ("/" ++ rest) = parts rest := by
  have h := parts_append_slash (p := "") (by simp) rest
  rwa [String.empty_append] at h

theorem parts_intercalate : ∀ {ps : List String}, (∀ p ∈ ps, '/' ∉ p.toList ∧ Counts p) →
    parts ("/".intercalate ps) = ps
  | [], _ => rfl
  | [p], h => by
    obtain ⟨hslash, hcounts⟩ := h p List.mem_cons_self
    rw [String.intercalate_singleton, parts_of_not_mem hslash]
    simp [hcounts]
  | p :: q :: ps, h => by
    obtain ⟨hslash, hcounts⟩ := h p List.mem_cons_self
    rw [String.intercalate_cons_cons, parts_append_slash hslash,
      parts_intercalate fun q hq => h q (List.mem_cons_of_mem _ hq)]
    simp [hcounts]

theorem root_cases (path : String) : root path = "" ∨ root path = "/" ∨ root path = "//" := by
  unfold root
  split <;> simp

theorem parts_root_append (path rest : String) : parts (root path ++ rest) = parts rest := by
  rcases root_cases path with h | h | h
  · rw [h, String.empty_append]
  · rw [h, parts_slash]
  · rw [h, show ("//" : String) = "/" ++ "/" from rfl, String.append_assoc, parts_slash, parts_slash]

/-- **Leaving out what does not count leaves the components alone.** -/
theorem parts_normal (path : String) : parts (normal path) = parts path := by
  have hcounts : ∀ p ∈ parts path, '/' ∉ p.toList ∧ Counts p := fun p hp => counts_of_mem_parts hp
  rw [normal, ofParts]
  split
  · rename_i hnothing
    rw [hnothing.2]
    decide
  · rw [parts_root_append, parts_intercalate hcounts]

theorem name_normal (path : String) : name (normal path) = name path := by
  rw [name, parts_normal, name]

theorem suffix_normal (path : String) : suffix (normal path) = suffix path := by
  rw [suffix, name_normal, suffix]

end Components

/-! ## Endings -/

section Endings

theorem suffixChars_append_dot {stem ending : List Char} (hstem : stem ≠ []) (hending : ending ≠ [])
    (hdot : '.' ∉ ending) : suffixChars (stem ++ '.' :: ending) = '.' :: ending := by
  obtain ⟨c, stem, rfl⟩ := List.exists_cons_of_ne_nil hstem
  have htail : (stem ++ '.' :: ending).reverse.takeWhile (· ≠ '.') = ending.reverse := by
    have hall : ∀ d ∈ ending.reverse, decide (d ≠ '.') = true := by
      intro d hd
      rw [List.mem_reverse] at hd
      exact decide_eq_true fun h => hdot (h ▸ hd)
    rw [List.reverse_append, List.reverse_cons, List.append_assoc, List.takeWhile_append_of_pos hall]
    simp
  rw [List.cons_append, suffixChars, htail, if_neg]
  · rw [List.reverse_reverse]
  · simp [hending]

theorem suffixChars_cases (cs : List Char) :
    suffixChars cs = [] ∨ ∃ ending, suffixChars cs = '.' :: ending ∧ ending ≠ [] ∧ '.' ∉ ending := by
  cases cs with
  | nil => exact .inl rfl
  | cons c r =>
    rw [suffixChars]
    split
    · exact .inl rfl
    · rename_i h
      refine .inr ⟨_, rfl, ?_, ?_⟩
      · simpa using (not_or.mp h).1
      · intro hdot
        rw [List.mem_reverse] at hdot
        simpa using List.mem_takeWhile_imp hdot

/-- The ending of a last component with something on both sides of its last dot. -/
theorem suffix_of_name {path stem ending : String} (h : name path = stem ++ "." ++ ending) (hstem : stem ≠ "")
    (hending : ending ≠ "") (hdot : '.' ∉ ending.toList) : suffix path = "." ++ ending := by
  have htext : (stem ++ "." ++ ending).toList = stem.toList ++ '.' :: ending.toList := by simp
  rw [suffix, h, htext, suffixChars_append_dot (by simpa using hstem) (by simpa using hending) hdot,
    ← String.toList_inj]
  simp

theorem suffix_cases (path : String) :
    suffix path = "" ∨ ∃ ending, suffix path = "." ++ ending ∧ ending ≠ "" ∧ '.' ∉ ending.toList := by
  rw [suffix]
  rcases suffixChars_cases (name path).toList with h | ⟨ending, h, hending, hdot⟩
  · rw [h]
    exact .inl rfl
  · refine .inr ⟨.ofList ending, ?_, ?_, ?_⟩
    · rw [h, ← String.toList_inj]
      simp
    · simpa [← String.toList_inj] using hending
    · rwa [String.toList_ofList]

end Endings

end SourceOutline.Path
