import Mathlib.Data.List.Induction
import SourceOutline.Table

/-!
# What tables hold

* `mem_of_get?`: a value that is found belongs to an entry.
* `get?_eq_none_iff`, `set_of_get?`, `set_of_not_mem`: keys that the table has, and keys that it has not.
* `nodup_keys_set`, `get?_eq_some_iff`: keys stay different from each other, and then every entry is found.
* `get?_map_values`, `get?_filter_values`, `get?_of_perm`: look-ups after values are changed, entries are
  left out by their values, or entries are put in another order.
* `get?_foldl_set`: one value for several keys.
* `ofPairs_of_nodup`: pairs with different keys are a table already.
* `nodup_keys_ofPairs`, `mem_of_mem_ofPairs`, `get?_ofPairs`: a table of pairs has no key twice and holds
  the last value of each.
-/

namespace SourceOutline.Table

variable {κ : Type v} [DecidableEq κ] {β : Type u}

theorem mem_of_get? {t : Table κ β} {key : κ} {value : β} (h : get? t key = some value) :
    (key, value) ∈ t := by
  induction t with
  | nil => simp at h
  | cons e t ih =>
    obtain ⟨k, v⟩ := e
    rw [get?] at h
    by_cases hk : k = key
    · rw [if_pos hk, Option.some.injEq] at h
      rw [hk, h]
      exact List.mem_cons_self
    · rw [if_neg hk] at h
      exact List.mem_cons_of_mem _ (ih h)

theorem get?_eq_none_iff {t : Table κ β} {key : κ} : get? t key = none ↔ key ∉ t.keys := by
  induction t with
  | nil => simp [keys]
  | cons e t ih =>
    obtain ⟨k, v⟩ := e
    rw [get?, keys, List.map_cons, List.mem_cons, not_or]
    by_cases hk : k = key
    · simp [hk]
    · rw [if_neg hk, ih]
      exact ⟨fun ht => ⟨Ne.symm hk, ht⟩, And.right⟩

/-- Setting a key to the value that it has changes nothing. -/
theorem set_of_get? {t : Table κ β} {key : κ} {value : β} (h : get? t key = some value) :
    set t key value = t := by
  induction t with
  | nil => simp at h
  | cons e t ih =>
    obtain ⟨k, v⟩ := e
    rw [get?] at h
    rw [set]
    by_cases hk : k = key
    · rw [if_pos hk, Option.some.injEq] at h
      rw [if_pos hk, h]
    · rw [if_neg hk] at h
      rw [if_neg hk, ih h]

theorem set_of_not_mem {t : Table κ β} {key : κ} (h : key ∉ t.keys) (value : β) :
    set t key value = t ++ [(key, value)] := by
  induction t with
  | nil => rfl
  | cons e t ih =>
    obtain ⟨k, v⟩ := e
    have hk : ¬ k = key := fun hk => h (hk ▸ List.mem_cons_self)
    rw [set, if_neg hk, ih fun ht => h (List.mem_cons_of_mem _ ht)]
    rfl

theorem has_iff {t : Table κ β} {key : κ} : t.has key = true ↔ key ∈ t.keys := by
  rw [has, Option.isSome_iff_ne_none, ne_eq, get?_eq_none_iff, not_not]

theorem mem_keys_set {t : Table κ β} {key key' : κ} {value : β} :
    key' ∈ (set t key value).keys ↔ key' = key ∨ key' ∈ t.keys := by
  rw [← not_iff_not, ← get?_eq_none_iff, get?_set, not_or, ← get?_eq_none_iff]
  by_cases h : key = key'
  · simp [h]
  · simp [h, Ne.symm h]

theorem nodup_keys_set {t : Table κ β} (h : t.keys.Nodup) (key : κ) (value : β) :
    (set t key value).keys.Nodup := by
  induction t with
  | nil => simp [set, keys]
  | cons e t ih =>
    obtain ⟨k, v⟩ := e
    obtain ⟨hk, ht⟩ := List.nodup_cons.mp h
    by_cases hkey : k = key
    · rw [set, if_pos hkey]
      exact h
    · rw [set, if_neg hkey]
      refine List.nodup_cons.mpr ⟨fun hmem => ?_, ih ht⟩
      rcases mem_keys_set.mp hmem with heq | hmem
      · exact hkey heq
      · exact hk hmem

theorem nodup_keys_setIfAbsent {t : Table κ β} (h : t.keys.Nodup) (key : κ) (value : β) :
    (setIfAbsent t key value).keys.Nodup := by
  unfold setIfAbsent
  split
  · exact h
  · exact nodup_keys_set h key value

/-- In a table with different keys, what is found are the entries. -/
theorem get?_eq_some_iff {t : Table κ β} (h : t.keys.Nodup) {key : κ} {value : β} :
    t.get? key = some value ↔ (key, value) ∈ t := by
  refine ⟨mem_of_get?, ?_⟩
  induction t with
  | nil => simp
  | cons e t ih =>
    obtain ⟨k, v⟩ := e
    obtain ⟨hk, ht⟩ := List.nodup_cons.mp h
    intro hmem
    rw [get?]
    rcases List.mem_cons.mp hmem with heq | hmem
    · cases heq
      rw [if_pos rfl]
    · have hne : k ≠ key := by
        rintro rfl
        exact hk (List.mem_map.mpr ⟨_, hmem, rfl⟩)
      rw [if_neg hne, ih ht hmem]

theorem get?_map_values (f : β → γ) (t : Table κ β) (key : κ) :
    get? (t.map fun e => (e.1, f e.2)) key = (get? t key).map f := by
  induction t with
  | nil => rfl
  | cons e t ih =>
    rw [List.map_cons, get?, get?]
    by_cases h : e.1 = key
    · rw [if_pos h, if_pos h, Option.map_some]
    · rw [if_neg h, if_neg h, ih]

/-- Where keys differ from each other, entries can be left out by their values. -/
theorem get?_filter_values (p : β → Bool) {t : Table κ β} (h : t.keys.Nodup) (key : κ) :
    get? (t.filter fun e => p e.2) key = (get? t key).filter p := by
  induction t with
  | nil => rfl
  | cons e t ih =>
    obtain ⟨k, v⟩ := e
    obtain ⟨hk, ht⟩ := List.nodup_cons.mp h
    by_cases hkey : k = key
    · subst hkey
      have hnone : get? t k = none := get?_eq_none_iff.mpr hk
      cases hp : p v with
      | true => simp [get?, hp, Option.filter]
      | false => simp [get?, hp, ih ht, hnone, Option.filter]
    · cases hp : p v with
      | true => simp [get?, hp, hkey, ih ht]
      | false => simp [get?, hp, hkey, ih ht]

/-- Where keys differ from each other, their order does not matter. -/
theorem get?_of_perm {t u : Table κ β} (h : t.keys.Nodup) (hperm : t.Perm u) (key : κ) :
    t.get? key = u.get? key := by
  have hu : u.keys.Nodup := (hperm.map Prod.fst).nodup_iff.mp h
  ext value
  rw [get?_eq_some_iff h, get?_eq_some_iff hu, hperm.mem_iff]

/-- Several keys that are given one value. -/
theorem get?_foldl_set (f : α → κ) (value : β) (xs : List α) (t : Table κ β) (key : κ) :
    get? (xs.foldl (fun t x => t.set (f x) value) t) key =
      if ∃ x ∈ xs, f x = key then some value else get? t key := by
  induction xs generalizing t with
  | nil => simp
  | cons x xs ih =>
    rw [List.foldl_cons, ih, get?_set]
    by_cases hxs : ∃ y ∈ xs, f y = key
    · simp [hxs]
    · by_cases hx : f x = key
      · simp [hx]
      · simp [hxs, hx]

theorem nodup_keys_foldl_set (f : α → κ) (value : β) (xs : List α) {t : Table κ β}
    (h : t.keys.Nodup) : (xs.foldl (fun t x => t.set (f x) value) t).keys.Nodup := by
  induction xs generalizing t with
  | nil => exact h
  | cons x xs ih => exact ih (nodup_keys_set h (f x) value)

theorem ofPairs_concat (l : List (κ × β)) (e : κ × β) :
    ofPairs (l ++ [e]) = set (ofPairs l) e.1 e.2 := by
  simp [ofPairs, List.foldl_append]

theorem nodup_keys_ofPairs (l : List (κ × β)) : (ofPairs l).keys.Nodup := by
  induction l using List.reverseRecOn with
  | nil => exact List.nodup_nil
  | append_singleton l e ih =>
    rw [ofPairs_concat]
    exact nodup_keys_set ih e.1 e.2

/-- A table of pairs has no entries but these. -/
theorem mem_of_mem_ofPairs {l : List (κ × β)} {e : κ × β} (h : e ∈ ofPairs l) : e ∈ l := by
  induction l using List.reverseRecOn with
  | nil => exact h
  | append_singleton l e' ih =>
    rw [ofPairs_concat] at h
    rw [List.mem_append, List.mem_singleton]
    exact (mem_set_imp h).symm.imp_left ih

/-- Pairs with keys all different are a table as they stand. -/
theorem ofPairs_of_nodup {l : List (κ × β)} (h : (l.map Prod.fst).Nodup) : ofPairs l = l := by
  induction l using List.reverseRecOn with
  | nil => rfl
  | append_singleton l e ih =>
    rw [List.map_append, List.nodup_append] at h
    have hnew : e.1 ∉ keys l := fun he => h.2.2 e.1 he e.1 (by simp) rfl
    rw [ofPairs_concat, ih h.1, set_of_not_mem hnew]

/-- Of the pairs with one key, the last one counts. -/
theorem get?_ofPairs (l : List (κ × β)) (key : κ) :
    get? (ofPairs l) key = ((l.filter fun e => e.1 = key).getLast?).map Prod.snd := by
  induction l using List.reverseRecOn with
  | nil => rfl
  | append_singleton l e ih =>
    rw [ofPairs_concat, get?_set, ih, List.filter_append]
    by_cases h : e.1 = key
    · simp [h]
    · simp [h]

end SourceOutline.Table
