import SourceOutline.Proofs.Outcome
import SourceOutline.Proofs.Table
import SourceOutline.Validation.Fields

/-!
# Fields that are read

What it takes to read a field or a whole object (`optional_of_find?`, `required_of_find?`,
`closed_ok`), and what follows when one was read (`optional_eq_ok`, `required_eq_ok`, `closed_eq_ok`,
`exists_of_mem_itemsFrom`).
-/

namespace SourceOutline

theorem FieldName.mem_of_find? {f : FieldName} {fields : List (String × α)} {key : String} {v : α}
    (h : f.find? fields = some (key, v)) : ∃ k, (k, v) ∈ fields := by
  unfold FieldName.find? at h
  cases hk : Table.get? fields f.key with
  | some w =>
    rw [hk] at h
    obtain ⟨-, rfl⟩ : f.key = key ∧ w = v := by simpa using h
    exact ⟨_, Table.mem_of_get? hk⟩
  | none =>
    rw [hk] at h
    obtain ⟨w, hw, heq⟩ := Option.map_eq_some_iff.mp h
    obtain ⟨-, rfl⟩ : f.other = key ∧ w = v := by simpa using heq
    exact ⟨_, Table.mem_of_get? hw⟩

namespace Checked

theorem under_eq_ok_iff {s : Step} {x : Checked α} {a : α} : x.under s = .ok a ↔ x = .ok a := by
  cases x <;> simp [under]

theorem string_str (s : String) : string (.str s) = .ok s := rfl

/-! ## Reading succeeds -/

section Reading

variable {f : FieldName} {a : β} {read : α → Checked β} {fields : List (String × α)} {key : String} {v : α}

theorem optional_of_find? {default : β} (h : f.find? fields = some (key, v)) (hr : read v = .ok a) :
    optional f default read fields = .ok a := by
  rw [optional, h]
  exact under_eq_ok_iff.mpr hr

theorem required_of_find? (h : f.find? fields = some (key, v)) (hr : read v = .ok a) :
    required f read fields = .ok a := by
  rw [required, h]
  exact under_eq_ok_iff.mpr hr

theorem extras_eq_nil {names : List FieldName} {fields : List (String × α)} :
    extras names fields = [] ↔ ∀ e ∈ fields, ∃ f ∈ names, f.takes fields e.1 = true := by
  rw [extras, List.map_eq_nil_iff, List.filter_eq_nil_iff]
  simp

theorem closed_ok {names : List FieldName} (h : extras names fields = []) (a : β) :
    closed names fields (.ok a) = .ok a := by
  rw [closed, h]
  rfl

end Reading

theorem itemsFrom_map {read : Json → Checked α} {write : α → Json} :
    ∀ (i : Nat) (as : List α), (∀ a ∈ as, read (write a) = .ok a) → itemsFrom read i (as.map write) = .ok as
  | _, [], _ => rfl
  | i, a :: as, h => by
    rw [List.map_cons, itemsFrom, h a List.mem_cons_self,
      itemsFrom_map (i + 1) as fun b hb => h b (List.mem_cons_of_mem _ hb)]
    rfl

/-! ## Reading has succeeded -/

/-- Known fields are read, and there are no others. -/
theorem closed_eq_ok_iff {names : List FieldName} {fields : List (String × α)} {x : Checked β} {b : β} :
    closed names fields x = .ok b ↔ extras names fields = [] ∧ x = .ok b := by
  unfold closed
  constructor
  · intro h
    obtain ⟨⟨a, u⟩, hboth, rfl⟩ := map_eq_ok_iff.mp h
    obtain ⟨hx, hextras⟩ := both_eq_ok_iff.mp hboth
    refine ⟨?_, hx⟩
    by_contra hne
    rw [noneOf, if_neg hne] at hextras
    cases hextras
  · rintro ⟨hextras, rfl⟩
    exact closed_ok hextras b

theorem closed_eq_ok {names : List FieldName} {fields : List (String × α)} {x : Checked β} {b : β}
    (h : closed names fields x = .ok b) : x = .ok b :=
  (closed_eq_ok_iff.mp h).2

/-- An optional field has its default value, or one that was read. -/
theorem optional_eq_ok {f : FieldName} {default a : β} {read : α → Checked β}
    {fields : List (String × α)} (h : optional f default read fields = .ok a) :
    a = default ∨ ∃ k v, (k, v) ∈ fields ∧ read v = .ok a := by
  unfold optional at h
  cases hf : f.find? fields with
  | none =>
    rw [hf] at h
    exact Or.inl (by simpa using h.symm)
  | some e =>
    obtain ⟨key, v⟩ := e
    rw [hf] at h
    obtain ⟨k, hk⟩ := FieldName.mem_of_find? hf
    exact Or.inr ⟨k, v, hk, under_eq_ok_iff.mp h⟩

theorem required_eq_ok {f : FieldName} {a : β} {read : α → Checked β} {fields : List (String × α)}
    (h : required f read fields = .ok a) : ∃ key v, f.find? fields = some (key, v) ∧ read v = .ok a := by
  unfold required at h
  cases hf : f.find? fields with
  | none => simp [hf] at h
  | some e =>
    rw [hf] at h
    exact ⟨e.1, e.2, rfl, under_eq_ok_iff.mp h⟩

theorem object_eq_ok {read : List (String × Json) → Checked α} {v : Json} {a : α}
    (h : object read v = .ok a) : ∃ fields, v = .obj fields ∧ read fields = .ok a := by
  cases v with
  | obj fields => exact ⟨fields, rfl, h⟩
  | _ => simp [object, fail] at h

/-- Every item of a list that was read comes from a value. -/
theorem exists_of_mem_itemsFrom {read : Json → Checked α} {a : α} :
    ∀ {i : Nat} {vs : List Json} {as : List α}, itemsFrom read i vs = .ok as → a ∈ as →
      ∃ v ∈ vs, read v = .ok a
  | _, [], as, h, ha => by
    obtain rfl : [] = as := by simpa [itemsFrom] using h
    simp at ha
  | i, v :: vs, as, h, ha => by
    rw [itemsFrom] at h
    obtain ⟨⟨b, bs⟩, hboth, rfl⟩ := map_eq_ok_iff.mp h
    obtain ⟨hb, hbs⟩ := both_eq_ok_iff.mp hboth
    rcases List.mem_cons.mp ha with rfl | ha
    · exact ⟨v, List.mem_cons_self, under_eq_ok_iff.mp hb⟩
    · obtain ⟨w, hw, hread⟩ := exists_of_mem_itemsFrom hbs ha
      exact ⟨w, List.mem_cons_of_mem _ hw, hread⟩

end Checked

end SourceOutline
