import SourceOutline.Proofs.Validation.Fields

/-!
# What is reported

`Checked.Reports x fits blamed` says all about the issues of an outcome `x`: there are none but broken
rules exactly if the value fits, and then the issues are those that are `blamed`.  There is one lemma for
each way to put outcomes together; a reader is followed by following its parts.
-/

namespace SourceOutline

/-- The issue is about a rule over several fields. -/
def Issue.IsRule (i : Issue) : Prop :=
  i.complaint.code = "value_error"

namespace Checked

/-- The issues of an outcome; none if there is a value. -/
def issues : Checked α → List Issue
  | .ok _ => []
  | .error is => is

theorem issues_both (x : Checked α) (y : Checked β) : (both x y).issues = x.issues ++ y.issues := by
  cases x <;> cases y <;> simp [both, issues]

theorem issues_map (x : Checked α) (g : α → β) : issues (x.map g) = issues x := by
  cases x <;> rfl

theorem issues_under (x : Checked α) (s : Step) : (x.under s).issues = x.issues.map (Issue.under s) := by
  cases x <;> rfl

/-- What the issues of an outcome tell about the value that was read. -/
structure Reports (x : Checked α) (fits : Prop) (blamed : Issue → Prop) : Prop where
  /-- Without issues there is a value. -/
  ok : x.issues = [] → ∃ a, x = .ok a
  fits_iff : fits ↔ ∀ i ∈ x.issues, i.IsRule
  mem_iff : fits → ∀ i, i ∈ x.issues ↔ blamed i

namespace Reports

variable {x : Checked α} {y : Checked β} {F G : Prop} {B C : Issue → Prop}

theorem congr (h : Reports x F B) (hfits : G ↔ F) (hblamed : F → ∀ i, C i ↔ B i) : Reports x G C where
  ok := h.ok
  fits_iff := hfits.trans h.fits_iff
  mem_iff hG i := by
    have hF := hfits.mp hG
    rw [h.mem_iff hF, hblamed hF]

theorem of_ok (a : α) (hfits : F) (hblamed : ∀ i, ¬ B i) : Reports (.ok a) F B where
  ok _ := ⟨a, rfl⟩
  fits_iff := by simpa [issues] using hfits
  mem_iff _ i := by simpa [issues] using hblamed i

theorem of_fail {c : Complaint} (hc : c.code ≠ "value_error") (hfits : ¬ F) :
    Reports (fail c : Checked α) F B where
  ok h := by simp [fail, issues] at h
  fits_iff := by
    refine ⟨fun h => absurd h hfits, fun h => absurd (h ⟨[], c⟩ ?_) hc⟩
    simp [fail, issues]
  mem_iff h := absurd h hfits

theorem map (h : Reports x F B) (g : α → β) : Reports (x.map g) F B where
  ok hnone := by
    rw [issues_map] at hnone
    obtain ⟨a, rfl⟩ := h.ok hnone
    exact ⟨g a, rfl⟩
  fits_iff := by rw [issues_map, h.fits_iff]
  mem_iff hfits i := by rw [issues_map, h.mem_iff hfits]

theorem both (hx : Reports x F B) (hy : Reports y G C) :
    Reports (both x y) (F ∧ G) fun i => B i ∨ C i where
  ok hnone := by
    rw [issues_both, List.append_eq_nil_iff] at hnone
    obtain ⟨a, rfl⟩ := hx.ok hnone.1
    obtain ⟨b, rfl⟩ := hy.ok hnone.2
    exact ⟨(a, b), rfl⟩
  fits_iff := by rw [issues_both, List.forall_mem_append, hx.fits_iff, hy.fits_iff]
  mem_iff hfits i := by rw [issues_both, List.mem_append, hx.mem_iff hfits.1, hy.mem_iff hfits.2]

theorem under (h : Reports x F B) (s : Step) : Reports (x.under s) F fun i => ∃ j, B j ∧ i = j.under s where
  ok hnone := by
    rw [issues_under, List.map_eq_nil_iff] at hnone
    obtain ⟨a, rfl⟩ := h.ok hnone
    exact ⟨a, rfl⟩
  fits_iff := by
    rw [issues_under, List.forall_mem_map, h.fits_iff]
    rfl
  mem_iff hfits i := by
    simp only [issues_under, List.mem_map, h.mem_iff hfits, eq_comm]

/-! ## Fields -/

section Fields

variable {f : FieldName} {names : List FieldName} {fields : List (String × Json)} {read : Json → Checked α}
  {F : Json → Prop} {B : Json → Issue → Prop}

theorem optional {default : α} (h : ∀ key v, f.find? fields = some (key, v) → Reports (read v) (F v) (B v)) :
    Reports (optional f default read fields) (∀ key v, f.find? fields = some (key, v) → F v)
      fun i => ∃ key v, f.find? fields = some (key, v) ∧ ∃ j, B v j ∧ i = j.under (.key key) := by
  unfold Checked.optional
  cases hf : f.find? fields with
  | none => exact of_ok default (by simp) (by simp)
  | some e =>
    obtain ⟨key, v⟩ := e
    exact ((h key v hf).under (.key key)).congr (by simp) (by simp)

theorem required (h : ∀ key v, f.find? fields = some (key, v) → Reports (read v) (F v) (B v)) :
    Reports (required f read fields)
      (f.find? fields ≠ none ∧ ∀ key v, f.find? fields = some (key, v) → F v)
      fun i => ∃ key v, f.find? fields = some (key, v) ∧ ∃ j, B v j ∧ i = j.under (.key key) := by
  unfold Checked.required
  cases hf : f.find? fields with
  | none =>
    have hmissing : Reports (fail .missing : Checked α) False fun _ => False := of_fail (by decide) id
    exact (hmissing.under (.key f.key)).congr (by simp) (by simp)
  | some e =>
    obtain ⟨key, v⟩ := e
    exact ((h key v hf).under (.key key)).congr (by simp) (by simp)

theorem noneOf_extras : Reports (noneOf (extras names fields)) (extras names fields = []) fun _ => False := by
  rw [noneOf]
  split
  · rename_i hnone
    exact of_ok () hnone (by simp)
  · rename_i hsome
    refine ⟨fun h => absurd h hsome, ⟨fun h => absurd h hsome, fun h => ?_⟩, fun h => absurd h hsome⟩
    -- a field too many is no broken rule
    obtain ⟨i, hi⟩ := List.exists_mem_of_ne_nil _ hsome
    obtain ⟨e, -, rfl⟩ := List.mem_map.mp hi
    exact absurd (h _ hi) (by simp [Issue.IsRule, Complaint.code])

theorem closed {x : Checked α} {F : Prop} {B : Issue → Prop} (h : Reports x F B) :
    Reports (closed names fields x) (extras names fields = [] ∧ F) B :=
  ((h.both noneOf_extras).map Prod.fst).congr and_comm (by simp)

end Fields

/-! ## Lists -/

theorem itemsFrom {read : Json → Checked α} {F : Json → Prop} {B : Json → Issue → Prop} {vs : List Json}
    (h : ∀ v ∈ vs, Reports (read v) (F v) (B v)) (n : Nat) :
    Reports (itemsFrom read n vs) (∀ v ∈ vs, F v)
      fun i => ∃ k v, vs[k]? = some v ∧ ∃ j, B v j ∧ i = j.under (.index (n + k)) := by
  induction vs generalizing n with
  | nil => exact of_ok [] (by simp) (by simp)
  | cons v vs ih =>
    have hhead := (h v List.mem_cons_self).under (.index n)
    have htail := ih (fun u hu => h u (List.mem_cons_of_mem _ hu)) (n + 1)
    refine ((hhead.both htail).map _).congr (by simp) fun _ i => ?_
    constructor
    · rintro ⟨k, u, hu, j, hj, rfl⟩
      cases k with
      | zero =>
        obtain rfl : v = u := by simpa using hu
        exact .inl ⟨j, hj, rfl⟩
      | succ k => exact .inr ⟨k, u, by simpa using hu, j, hj, by rw [Nat.add_right_comm, Nat.add_assoc]⟩
    · rintro (⟨j, hj, rfl⟩ | ⟨k, u, hu, j, hj, rfl⟩)
      · exact ⟨0, v, rfl, j, hj, rfl⟩
      · exact ⟨k + 1, u, by simpa using hu, j, hj, by rw [Nat.add_right_comm, Nat.add_assoc]⟩

end Reports

end Checked

end SourceOutline
