import SourceOutline.Model.Reading
import SourceOutline.Proofs.Validation.Fields

/-!
# Types that agree with their kinds

A declaration is consistent if neither it nor a supertype written in it, at any depth, contradicts
its kind (`TypeDecl.consistent`).

* `TypeDecl.ofJson_toJson`: a consistent type is read back from its JSON.
* `TypeDecl.consistent_of_ofJson`: whatever the value, a type that was read is consistent.
-/

namespace SourceOutline

open Checked

namespace TypeDecl

mutual

/-- The declaration and every supertype written in it, at any depth, agree with their kinds. -/
def consistent : TypeDecl → Bool
  | ⟨package, name, modifiers, kind, superClasses, interfaces⟩ =>
    (violation? ⟨package, name, modifiers, kind, superClasses, interfaces⟩).isNone
      && consistentAll superClasses && consistentAll interfaces

/-- All declarations of a list are consistent. -/
def consistentAll : List TypeDecl → Bool
  | [] => true
  | t :: ts => t.consistent && consistentAll ts

end

theorem consistentAll_iff {ts : List TypeDecl} :
    consistentAll ts = true ↔ ∀ t ∈ ts, t.consistent = true := by
  induction ts with
  | nil => simp [consistentAll]
  | cons t ts ih => simp [consistentAll, ih]

theorem checkKind_eq_ok_iff {t u : TypeDecl} : t.checkKind = .ok u ↔ t.violation? = none ∧ u = t := by
  cases h : t.violation? with
  | none => simp [checkKind, h, eq_comm]
  | some v => simp [checkKind, h, fail]

end TypeDecl

/-! ## Records are read back -/

theorem Package.ofJson_toJson (p : Package) : Package.ofJson p.toJson = .ok p := rfl

theorem Modifiers.ofJson_toJson (m : Modifiers) : Modifiers.ofJson m.toJson = .ok m := by
  obtain ⟨s, f, a, v⟩ := m
  cases v <;> rfl

namespace TypeDecl

/-- Once both lists of supertypes are read back, only the rules on kinds can stand against a
type. -/
theorem ofJson_eq_checkKind {t : TypeDecl}
    (hcs : listOfJson (.arr (toJsonAll t.superClasses)) = .ok t.superClasses)
    (his : listOfJson (.arr (toJsonAll t.interfaces)) = .ok t.interfaces) : ofJson t.toJson = t.checkKind := by
  obtain ⟨p, n, m, k, cs, is⟩ := t
  have hk : word TypeKind.ofWord? (.str k.word) = .ok k := by
    simp only [word, TypeKind.ofWord?_word]
  simp only [toJson, ofJson, listFields, hcs, his]
  rw [assemble, optional_of_find? rfl (Package.ofJson_toJson p), required_of_find? rfl (string_str n),
    optional_of_find? rfl (Modifiers.ofJson_toJson m), optional_of_find? rfl hk,
    optional_of_find? rfl (id_eq (Except.ok cs)), optional_of_find? rfl (id_eq (Except.ok is))]
  simp only [both_ok, Except.map]
  rw [closed_ok rfl]
  rfl

mutual

theorem ofJson_toJson : ∀ {t : TypeDecl}, t.consistent = true → ofJson t.toJson = .ok t
  | ⟨p, n, m, k, cs, is⟩, h => by
    simp only [consistent, Bool.and_eq_true, Option.isNone_iff_eq_none] at h
    obtain ⟨⟨hk, hcs⟩, his⟩ := h
    rw [ofJson_eq_checkKind (listOfJson_toJsonAll hcs) (listOfJson_toJsonAll his)]
    exact checkKind_eq_ok_iff.mpr ⟨hk, rfl⟩

theorem listOfJson_toJsonAll : ∀ {ts : List TypeDecl}, consistentAll ts = true →
    listOfJson (.arr (toJsonAll ts)) = .ok ts := by
  intro ts h
  rw [listOfJson]
  exact itemsOfJson_toJsonAll 0 h

theorem itemsOfJson_toJsonAll : ∀ (i : Nat) {ts : List TypeDecl}, consistentAll ts = true →
    itemsOfJson i (toJsonAll ts) = .ok ts
  | _, [], _ => rfl
  | i, t :: ts, h => by
    simp only [consistentAll, Bool.and_eq_true] at h
    rw [toJsonAll, itemsOfJson, ofJson_toJson h.1, itemsOfJson_toJsonAll (i + 1) h.2]
    rfl

end

/-! ## What was read is consistent -/

/-- A type is put together from lists that were read, and only if it keeps the rules. -/
theorem assemble_eq_ok {fields : List (String × Json)} {lists : List (String × Checked (List TypeDecl))}
    {t : TypeDecl} (h : assemble fields lists = .ok t) :
    t.violation? = none ∧ optional .superClasses [] id lists = .ok t.superClasses ∧
      optional .interfaces [] id lists = .ok t.interfaces := by
  obtain ⟨u, hu, hk⟩ := bind_eq_ok_iff.mp h
  obtain ⟨hviol, rfl⟩ := checkKind_eq_ok_iff.mp hk
  obtain ⟨⟨p, n, m, k, cs, is⟩, hparts, rfl⟩ := map_eq_ok_iff.mp (closed_eq_ok hu)
  simp only [both_eq_ok_iff] at hparts
  obtain ⟨-, -, -, -, hcs, his⟩ := hparts
  exact ⟨hviol, hcs, his⟩

mutual

theorem consistent_of_ofJson : ∀ {v : Json} {t : TypeDecl}, ofJson v = .ok t → t.consistent = true
  | .obj fields, t, h => by
    rw [ofJson] at h
    obtain ⟨hk, hcs, his⟩ := assemble_eq_ok h
    have hlist : ∀ {f : FieldName} {ts : List TypeDecl}, optional f [] id (listFields fields) = .ok ts →
        consistentAll ts = true := by
      intro f ts hf
      rcases optional_eq_ok hf with rfl | ⟨k, r, hmem, hr⟩
      · rfl
      · exact consistentAll_of_mem_listFields hmem hr
    obtain ⟨p, n, m, k, cs, is⟩ := t
    simp [consistent, hk, hlist hcs, hlist his]
  | .null, _, h | .bool _, _, h | .int _, _, h | .float _, _, h | .str _, _, h | .arr _, _, h => by
    simp [ofJson, fail] at h

theorem consistentAll_of_listOfJson : ∀ {v : Json} {ts : List TypeDecl}, listOfJson v = .ok ts →
    consistentAll ts = true
  | .arr items, ts, h => by
    rw [listOfJson] at h
    exact consistentAll_of_itemsOfJson h
  | .null, _, h | .bool _, _, h | .int _, _, h | .float _, _, h | .str _, _, h | .obj _, _, h => by
    simp [listOfJson, fail] at h

theorem consistentAll_of_itemsOfJson : ∀ {i : Nat} {items : List Json} {ts : List TypeDecl},
    itemsOfJson i items = .ok ts → consistentAll ts = true
  | _, [], ts, h => by
    simp only [itemsOfJson, Except.ok.injEq] at h
    rw [← h]
    rfl
  | i, v :: vs, ts, h => by
    rw [itemsOfJson] at h
    obtain ⟨⟨t, us⟩, hboth, rfl⟩ := map_eq_ok_iff.mp h
    obtain ⟨ht, hus⟩ := both_eq_ok_iff.mp hboth
    have hhead := consistent_of_ofJson (under_eq_ok_iff.mp ht)
    have htail := consistentAll_of_itemsOfJson hus
    simp [consistentAll, hhead, htail]

theorem consistentAll_of_mem_listFields : ∀ {fields : List (String × Json)} {k : String}
    {r : Checked (List TypeDecl)} {ts : List TypeDecl}, (k, r) ∈ listFields fields → r = .ok ts →
    consistentAll ts = true
  | (_, v) :: fs, k, r, ts, h, hr => by
    rcases List.mem_cons.mp h with heq | h
    · obtain ⟨-, rfl⟩ := Prod.mk.inj heq
      exact consistentAll_of_listOfJson hr
    · exact consistentAll_of_mem_listFields h hr

end

end TypeDecl

end SourceOutline
