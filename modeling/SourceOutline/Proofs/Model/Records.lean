import SourceOutline.Model.RecordClass
import SourceOutline.Proofs.Model.DetailsText
import SourceOutline.Proofs.Model.Reading

/-!
# The types inside records

A record of any class has types for parts, and these have supertypes, which have supertypes again
(`RecordClass.allTypes`).

Main statement: `RecordClass.consistent_of_ofJson`: whatever the value, in a record that was read from it
all types agree with their kinds.
-/

namespace SourceOutline

open Checked

namespace TypeDecl

mutual

/-- The declaration and all supertypes written in it, at any depth. -/
def within : TypeDecl → List TypeDecl
  | ⟨package, name, modifiers, kind, superClasses, interfaces⟩ =>
    ⟨package, name, modifiers, kind, superClasses, interfaces⟩ ::
      (withinAll superClasses ++ withinAll interfaces)

/-- The same for the declarations of a list. -/
def withinAll : List TypeDecl → List TypeDecl
  | [] => []
  | t :: ts => t.within ++ withinAll ts

end

mutual

theorem consistent_iff : ∀ {t : TypeDecl}, t.consistent = true ↔ ∀ u ∈ t.within, u.violation? = none
  | ⟨package, name, modifiers, kind, superClasses, interfaces⟩ => by
    have hclasses : consistentAll superClasses = true ↔ ∀ u ∈ withinAll superClasses, u.violation? = none :=
      consistentAll_iff_withinAll
    have hinterfaces : consistentAll interfaces = true ↔ ∀ u ∈ withinAll interfaces, u.violation? = none :=
      consistentAll_iff_withinAll
    rw [within, List.forall_mem_cons, List.forall_mem_append, ← hclasses, ← hinterfaces]
    simp [consistent, and_assoc]

theorem consistentAll_iff_withinAll : ∀ {ts : List TypeDecl},
    consistentAll ts = true ↔ ∀ u ∈ withinAll ts, u.violation? = none
  | [] => by simp [consistentAll, withinAll]
  | t :: ts => by
    rw [withinAll, List.forall_mem_append, ← consistent_iff, ← consistentAll_iff_withinAll]
    simp [consistentAll]

end

end TypeDecl

namespace RecordClass

/-- The types that a record has for parts. -/
def types : (c : RecordClass) → c.Record → List TypeDecl
  | package, _ => []
  | modifiers, _ => []
  | type, t => [t]
  | plainMember, _ => []
  | field, f => (Member.field f).types
  | method, m => (Member.method m).types
  | parameter, p => [p.type]
  | details, d => d.type :: d.members.items.flatMap Member.types
  | importEntry, _ => []
  | file, f => f.types

/-- The types inside a record, at any depth. -/
def allTypes (c : RecordClass) (r : c.Record) : List TypeDecl :=
  (c.types r).flatMap TypeDecl.within

theorem forall_allTypes_iff {c : RecordClass} {r : c.Record} :
    (∀ t ∈ c.allTypes r, t.violation? = none) ↔ ∀ t ∈ c.types r, t.consistent = true := by
  simp only [allTypes, List.forall_mem_flatMap, TypeDecl.consistent_iff]

end RecordClass

/-! ## Records that were read -/

section Reading

theorem Parameter.consistent_of_ofJson {v : Json} {p : Parameter} (h : Parameter.ofJson v = .ok p) :
    p.type.consistent = true := by
  obtain ⟨fields, -, hfields⟩ := object_eq_ok h
  obtain ⟨⟨n, t⟩, hparts, rfl⟩ := map_eq_ok_iff.mp (closed_eq_ok hfields)
  obtain ⟨-, ht⟩ := both_eq_ok_iff.mp hparts
  obtain ⟨key, u, -, hu⟩ := required_eq_ok ht
  exact TypeDecl.consistent_of_ofJson hu

theorem FieldDecl.consistent_of_ofJson {v : Json} {f : FieldDecl} (h : FieldDecl.ofJson v = .ok f) :
    (Member.field f).Consistent := by
  obtain ⟨fields, -, hfields⟩ := object_eq_ok h
  obtain ⟨⟨n, m, k, t⟩, hparts, rfl⟩ := map_eq_ok_iff.mp (closed_eq_ok hfields)
  simp only [both_eq_ok_iff] at hparts
  obtain ⟨-, -, -, ht⟩ := hparts
  obtain ⟨key, u, -, hu⟩ := required_eq_ok ht
  exact List.forall_mem_singleton.mpr (TypeDecl.consistent_of_ofJson hu)

theorem MethodDecl.consistent_of_ofJson {v : Json} {m : MethodDecl} (h : MethodDecl.ofJson v = .ok m) :
    (Member.method m).Consistent := by
  obtain ⟨fields, -, hfields⟩ := object_eq_ok h
  obtain ⟨⟨n, ms, k, t, ps⟩, hparts, rfl⟩ := map_eq_ok_iff.mp (closed_eq_ok hfields)
  simp only [both_eq_ok_iff] at hparts
  obtain ⟨-, -, -, ht, hps⟩ := hparts
  obtain ⟨key, u, -, hu⟩ := required_eq_ok ht
  refine List.forall_mem_cons.mpr ⟨TypeDecl.consistent_of_ofJson hu, List.forall_mem_map.mpr fun p hp => ?_⟩
  rcases optional_eq_ok hps with rfl | ⟨_, w, -, hw⟩
  · simp at hp
  · cases w with
    | arr items =>
      obtain ⟨x, -, hx⟩ := exists_of_mem_itemsFrom hw hp
      exact Parameter.consistent_of_ofJson hx
    | _ => simp [Checked.sequence, fail] at hw

theorem Member.consistent_of_ofJson {v : Json} {m : Member} (h : Member.ofJson v = .ok m) : m.Consistent := by
  cases v with
  | obj fields =>
    by_cases hfield : Table.get? fields "kind" = some (.str "field")
    · rw [ofJson_of_field hfield, under_eq_ok_iff] at h
      obtain ⟨f, hf, rfl⟩ := map_eq_ok_iff.mp h
      exact FieldDecl.consistent_of_ofJson hf
    · by_cases hmethod : Table.get? fields "kind" = some (.str "method")
      · rw [ofJson_of_method hmethod, under_eq_ok_iff] at h
        obtain ⟨g, hg, rfl⟩ := map_eq_ok_iff.mp h
        exact MethodDecl.consistent_of_ofJson hg
      · obtain ⟨c, -, hc⟩ := ofJson_of_other hfield hmethod
        simp [hc, fail] at h
  | _ => simp [Member.ofJson, fail] at h

theorem TypeDetails.consistent_of_ofJson {v : Json} {d : TypeDetails} (h : TypeDetails.ofJson v = .ok d) :
    d.Consistent := by
  obtain ⟨fields, -, hfields⟩ := object_eq_ok h
  obtain ⟨⟨t, s⟩, hparts, rfl⟩ := map_eq_ok_iff.mp (closed_eq_ok hfields)
  obtain ⟨ht, hs⟩ := both_eq_ok_iff.mp hparts
  obtain ⟨key, u, -, hu⟩ := required_eq_ok ht
  refine ⟨TypeDecl.consistent_of_ofJson hu, fun m hm => ?_⟩
  rcases optional_eq_ok hs with rfl | ⟨_, w, -, hw⟩
  · simp [MemberSet.empty] at hm
  · cases w with
    | arr items =>
      obtain ⟨ms, hms, rfl⟩ := map_eq_ok_iff.mp hw
      obtain ⟨x, -, hx⟩ := exists_of_mem_itemsFrom hms (MemberSet.mem_of_mem_ofList hm)
      exact Member.consistent_of_ofJson hx
    | _ => simp [MemberSet.ofJson, fail] at hw

/-- **In a record that was read all types are consistent.** -/
theorem RecordClass.consistent_of_ofJson {c : RecordClass} {v : Json} {r : c.Record}
    (h : c.ofJson v = .ok r) : ∀ t ∈ c.types r, t.consistent = true := by
  cases c with
  | package | modifiers | plainMember | importEntry => simp [types]
  | type => exact List.forall_mem_singleton.mpr (TypeDecl.consistent_of_ofJson h)
  | field => exact FieldDecl.consistent_of_ofJson h
  | method => exact MethodDecl.consistent_of_ofJson h
  | parameter => exact List.forall_mem_singleton.mpr (Parameter.consistent_of_ofJson h)
  | details =>
    obtain ⟨htype, hmembers⟩ := TypeDetails.consistent_of_ofJson h
    refine List.forall_mem_cons.mpr ⟨htype, fun t ht => ?_⟩
    obtain ⟨m, hm, ht⟩ := List.mem_flatMap.mp ht
    exact hmembers m hm t ht
  | file => exact TypeDecl.consistentAll_iff.mp (ParsedFile.consistentAll_of_ofJson h)

end Reading

end SourceOutline
