import SourceOutline.Proofs.Model.MemberSets
import SourceOutline.Proofs.Model.Records

/-!
# Records are read back

A record is read back from its JSON exactly if the types inside it agree with their kinds, which they do
in every record that was read.

Main statement: `RecordClass.records_read_back`.
-/

namespace SourceOutline

open Checked

theorem PlainMember.ofJson_toJson (m : PlainMember) : PlainMember.ofJson m.toJson = .ok m := by
  unfold PlainMember.ofJson PlainMember.toJson
  rw [object, required_of_find? rfl (string_str m.name),
    optional_of_find? rfl (Modifiers.ofJson_toJson m.modifiers)]
  exact closed_ok rfl m

theorem RecordClass.ofJson_toJson_of_consistent {c : RecordClass} {r : c.Record}
    (h : ∀ t ∈ c.types r, t.consistent = true) : c.ofJson (c.toJson r) = .ok r := by
  cases c with
  | package => exact Package.ofJson_toJson r
  | modifiers => exact Modifiers.ofJson_toJson r
  | type => exact TypeDecl.ofJson_toJson (h _ List.mem_cons_self)
  | plainMember => exact PlainMember.ofJson_toJson r
  | field => exact FieldDecl.ofJson_toJson (h _ List.mem_cons_self)
  | method => exact MethodDecl.ofJson_toJson h
  | parameter => exact Parameter.ofJson_toJson (h _ List.mem_cons_self)
  | details =>
    obtain ⟨htype, hmembers⟩ := List.forall_mem_cons.mp h
    exact TypeDetails.ofJson_toJson ⟨htype, List.forall_mem_flatMap.mp hmembers⟩
  | importEntry => exact Import.ofJson_toJson r
  | file => exact ParsedFile.ofJson_toJson (TypeDecl.consistentAll_iff.mpr h)

/-- **Records are read back.**  A record is read back from its JSON exactly if all types inside it, at any
depth, agree with their kinds; a record that was read always is; and a type with any finite set of members
is such a record, if their types agree with their kinds. -/
theorem RecordClass.records_read_back :
    (∀ (c : RecordClass) (r : c.Record),
      c.ofJson (c.toJson r) = .ok r ↔ ∀ t ∈ c.allTypes r, t.violation? = none) ∧
    (∀ (c : RecordClass) (v : Json) (r : c.Record), c.ofJson v = .ok r → c.ofJson (c.toJson r) = .ok r) ∧
    ∀ (t : TypeDecl) (ms : List Member),
      (∀ u ∈ t :: ms.flatMap Member.types, ∀ s ∈ u.within, s.violation? = none) →
      ∃! d : TypeDetails, d.type = t ∧ (∀ m, m ∈ d.members.items ↔ m ∈ ms) ∧
        TypeDetails.ofJson d.toJson = .ok d := by
  refine ⟨fun c r => ?_, fun c v r h => ?_, fun t ms h => ?_⟩
  · rw [forall_allTypes_iff]
    exact ⟨consistent_of_ofJson, ofJson_toJson_of_consistent⟩
  · exact ofJson_toJson_of_consistent (consistent_of_ofJson h)
  · simp only [← TypeDecl.consistent_iff, List.forall_mem_cons, List.forall_mem_flatMap] at h
    obtain ⟨htype, hms⟩ := h
    have hmem : ∀ m, m ∈ (MemberSet.ofList ms).items ↔ m ∈ ms := fun m => MemberSet.mem_ofList_iff
    refine ⟨⟨t, .ofList ms⟩, ⟨rfl, hmem, ?_⟩, ?_⟩
    · exact TypeDetails.ofJson_toJson ⟨htype, fun m hm => hms m ((hmem m).mp hm)⟩
    · rintro ⟨u, s⟩ ⟨rfl, hs, -⟩
      obtain rfl : s = .ofList ms := MemberSet.ext_items fun m => (hs m).trans (hmem m).symm
      rfl

end SourceOutline
