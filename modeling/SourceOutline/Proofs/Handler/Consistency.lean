import SourceOutline.Proofs.Handler.Answers
import SourceOutline.Proofs.Java.Mentions
import SourceOutline.Proofs.Model.DetailsText
import SourceOutline.Proofs.Python.Failures
import SourceOutline.Proofs.Python.Mentions

/-!
# Extracted types are consistent

A type that is emitted agrees with its kind, and the types inside it and inside its members are stubs,
which have nothing to contradict.  So what a handler extracts is read back from its JSON.

Main statement: `Handler.consistent_of_treeDetails`.
-/

namespace SourceOutline

theorem TypeDecl.IsStub.consistent {t : TypeDecl} (h : t.IsStub) : t.consistent = true := by
  obtain ⟨package, name, kind, rfl⟩ := h
  exact consistent_stub package name kind

/-- A type that agrees with its kind is consistent together with its members, if all types inside are
stubs. -/
theorem TypeDetails.consistent_of_stubs {t : TypeDecl} {ms : List Member} (hkind : t.violation? = none)
    (hstubs : ∀ u ∈ t.superClasses ++ t.interfaces ++ ms.flatMap Member.types, u.IsStub) :
    Consistent ⟨t, .ofList ms⟩ := by
  have hsupertypes : ∀ u ∈ t.superClasses ++ t.interfaces, u.consistent = true := fun u hu =>
    (hstubs u (List.mem_append_left _ hu)).consistent
  constructor
  · obtain ⟨package, name, modifiers, kind, superClasses, interfaces⟩ := t
    have hclasses : TypeDecl.consistentAll superClasses = true :=
      TypeDecl.consistentAll_iff.mpr fun u hu => hsupertypes u (List.mem_append_left _ hu)
    have hinterfaces : TypeDecl.consistentAll interfaces = true :=
      TypeDecl.consistentAll_iff.mpr fun u hu => hsupertypes u (List.mem_append_right _ hu)
    rw [TypeDecl.consistent, hkind, hclasses, hinterfaces]
    rfl
  · intro m hm u hu
    have hmem : u ∈ ms.flatMap Member.types :=
      List.mem_flatMap.mpr ⟨m, MemberSet.mem_of_mem_ofList hm, hu⟩
    exact (hstubs u (List.mem_append_right _ hmem)).consistent

theorem Java.consistent_of_details {src : Source} {root : Node} {ds : List TypeDetails}
    (hds : (details src root).result = .ok ds) : ∀ d ∈ ds, d.Consistent := by
  obtain ⟨fs, hfound, rfl⟩ := exists_found_of_details hds
  rw [result_found] at hfound
  intro d hd
  obtain ⟨f, hf, rfl⟩ := List.mem_map.mp hd
  obtain ⟨e, -, he⟩ := exists_of_mem_of_mapM_eq_ok hfound hf
  obtain ⟨t, ht, rfl⟩ := map_eq_ok_iff.mp he
  obtain ⟨hkind, rfl⟩ := TypeDecl.make_eq_ok_iff.mp ht
  exact TypeDetails.consistent_of_stubs hkind fun u hu => isStub_of_foundAt he hu

theorem Python.consistent_of_details {src : Source} {module : String} {root : Node} {ds : List TypeDetails}
    (hds : (details src module root).result = .ok ds) : ∀ d ∈ ds, d.Consistent := by
  obtain ⟨fs, hfound, rfl⟩ := map_eq_ok_iff.mp hds
  rw [result_found] at hfound
  intro d hd
  obtain ⟨f, hf, rfl⟩ := List.mem_map.mp hd
  obtain ⟨e, -, he⟩ := exists_of_mem_of_mapM_eq_ok hfound hf
  refine TypeDetails.consistent_of_stubs ?_ fun u hu => isStub_of_foundAt he hu
  rw [(of_foundAt_eq_ok he).1]
  exact violation?_header src _ _ _

namespace Handler

/-- **What a handler extracts is consistent**: every type with its members. -/
theorem consistent_of_treeDetails {h : Handler} {src : Source} {root : Node} {ds : List TypeDetails}
    (hds : (h.treeDetails src root).result = .ok ds) : ∀ d ∈ ds, d.Consistent := by
  cases h with
  | java => exact Java.consistent_of_details hds
  | python module => exact Python.consistent_of_details hds

end Handler

end SourceOutline
