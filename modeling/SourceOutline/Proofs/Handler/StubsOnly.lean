import SourceOutline.Java.Grammar
import SourceOutline.Proofs.Handler.Answers
import SourceOutline.Proofs.Java.Mentions
import SourceOutline.Proofs.Model.MemberSets
import SourceOutline.Proofs.Python.Mentions
import SourceOutline.Python.Grammar

/-!
# Extracted types refer to each other by stubs

Whatever stands inside a type with its members, be it a supertype, the type of a field or parameter, or what a
method returns, carries package, name and kind only.  So nothing stands inside these types in turn, also where
declarations refer to themselves or to each other.

* `TypeDecl.Encloses`, `TypeDetails.Holds`: what stands inside a type, and inside a type with its members, at
  every depth.
* `TypeDecl.isStub_iff`: a stub has the usual modifiers and no supertypes; it encloses nothing
  (`TypeDecl.IsStub.not_encloses`).

Main statement: `Handler.bare_of_holds`.
-/

namespace SourceOutline

/-! ## What stands inside a type -/

section Inside

/-- The second type stands inside the first one, as a supertype or inside a supertype. -/
inductive TypeDecl.Encloses : TypeDecl → TypeDecl → Prop
  | direct {t u : TypeDecl} : u ∈ t.superClasses ++ t.interfaces → Encloses t u
  | inner {t u v : TypeDecl} : u ∈ t.superClasses ++ t.interfaces → Encloses u v → Encloses t v

/-- The types that stand directly in a type with its members. -/
def TypeDetails.types (d : TypeDetails) : List TypeDecl :=
  d.type.superClasses ++ d.type.interfaces ++ d.members.items.flatMap Member.types

/-- A type stands strictly inside a type with its members, at whatever depth. -/
def TypeDetails.Holds (d : TypeDetails) (t : TypeDecl) : Prop :=
  t ∈ d.types ∨ ∃ u ∈ d.types, u.Encloses t

theorem TypeDecl.isStub_iff {t : TypeDecl} :
    t.IsStub ↔ t.modifiers = {} ∧ t.superClasses = [] ∧ t.interfaces = [] := by
  constructor
  · rintro ⟨package, name, kind, rfl⟩
    exact ⟨rfl, rfl, rfl⟩
  · obtain ⟨package, name, modifiers, kind, superClasses, interfaces⟩ := t
    rintro ⟨rfl, rfl, rfl⟩
    exact ⟨package.name, name, kind, rfl⟩

/-- Nothing stands inside a stub. -/
theorem TypeDecl.IsStub.not_encloses {t : TypeDecl} (h : t.IsStub) (u : TypeDecl) : ¬ t.Encloses u := by
  obtain ⟨-, hclasses, hinterfaces⟩ := isStub_iff.mp h
  rintro (hu | ⟨hu, -⟩) <;> simp [hclasses, hinterfaces] at hu

/-- Where the types that stand directly in it are stubs, there are no others. -/
theorem TypeDetails.mem_types_of_holds {d : TypeDetails} (hstubs : ∀ t ∈ d.types, t.IsStub) {t : TypeDecl}
    (h : d.Holds t) : t ∈ d.types := by
  rcases h with ht | ⟨u, hu, hinner⟩
  · exact ht
  · exact absurd hinner ((hstubs u hu).not_encloses t)

theorem TypeDetails.types_ofList {t u : TypeDecl} {ms : List Member} :
    u ∈ (⟨t, .ofList ms⟩ : TypeDetails).types ↔
      u ∈ t.superClasses ++ t.interfaces ++ ms.flatMap Member.types := by
  simp only [types, List.mem_append, List.mem_flatMap, MemberSet.mem_ofList_iff]

end Inside

/-! ## What is extracted -/

section Extracted

variable {src : Source} {root : Node} {ds : List TypeDetails}

theorem Java.isStub_of_details (hds : (details src root).result = .ok ds) :
    ∀ d ∈ ds, ∀ t ∈ d.types, t.IsStub := by
  obtain ⟨fs, hfound, rfl⟩ := exists_found_of_details hds
  rw [result_found] at hfound
  intro d hd t ht
  obtain ⟨f, hf, rfl⟩ := List.mem_map.mp hd
  obtain ⟨e, -, he⟩ := exists_of_mem_of_mapM_eq_ok hfound hf
  exact isStub_of_foundAt he (TypeDetails.types_ofList.mp ht)

theorem Python.isStub_of_details {module : String} (hds : (details src module root).result = .ok ds) :
    ∀ d ∈ ds, ∀ t ∈ d.types, t.IsStub := by
  obtain ⟨fs, hfound, rfl⟩ := map_eq_ok_iff.mp hds
  rw [result_found] at hfound
  intro d hd t ht
  obtain ⟨f, hf, rfl⟩ := List.mem_map.mp hd
  obtain ⟨e, -, he⟩ := exists_of_mem_of_mapM_eq_ok hfound hf
  exact isStub_of_foundAt he (TypeDetails.types_ofList.mp ht)

namespace Handler

/-- **Extracted types hold stubs only.**  Every type that stands strictly inside a type with its members, at
whatever depth, has the usual modifiers and no supertypes, so nothing stands inside it in turn. -/
theorem bare_of_holds {h : Handler} (hds : (h.detailsIn src root).result = .ok ds) :
    ∀ d ∈ ds, ∀ t, d.Holds t →
      t.modifiers = {} ∧ t.superClasses = [] ∧ t.interfaces = [] ∧ ∀ u, ¬ t.Encloses u := by
  obtain ⟨-, hdetails⟩ := of_result_detailsIn_eq_ok hds
  have hstubs : ∀ d ∈ ds, ∀ t ∈ d.types, t.IsStub := by
    cases h with
    | java => exact Java.isStub_of_details hdetails
    | python module => exact Python.isStub_of_details hdetails
  intro d hd t ht
  have hstub : t.IsStub := hstubs d hd t (TypeDetails.mem_types_of_holds (hstubs d hd) ht)
  obtain ⟨hmodifiers, hclasses, hinterfaces⟩ := TypeDecl.isStub_iff.mp hstub
  exact ⟨hmodifiers, hclasses, hinterfaces, hstub.not_encloses⟩

end Handler

end Extracted

/-! ## Declarations that refer to each other -/

namespace Handler

/-- Two classes that extend each other, one with a method on both and one with a field of its own type. -/
def mutualCode : String :=
  "class A extends B \x7b A next(B b) \x7b return null; \x7d \x7d class B extends A \x7b B self; \x7d"

/-- Two classes that extend each other, one with an attribute that may be of either, one with an attribute
that may be anything. -/
def mutualModule : String :=
  "class A(B):\n  x: \"A | B\"\nclass B(A):\n  y = 1\n"

theorem bare_of_holds_mutual :
    (∃ ds, (java.detailsIn (.ofString mutualCode) (Java.parse mutualCode)).result = .ok ds ∧
      ds.map (fun d => (d.type.name, d.types.map TypeDecl.name)) = [("A", ["B", "A", "B"]), ("B", ["A", "B"])] ∧
      ∀ d ∈ ds, ∀ t, d.Holds t →
        t.modifiers = {} ∧ t.superClasses = [] ∧ t.interfaces = [] ∧ ∀ u, ¬ t.Encloses u) ∧
    ∃ ds, ((python "m").detailsIn (.ofString mutualModule) (Python.parse mutualModule)).result = .ok ds ∧
      ds.map (fun d => (d.type.name, d.types.map TypeDecl.name)) = [("A", ["B", "A|B"]), ("B", ["A", "Any"])] ∧
      ∀ d ∈ ds, ∀ t, d.Holds t →
        t.modifiers = {} ∧ t.superClasses = [] ∧ t.interfaces = [] ∧ ∀ u, ¬ t.Encloses u := by
  have heval :
      (java.detailsIn (.ofString mutualCode) (Java.parse mutualCode)).result.toOption.any (fun ds =>
        ds.map (fun d => (d.type.name, d.types.map TypeDecl.name)) =
          [("A", ["B", "A", "B"]), ("B", ["A", "B"])]) ∧
      ((python "m").detailsIn (.ofString mutualModule) (Python.parse mutualModule)).result.toOption.any (fun ds =>
        ds.map (fun d => (d.type.name, d.types.map TypeDecl.name)) =
          [("A", ["B", "A|B"]), ("B", ["A", "Any"])]) := by
    decide +kernel
  obtain ⟨hjava, hpython⟩ := heval
  obtain ⟨ds, hds, htypes⟩ := exists_eq_ok_of_any hjava
  obtain ⟨ds', hds', htypes'⟩ := exists_eq_ok_of_any hpython
  exact ⟨⟨ds, hds, of_decide_eq_true htypes, bare_of_holds hds⟩,
    ds', hds', of_decide_eq_true htypes', bare_of_holds hds'⟩

end Handler

end SourceOutline
