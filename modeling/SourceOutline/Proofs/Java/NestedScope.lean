import SourceOutline.Java.Grammar
import SourceOutline.Proofs.Handler.Answers
import SourceOutline.Proofs.Java.Linking
import SourceOutline.Proofs.Model.MemberSets

/-!
# Types that a class declares and names itself

A class that declares a nested type may name it by its simple name.  Names are looked up in one table for
the whole file, in which a simple name stands for the first declaration that bears it; so this is the type
meant exactly if no declaration of the file bears the name before it.

* `memberMentions`: the types that the members of a declared type name.
* `stubOf_of_declared`: the stub for a name in the table.
* `mem_details`: the types of a file are given with the members that are read off their bodies.

Main statement: `stubOf_nested_iff`.
-/

namespace SourceOutline.Java

open Declaration

variable {src : Source} {root : Node}

/-! ## Names in the table -/

/-- The stub for a declared name, with the brackets after it. -/
theorem stubOf_of_declared {m : Mention} {full : String} (hprimitive : (elementOf m).text ∉ primitives)
    (hvariable : (elementOf m).text ∉ m.scope.typeVariables)
    (hdeclared : m.scope.declared.get? (elementOf m).text = some full) :
    stubOf m = .stub m.scope.package (full ++ (splitDimensions m.text).2) m.kind := by
  have hresolve := resolve_of_declared hprimitive hvariable hdeclared
  rw [stubOf, reference, show (splitDimensions m.text).1 = (elementOf m).text from rfl, hresolve]

theorem stubOf_of_primitive {m : Mention} (hprimitive : (elementOf m).text ∈ primitives) :
    stubOf m = .stub "" ((elementOf m).text ++ (splitDimensions m.text).2) m.kind := by
  have hresolve : resolve m.scope (elementOf m).text = ("", (elementOf m).text) := by
    rw [resolve, if_pos (.inl hprimitive)]
  rw [stubOf, reference, show (splitDimensions m.text).1 = (elementOf m).text from rfl, hresolve]

theorem stub_append_inj {package name package' name' brackets : String} {kind : TypeKind}
    (h : TypeDecl.stub package (name ++ brackets) kind = .stub package' (name' ++ brackets) kind) :
    name = name' := by
  have hname : name ++ brackets = name' ++ brackets := congrArg TypeDecl.name h
  rw [← String.toList_inj] at hname ⊢
  rw [String.toList_append, String.toList_append] at hname
  exact List.append_cancel_right hname

/-- A nested name is longer than the simple name. -/
theorem ne_nested (outer name : String) : name ≠ outer ++ "." ++ name := by
  intro h
  have hlength := congrArg (fun s => s.toList.length) h
  simp only [String.toList_append, List.length_append] at hlength
  simp at hlength

/-! ## Members of a declared type -/

section Members

/-- The types that the members of a declared type name. -/
def memberMentions (src : Source) (e : Surroundings × Declaration) : List Mention :=
  let t := headerAt src e
  (bodySites src (inside src e.2.node e.1.scope) (.stub t.package.name t.name t.kind) e.2.node).filterMap
    Site.mention?

variable {e : Surroundings × Declaration} {m : Mention}

theorem scope_of_mem_memberMentions (he : e ∈ places src root) (hm : m ∈ memberMentions src e) :
    SameFile m.scope (fileScope src root) := by
  have hsite : .named m ∈ sitesAt src e :=
    List.mem_append_right _ (Site.mem_filterMap_mention?_iff.mp hm)
  exact (scope_of_mem_sitesAt hsite).trans (scope_of_mem_places he)

/-- Every declared type is given, with the members that are read off its body. -/
theorem mem_details {ds : List TypeDetails} (hds : (details src root).result = .ok ds)
    (he : e ∈ places src root) :
    ∃ d ∈ ds, d.type = headerAt src e ∧
      d.members = .ofList (members src (inside src e.2.node e.1.scope) (headerAt src e) e.2.node) := by
  obtain ⟨fs, hfound, rfl⟩ := exists_found_of_details hds
  rw [result_found] at hfound
  obtain ⟨f, hf, heq⟩ := exists_mem_of_mapM_eq_ok hfound he
  obtain ⟨htype, hmembers⟩ := of_foundAt_eq_ok heq
  refine ⟨_, List.mem_map_of_mem hf, htype, ?_⟩
  show MemberSet.ofList f.members = _
  rw [hmembers, htype]

/-- What is built for a type that a member names is in the members that are given. -/
theorem stubOf_mem_details {ds : List TypeDetails} (hds : (details src root).result = .ok ds)
    (he : e ∈ places src root) (hm : m ∈ memberMentions src e) :
    ∃ d ∈ ds, d.type = headerAt src e ∧ stubOf m ∈ d.members.items.flatMap Member.types := by
  obtain ⟨d, hd, htype, hmembers⟩ := mem_details hds he
  refine ⟨d, hd, htype, ?_⟩
  have hstub : stubOf m ∈ (members src (inside src e.2.node e.1.scope) (headerAt src e) e.2.node).flatMap
      Member.types := by
    rw [types_members]
    exact Site.mem_map_stub hm
  obtain ⟨x, hx, hmem⟩ := List.mem_flatMap.mp hstub
  rw [hmembers]
  exact List.mem_flatMap.mpr ⟨x, MemberSet.mem_ofList_iff.mpr hx, hmem⟩

/-- A nested declaration bears its name, with the nested name of the one around it before it. -/
theorem nested_mem_entries (he : e ∈ places src root) {inner : Declaration} (hinner : inner ∈ e.2.nested) :
    (inner.name, (headerAt src e).name ++ "." ++ inner.name) ∈ entries (declarations src root) := by
  rw [entries_eq]
  exact List.mem_map.mpr ⟨_, mem_walkAll_nested e he inner hinner, rfl⟩

end Members

/-! ## The type that a class declares itself -/

section Nested

variable {e : Surroundings × Declaration} {m : Mention} {inner : Declaration} {ds : List TypeDetails}

/-- **A class means its own nested type** by the simple name of it exactly if the name is not primitive, no
type of the file has this name as its nested name, and the nested type is the first declaration of the file
that bears it.  Then it does so in every field, method and parameter, with brackets after the name for
arrays.  In particular it does if no other declaration bears the name. -/
theorem stubOf_nested_iff (hds : (Handler.java.detailsIn src root).result = .ok ds)
    (he : e ∈ places src root) (hinner : inner ∈ e.2.nested) (hm : m ∈ memberMentions src e)
    (htext : (elementOf m).text = inner.name) (hvariable : inner.name ∉ m.scope.typeVariables) :
    let declared := declarations src root
    let own := (headerAt src e).name ++ "." ++ inner.name
    let meant := TypeDecl.stub (packageName src root) (own ++ (splitDimensions m.text).2) m.kind
    (∃ d ∈ ds, d.type = headerAt src e ∧ stubOf m ∈ d.members.items.flatMap Member.types) ∧
    (stubOf m = meant ↔ inner.name ∉ primitives ∧ inner.name ∉ (entries declared).map Prod.snd ∧
      (bearers declared inner.name).head? = some own) ∧
    ((∀ entry ∈ entries declared, '.' ∉ entry.1.toList) → inner.name ∉ primitives →
      bearers declared inner.name = [own] → stubOf m = meant) := by
  intro declared own meant
  have hdetails : (details src root).result = .ok ds := by
    rw [Handler.result_detailsIn] at hds
    split at hds
    · cases hds
    · exact hds
  obtain ⟨hpackage, -, htable⟩ := scope_of_mem_memberMentions he hm
  have hentry : (inner.name, own) ∈ entries declared := nested_mem_entries he hinner
  have hget : ∀ {full}, (registerAll none [] declared).get? inner.name = some full →
      inner.name ∉ primitives →
        stubOf m = .stub (packageName src root) (full ++ (splitDimensions m.text).2) m.kind := by
    intro full hfull hprimitive
    have hdeclared : m.scope.declared.get? (elementOf m).text = some full := by
      rw [htable, htext]
      exact hfull
    have hstub := stubOf_of_declared (htext ▸ hprimitive) (htext ▸ hvariable) hdeclared
    rw [hstub, hpackage]
    rfl
  refine ⟨stubOf_mem_details hdetails he hm, ?_, fun hdots hprimitive honly => ?_⟩
  · by_cases hprimitive : inner.name ∈ primitives
    · -- a primitive type stands for itself
      have hne : stubOf m ≠ meant := by
        rw [stubOf_of_primitive (htext ▸ hprimitive), htext]
        exact fun h => ne_nested _ _ (stub_append_inj h)
      simp [hne, hprimitive]
    by_cases hnested : inner.name ∈ (entries declared).map Prod.snd
    · -- the name is the nested name of a type
      have hne : stubOf m ≠ meant := by
        rw [hget (by rw [get?_registerAll_eq_head?, if_pos hnested]) hprimitive]
        exact fun h => ne_nested _ _ (stub_append_inj h)
      simp [hne, hnested]
    · -- the first declaration that bears the name
      obtain ⟨first, rest, hbearers⟩ := List.exists_cons_of_ne_nil (List.ne_nil_of_mem (mem_bearers hentry))
      have hstub := hget (by rw [get?_registerAll_eq_head?, if_neg hnested, hbearers, List.head?_cons]) hprimitive
      rw [hstub, hbearers, List.head?_cons, Option.some.injEq]
      refine ⟨fun h => ⟨hprimitive, hnested, stub_append_inj h⟩, fun h => ?_⟩
      rw [h.2.2]
  · exact hget (get?_registerAll_of_bearers hdots (List.mem_map.mpr ⟨_, hentry, rfl⟩) (.inr honly)) hprimitive

/-! ### Classes with a nested class of one name -/

/-- A class with a nested class, and an array of it. -/
def ownNodeCode : String :=
  "class A \x7b class Node \x7b\x7d Node[] n; \x7d"

theorem stubOf_own_node :
    let src := Source.ofString ownNodeCode
    let root := parse ownNodeCode
    ∃ ds, (Handler.java.detailsIn src root).result = .ok ds ∧
      ∃ e ∈ places src root, ∃ inner ∈ e.2.nested, ∃ m ∈ memberMentions src e,
        (elementOf m).text = inner.name ∧ inner.name ∉ m.scope.typeVariables ∧
          stubOf m = .stub "" "A.Node[]" := by
  intro src root
  have heval : (Handler.java.detailsIn src root).result.toOption.any (fun _ => true) ∧
      ∃ e ∈ places src root, ∃ inner ∈ e.2.nested, ∃ m ∈ memberMentions src e,
      (elementOf m).text = inner.name ∧ inner.name ∉ m.scope.typeVariables ∧ inner.name ∉ primitives ∧
      inner.name ∉ (entries (declarations src root)).map Prod.snd ∧
      (bearers (declarations src root) inner.name).head? = some ((headerAt src e).name ++ "." ++ inner.name) ∧
      TypeDecl.stub (packageName src root)
        ((headerAt src e).name ++ "." ++ inner.name ++ (splitDimensions m.text).2) m.kind =
          .stub "" "A.Node[]" := by
    decide +kernel
  obtain ⟨hgiven, e, he, inner, hinner, m, hm, htext, hvariable, hprimitive, hnested, hfirst, hmeant⟩ := heval
  obtain ⟨ds, hds, -⟩ := exists_eq_ok_of_any hgiven
  obtain ⟨-, hiff, -⟩ := stubOf_nested_iff hds he hinner hm htext hvariable
  exact ⟨ds, hds, e, he, inner, hinner, m, hm, htext, hvariable,
    (hiff.mpr ⟨hprimitive, hnested, hfirst⟩).trans hmeant⟩

/-- Two classes, each with a nested class of the same name; the second one has a field of this type. -/
def twoNodesCode : String :=
  "class A \x7b class Node \x7b\x7d \x7d class B \x7b class Node \x7b\x7d Node n; \x7d"

/-- **The nested class of another class is taken** for that of the class itself. -/
theorem exists_other_node_taken :
    let src := Source.ofString twoNodesCode
    let root := parse twoNodesCode
    ∃ ds, (Handler.java.detailsIn src root).result = .ok ds ∧
      ∃ e ∈ places src root, ∃ inner ∈ e.2.nested, ∃ m ∈ memberMentions src e,
        (elementOf m).text = inner.name ∧ inner.name ∉ m.scope.typeVariables ∧
        TypeDecl.stub (packageName src root)
          ((headerAt src e).name ++ "." ++ inner.name ++ (splitDimensions m.text).2) m.kind = .stub "" "B.Node" ∧
        stubOf m = .stub "" "A.Node" := by
  intro src root
  have heval : (Handler.java.detailsIn src root).result.toOption.any (fun _ => true) ∧
      ∃ e ∈ places src root, ∃ inner ∈ e.2.nested, ∃ m ∈ memberMentions src e,
        (elementOf m).text = inner.name ∧ inner.name ∉ m.scope.typeVariables ∧
        TypeDecl.stub (packageName src root)
          ((headerAt src e).name ++ "." ++ inner.name ++ (splitDimensions m.text).2) m.kind = .stub "" "B.Node" ∧
        stubOf m = .stub "" "A.Node" := by
    decide +kernel
  obtain ⟨hgiven, hother⟩ := heval
  obtain ⟨ds, hds, -⟩ := exists_eq_ok_of_any hgiven
  exact ⟨ds, hds, hother⟩

end Nested

end SourceOutline.Java
