import SourceOutline.Proofs.Model.Registration
import SourceOutline.Proofs.Text.Dotted

/-!
# Stubs and the names they stand for

A stub is made from a qualified name and gives a qualified name back. A table relies on getting the same
name back, although package and name may be split elsewhere than in the type that bears it.

* `Reachable`: the tables that can be built, and what types that are tried on them make of these;
  `Reachable.nodup_keys` is what their calls preserve.
* `Reachable.get?_of_mem`: every type of such a table is found under its name.

Main statement: `reference_round_trips`.
-/

namespace SourceOutline

namespace TypeTable

/-! ## Tables that can be reached -/

section Reachable

variable {t t' : TypeTable} {d : TypeDecl} {ds : List TypeDecl}

/-- A table that can be built from types or from files, and changed by types that are tried on it. -/
inductive Reachable : TypeTable → Prop
  | ofTypes {ds : List TypeDecl} {t : TypeTable} : TypeTable.ofTypes ds = .ok t → Reachable t
  | ofFiles {files : List ParsedFile} {t : TypeTable} : TypeTable.ofFiles files = .ok t → Reachable t
  | attempt {t : TypeTable} (d : TypeDecl) : Reachable t → Reachable (t.attempt d)

theorem nodup_keys_register (ht : t.entries.keys.Nodup) (h : t.register d = .ok t') : t'.entries.keys.Nodup := by
  obtain ⟨-, rfl⟩ := register_eq_ok_iff.mp h
  exact Table.nodup_keys_set ht _ _

theorem nodup_keys_registerAll (ht : t.entries.keys.Nodup) (h : t.registerAll ds = .ok t') :
    t'.entries.keys.Nodup := by
  induction ds generalizing t with
  | nil =>
    obtain rfl : t = t' := by simpa [registerAll, pure, Except.pure] using h
    exact ht
  | cons d ds ih =>
    obtain ⟨t₁, hd, hds⟩ := registerAll_cons_eq_ok_iff.mp h
    exact ih (nodup_keys_register ht hd) hds

/-- No name stands for two types. -/
theorem Reachable.nodup_keys (h : Reachable t) : t.entries.keys.Nodup := by
  have hempty : empty.entries.keys.Nodup := List.nodup_nil
  induction h with
  | ofTypes h => exact nodup_keys_registerAll hempty h
  | ofFiles h =>
    rw [ofFiles_eq_ofTypes] at h
    exact nodup_keys_registerAll hempty h
  | @attempt t d _ ih =>
    rw [TypeTable.attempt]
    split
    · rename_i hd
      exact nodup_keys_register ih hd
    · exact ih

/-- Every type is found under its name. -/
theorem Reachable.get?_of_mem (h : Reachable t) (hd : d ∈ t.types) : t.get? d.qualifiedName = some d := by
  obtain ⟨⟨name, e⟩, he, rfl⟩ := List.mem_map.mp hd
  rw [get?, Table.get?_eq_some_iff h.nodup_keys]
  have hname : name = e.qualifiedName := t.keyed _ he
  rwa [hname] at he

end Reachable

end TypeTable

/-! ## Names of stubs -/

namespace TypeDecl

open Dotted (OnlyLeadingDot)
open TypeTable (Reachable)

section Names

variable {d : TypeDecl} {t : TypeTable}

theorem qualifiedName_reference_iff (q : String) (k : TypeKind) :
    (reference q k).qualifiedName = q ↔ ¬ OnlyLeadingDot q :=
  Dotted.join_splitLast_iff

/-- The stub for a name is split as the type that bears it. -/
theorem reference_qualifiedName_iff (d : TypeDecl) (k : TypeKind) :
    ((reference d.qualifiedName k).package = d.package ∧ (reference d.qualifiedName k).name = d.name) ↔
      '.' ∉ d.name.toList := by
  rw [← @Dotted.splitLast_join_iff d.package.name, Prod.ext_iff]
  refine and_congr_left fun _ => ?_
  show (⟨(Dotted.splitLast d.qualifiedName).1⟩ : Package) = d.package ↔ _
  rw [← Package.mk.injEq]
  rfl

/-- The stub for the name of a registered type is resolved to this type, wherever the stub was split. -/
theorem resolve_reference (h : Reachable t) (hd : d ∈ t.types) (hname : ¬ OnlyLeadingDot d.qualifiedName)
    (k : TypeKind) : t.resolve (reference d.qualifiedName k) = d := by
  rw [TypeTable.resolve, (qualifiedName_reference_iff _ k).mpr hname, h.get?_of_mem hd, Option.getD_some]

/-- **Names and stubs.** The stub for a name has this qualified name, unless the name is a dot followed by
no other one. So the stub for the name of a registered type is resolved to the type, whatever its kind and
however many dots the name has; but it is split into the package and the name of the type only if this name
has no dot. -/
theorem reference_round_trips :
    (∀ q k, (reference q k).qualifiedName = q ↔ ¬ OnlyLeadingDot q) ∧
    (∀ t, Reachable t → ∀ d ∈ t.types, ¬ OnlyLeadingDot d.qualifiedName →
      ∀ k, t.resolve (reference d.qualifiedName k) = d) ∧
    ∀ (d : TypeDecl) k,
      ((reference d.qualifiedName k).package = d.package ∧ (reference d.qualifiedName k).name = d.name) ↔
      '.' ∉ d.name.toList :=
  ⟨qualifiedName_reference_iff, fun _ ht _ hd hname k => resolve_reference ht hd hname k,
    reference_qualifiedName_iff⟩

/-- A nested enum. -/
def nestedEnum : TypeDecl := stub "p" "Outer.Inner" .enumType

/-- Its name is split behind the outer type, and stands for it all the same. -/
theorem resolve_reference_nestedEnum :
    let t := TypeTable.empty.attempt nestedEnum
    Reachable t ∧ nestedEnum ∈ t.types ∧ ¬ OnlyLeadingDot nestedEnum.qualifiedName ∧
      (reference nestedEnum.qualifiedName).package = ⟨"p.Outer"⟩ ∧
      t.resolve (reference nestedEnum.qualifiedName .interfaceType) = nestedEnum := by
  intro t
  have hempty : TypeTable.ofTypes [] = .ok .empty := rfl
  have ht : Reachable t := .attempt nestedEnum (.ofTypes hempty)
  have hd : nestedEnum ∈ t.types := by decide
  have hname : ¬ OnlyLeadingDot nestedEnum.qualifiedName :=
    (reference_round_trips.1 _ .classType).mp (by decide)
  exact ⟨ht, hd, hname, by decide, reference_round_trips.2.1 t ht nestedEnum hd hname .interfaceType⟩

end Names

end TypeDecl

end SourceOutline
