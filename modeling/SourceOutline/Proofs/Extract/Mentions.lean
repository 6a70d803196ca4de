import SourceOutline.Extract.Scope
import SourceOutline.Model.Member

/-!
# Mentions of types

The stubs inside an extracted type have two origins (`Site`).  Most are built for a type that the
source names: a mention is the text that is looked up, in a scope, and the kind its stub is given.
The others stand for types that nothing names: the declaring type itself, or that of a thing without
an annotation.
-/

namespace SourceOutline

deriving instance DecidableEq for Scope

/-- A type that a source names. -/
structure Mention where
  scope : Scope
  text : String
  kind : TypeKind := .classType
  deriving DecidableEq

/-- The type carries package, name and kind only. -/
def TypeDecl.IsStub (t : TypeDecl) : Prop :=
  ∃ package name kind, t = stub package name kind

/-- Where a stub inside an extracted type comes from. -/
inductive Site where
  /-- The source names the type. -/
  | named (m : Mention)
  /-- The type is understood. -/
  | understood (t : TypeDecl)

namespace Site

/-- The stub at a site, given what is built for a mention. -/
def stub (refer : Mention → TypeDecl) : Site → TypeDecl
  | named m => refer m
  | understood t => t

/-- The mention at a site, if there is one. -/
def mention? : Site → Option Mention
  | named m => some m
  | understood _ => none

theorem mention?_eq_some_iff {s : Site} {m : Mention} : s.mention? = some m ↔ s = named m := by
  cases s <;> simp [mention?]

/-- The mentions at some sites are those of the sites that are named. -/
theorem mem_filterMap_mention?_iff {sites : List Site} {m : Mention} :
    m ∈ sites.filterMap mention? ↔ named m ∈ sites := by
  rw [List.mem_filterMap]
  constructor
  · rintro ⟨s, hs, hm⟩
    rwa [mention?_eq_some_iff.mp hm] at hs
  · intro hs
    exact ⟨named m, hs, rfl⟩

@[simp] theorem filterMap_mention?_map_named {α : Type} (f : α → Mention) (as : List α) :
    (as.map fun a => named (f a)).filterMap mention? = as.map f := by
  simp [List.filterMap_map, Function.comp_def, mention?]

/-- What is built for a mention is the stub at its site. -/
theorem mem_map_stub {refer : Mention → TypeDecl} {sites : List Site} {m : Mention}
    (h : m ∈ sites.filterMap mention?) : refer m ∈ sites.map (stub refer) :=
  List.mem_map.mpr ⟨named m, mem_filterMap_mention?_iff.mp h, by rw [stub]⟩

/-- Stubs come from all sites, if the types that are understood are stubs. -/
theorem isStub_of_mem_map_stub {refer : Mention → TypeDecl} (hrefer : ∀ m, (refer m).IsStub)
    {sites : List Site} (hunderstood : ∀ t, understood t ∈ sites → t.IsStub) {t : TypeDecl}
    (ht : t ∈ sites.map (stub refer)) : t.IsStub := by
  obtain ⟨s, hs, rfl⟩ := List.mem_map.mp ht
  cases s with
  | named m => exact hrefer m
  | understood t => exact hunderstood t hs

end Site

/-- The types in the declaration of a member: that of a field, or what a method returns and takes. -/
def Member.types : Member → List TypeDecl
  | field f => [f.type]
  | method m => m.returnType :: m.parameters.map Parameter.type

end SourceOutline
