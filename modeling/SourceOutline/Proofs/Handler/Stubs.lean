import SourceOutline.Proofs.Handler.Answers
import SourceOutline.Proofs.Java.Mentions
import SourceOutline.Proofs.Python.Mentions

/-!
# Stubs of a file

What is named in a file, and what is built for it, for handlers of both languages.

* `mem_stubs`: what is built for a mention is a stub inside the types of the file.
* `names_treeDetails`, `exists_mem_types`: types are emitted under the nested names of the declarations.
-/

namespace SourceOutline.Handler

open Declaration

/-! ## The parts of a file -/

section Parts

variable (h : Handler) (src : Source) (root : Node)

/-- The package or module of a file. -/
def packageOf : String :=
  match h with
  | java => Java.packageName src root
  | python module => module

/-- The type declarations of a file. -/
def declarations : List Declaration :=
  match h with
  | java => Java.declarations src root
  | python _ => Python.declarations src root

/-- The types that a file names. -/
def mentions : List Mention :=
  match h with
  | java => Java.mentions src root
  | python module => Python.mentions src module root

/-- All stubs inside the types that are emitted for a file, and inside their members. -/
def stubs : List TypeDecl :=
  match h with
  | java => (Java.found src root).emitted.flatMap Java.Found.stubs
  | python module => (Python.found src module root).emitted.flatMap Python.Found.stubs

variable (m : Mention)

/-- The stub for a mention. -/
def stubOf : TypeDecl :=
  match h with
  | java => Java.stubOf m
  | python _ => Python.stubOf m

end Parts

variable {h : Handler} {parse : String → Node} {code : String} {f : ParsedFile}

/-- What is built for a mention is a stub inside the types of a tree, if the types are given. -/
theorem mem_stubs_of_treeDetails {src : Source} {root : Node} {ds : List TypeDetails}
    (hds : (h.treeDetails src root).result = .ok ds) {m : Mention} (hm : m ∈ h.mentions src root) :
    h.stubOf m ∈ h.stubs src root := by
  cases h with
  | java =>
    obtain ⟨fs, hfs, -⟩ := Java.of_result_details_eq_ok hds
    have hstub : Java.stubOf m ∈ _ := Site.mem_map_stub hm
    rw [← Java.stubs_found _ hfs, ← (Emission.result_eq_ok_iff.mp hfs).2] at hstub
    exact hstub
  | python module =>
    obtain ⟨fs, hfs, -⟩ := Python.of_result_details_eq_ok hds
    have hstub : Python.stubOf m ∈ _ := Site.mem_map_stub hm
    rw [← Python.stubs_found _ hfs, ← (Emission.result_eq_ok_iff.mp hfs).2] at hstub
    exact hstub

/-- What is built for a mention is a stub inside the types of the file. -/
theorem mem_stubs (hfile : (h.fileIn parse code).result = .ok f) {m : Mention}
    (hm : m ∈ h.mentions (.ofString code) (parse code)) :
    h.stubOf m ∈ h.stubs (.ofString code) (parse code) := by
  obtain ⟨ds, hds, -⟩ := of_result_fileIn_eq_ok hfile
  exact mem_stubs_of_treeDetails hds hm

/-- Types are emitted under the nested names of the declarations, in the package of the file. -/
theorem names_treeDetails {src : Source} {root : Node} {ds : List TypeDetails}
    (hds : (h.treeDetails src root).result = .ok ds) :
    ds.map (fun d => (d.type.package.name, d.type.name)) =
      (entries (h.declarations src root)).map fun e => (h.packageOf src root, e.2) := by
  have htypes : ds.map (fun d => (d.type.package.name, d.type.name)) =
      (ds.map TypeDetails.type).map fun t => (t.package.name, t.name) := by
    rw [List.map_map]
    rfl
  rw [htypes]
  cases h with
  | java =>
    obtain ⟨fs, hfs, hfound⟩ := Java.of_result_details_eq_ok hds
    rw [hfound, List.map_map]
    exact Java.names_found hfs
  | python module =>
    obtain ⟨fs, hfs, hfound⟩ := Python.of_result_details_eq_ok hds
    rw [hfound, List.map_map]
    exact Python.names_found hfs

theorem names_types (hfile : (h.fileIn parse code).result = .ok f) :
    f.types.map (fun t => (t.package.name, t.name)) =
      (entries (h.declarations (.ofString code) (parse code))).map
        fun e => (h.packageOf (.ofString code) (parse code), e.2) := by
  obtain ⟨ds, hds, rfl⟩ := of_result_fileIn_eq_ok hfile
  rw [← names_treeDetails hds, List.map_map]
  rfl

/-- A nested name is that of a type of the file. -/
theorem exists_mem_types (hfile : (h.fileIn parse code).result = .ok f) {full : String}
    (hfull : full ∈ (entries (h.declarations (.ofString code) (parse code))).map Prod.snd) :
    ∃ d ∈ f.types, d.package.name = h.packageOf (.ofString code) (parse code) ∧ d.name = full := by
  obtain ⟨e, he, rfl⟩ := List.mem_map.mp hfull
  have hname : (h.packageOf (.ofString code) (parse code), e.2) ∈
      f.types.map fun t => (t.package.name, t.name) := by
    rw [names_types hfile]
    exact List.mem_map.mpr ⟨e, he, rfl⟩
  obtain ⟨d, hd, heq⟩ := List.mem_map.mp hname
  obtain ⟨hpackage, hnested⟩ := Prod.mk.inj heq
  exact ⟨d, hd, hpackage, hnested⟩

end SourceOutline.Handler
