import SourceOutline.Proofs.Model.MemberSets
import SourceOutline.Proofs.Python.DocumentOrder
import SourceOutline.Proofs.Python.Mentions
import SourceOutline.Proofs.Python.Reference

/-!
# Imported names in Python classes

A class may name what the file imports.  Names are looked up in the table of declared classes before the imports,
and in that table a simple name stands for the first class of the file that bears it, wherever this is nested.  So
an imported name means what is imported exactly as long as no class of the file bears it.

* `get?_declared`: the table of declared classes, by the classes that are reached.
* `stubOf_mem_details`: what a class names is among its stubs.

Main statement: `qualifiedName_of_imported_name`.
-/

namespace SourceOutline

/-- All stubs in a type with its members. -/
def TypeDetails.stubs (d : TypeDetails) : List TypeDecl :=
  d.type.superClasses ++ d.type.interfaces ++ d.members.items.flatMap Member.types

namespace Python

open Declaration

/-! ## Classes by name -/

section Classes

variable (src : Source)

/-- The names on the way to a class, with dots between them. -/
def pathName (s : Spot ClassSite) : String :=
  ".".intercalate ((s.outer ++ [s.item]).map (declaredName src))

/-- A class as the walk comes to it. -/
def placeOf (s : Spot ClassSite) : Option String × Declaration :=
  ((s.outer.map (declarationOf src)).foldl within none, declarationOf src s.item)

/-- The types that a class names, in its header and in its members. -/
def mentionsAt (module : String) (root : Node) (s : Spot ClassSite) : List Mention :=
  (sitesAt src (fileScope src module root) (placeOf src s)).filterMap Site.mention?

variable {src} {module : String} {root : Node}

theorem entry_placeOf (s : Spot ClassSite) :
    entry (placeOf src s) = (declaredName src s.item, pathName src s) := by
  refine Prod.ext rfl ?_
  show nest ((s.outer.map (declarationOf src)).foldl within none) (declaredName src s.item) = _
  rw [nest_foldl_within, List.map_map, pathName, List.map_append]
  rfl

theorem entries_declarations (src : Source) (root : Node) :
    entries (declarations src root) = (spots src root).map fun s => (declaredName src s.item, pathName src s) := by
  show (places src root).map entry = _
  rw [places_eq, List.map_map]
  exact List.map_congr_left fun s _ => entry_placeOf s

/-- What holds of all entries of the table holds of all classes. -/
theorem forall_entries_iff {P : String → String → Prop} :
    (∀ e ∈ entries (declarations src root), P e.1 e.2) ↔
      ∀ s, Reached src root s → P (declaredName src s.item) (pathName src s) := by
  rw [entries_declarations, List.forall_mem_map]
  simp only [mem_spots_iff]

theorem exists_spot_of_mem_places {e : Option String × Declaration} (he : e ∈ places src root) :
    ∃ s, Reached src root s ∧ placeOf src s = e := by
  rw [places_eq] at he
  obtain ⟨s, hs, heq⟩ := List.mem_map.mp he
  exact ⟨s, mem_spots_iff.mp hs, heq⟩

theorem mem_paths_iff {name : String} :
    name ∈ (spots src root).map (pathName src) ↔ ∃ s, Reached src root s ∧ pathName src s = name := by
  simp only [List.mem_map, mem_spots_iff]

/-- In the table of declared classes a path stands for itself, and any other name for the first class that bears
it. -/
theorem get?_declared (name : String) :
    (fileScope src module root).declared.get? name =
      if name ∈ (spots src root).map (pathName src) then some name
      else ((spots src root).find? fun s => declaredName src s.item = name).map (pathName src) := by
  show (registerAll none [] (declarations src root)).get? name = _
  rw [get?_registerAll, entries_declarations, List.map_map, List.find?_map, Option.map_map]
  rfl

end Classes

/-! ## The stubs of a class -/

section Stubs

variable {src : Source} {module : String} {root : Node} {s : Spot ClassSite} {m : Mention}

theorem scope_of_mem_mentionsAt (hm : m ∈ mentionsAt src module root s) : m.scope = fileScope src module root :=
  scope_of_mem_sitesAt (Site.mem_filterMap_mention?_iff.mp hm)

/-- What a class names is among its stubs. -/
theorem stubOf_mem_details {ds : List TypeDetails} (h : (details src module root).result = .ok ds)
    (hs : Reached src root s) (hm : m ∈ mentionsAt src module root s) :
    ∃ d ∈ ds, Describes src module s d ∧ stubOf m ∈ d.stubs := by
  obtain ⟨fs, hfound, rfl⟩ := map_eq_ok_iff.mp h
  change (found src module root).result = .ok fs at hfound
  rw [result_found] at hfound
  have hplace : placeOf src s ∈ places src root := by
    rw [places_eq]
    exact List.mem_map_of_mem (mem_spots_iff.mpr hs)
  obtain ⟨f, hf, heq⟩ := exists_mem_of_mapM_eq_ok hfound hplace
  refine ⟨_, List.mem_map_of_mem hf, describes_of_foundAt rfl heq, ?_⟩
  have hstub : stubOf m ∈ f.stubs := by
    rw [stubs_foundAt _ _ heq]
    exact Site.mem_map_stub hm
  rcases List.mem_append.mp hstub with hsuper | hmember
  · exact List.mem_append_left _ hsuper
  · obtain ⟨x, hx, hmem⟩ := List.mem_flatMap.mp hmember
    exact List.mem_append_right _ (List.mem_flatMap.mpr ⟨x, MemberSet.mem_ofList_iff.mpr hx, hmem⟩)

end Stubs

/-! ## Imported names -/

section Imported

variable {src : Source} {module : String} {root : Node} {s : Spot ClassSite} {m : Mention} {b : Binding}
  {ds : List TypeDetails}

/-- **An imported name means what is imported as long as no class of the file bears it.**  Otherwise it means the
class whose path it is, or else the first class in document order that bears it, and it does not matter where this
class is nested and where the name is used. -/
theorem qualifiedName_of_imported_name (hds : ((Handler.python module).detailsIn src root).result = .ok ds)
    (hs : Reached src root s) (hm : m ∈ mentionsAt src module root s) (hbar : '|' ∉ (lookupName m.text).toList)
    (hbound : ((fileBindings src root).filter fun b =>
      b.localName ≠ "*" ∧ b.localName = lookupName m.text).getLast? = some b)
    (hdots : ∀ t, '.' ∉ t.toList → b.bound ≠ "." ++ t) :
    (∃ d ∈ ds, Describes src module s d ∧ stubOf m ∈ d.stubs) ∧
    ((∀ t, Reached src root t →
        declaredName src t.item ≠ lookupName m.text ∧ pathName src t ≠ lookupName m.text) →
      (stubOf m).qualifiedName = b.bound) ∧
    (∀ t, Reached src root t → pathName src t = lookupName m.text →
      (stubOf m).qualifiedName = Dotted.join module (pathName src t)) ∧
    ((∀ t, Reached src root t → pathName src t ≠ lookupName m.text) → ∀ first,
      (spots src root).find? (fun t => declaredName src t.item = lookupName m.text) = some first →
        (stubOf m).qualifiedName = Dotted.join module (pathName src first)) := by
  have hscope := scope_of_mem_mentionsAt hm
  have hname : (stubOf m).qualifiedName = Dotted.join (resolve m.scope (lookupName m.text)).1
      (resolve m.scope (lookupName m.text)).2 := qualifiedName_reference hbar m.kind
  have hclass : ∀ {full}, (fileScope src module root).declared.get? (lookupName m.text) = some full →
      (stubOf m).qualifiedName = Dotted.join module full := by
    intro full hfull
    rw [hname, resolve_of_declared (hscope ▸ hfull), hscope]
    rfl
  refine ⟨stubOf_mem_details (Handler.of_result_detailsIn_eq_ok hds).2 hs hm, fun hnone => ?_,
    fun t ht hpath => ?_, fun hpaths first hfirst => ?_⟩
  · have hfind : (spots src root).find? (fun t => declaredName src t.item = lookupName m.text) = none :=
      List.find?_eq_none.mpr fun t ht => by simpa using (hnone t (mem_spots_iff.mp ht)).1
    have hpaths : lookupName m.text ∉ (spots src root).map (pathName src) := by
      intro hmem
      obtain ⟨t, ht, hpath⟩ := mem_paths_iff.mp hmem
      exact (hnone t ht).2 hpath
    have hunknown : m.scope.declared.get? (lookupName m.text) = none := by
      rw [hscope, get?_declared, if_neg hpaths, hfind]
      rfl
    have himport : m.scope.imports.get? (lookupName m.text) = some b.bound := by
      rw [hscope]
      exact get?_importTable_of_getLast? hbound
    rw [hname, resolve_of_imported hunknown himport]
    exact Dotted.join_splitLast_of_ne hdots
  · refine hclass ?_
    rw [get?_declared, if_pos (mem_paths_iff.mpr ⟨t, ht, hpath⟩), hpath]
  · have hnot : lookupName m.text ∉ (spots src root).map (pathName src) := by
      intro hmem
      obtain ⟨t, ht, hpath⟩ := mem_paths_iff.mp hmem
      exact hpaths t ht hpath
    refine hclass ?_
    rw [get?_declared, if_neg hnot, hfirst]
    rfl

/-! ### A nested class in another class -/

/-- A class that extends an imported one, beside a nested class of another name. -/
def unsharedNameCode : String :=
  "from m import Meta\nclass A:\n  class Other: pass\nclass B(Meta): pass\n"

theorem qualifiedName_of_unshared_name :
    let src := Source.ofString unsharedNameCode
    let root := parse unsharedNameCode
    ∃ ds, ((Handler.python "").detailsIn src root).result = .ok ds ∧
      ∃ s, Reached src root s ∧ ∃ m ∈ mentionsAt src "" root s, lookupName m.text = "Meta" ∧
        (∃ d ∈ ds, Describes src "" s d ∧ stubOf m ∈ d.stubs) ∧ (stubOf m).qualifiedName = "m.Meta" := by
  intro src root
  have heval : ((Handler.python "").detailsIn src root).result.toOption.any (fun _ => true) ∧
      (∃ e ∈ places src root, ∃ m ∈ (sitesAt src (fileScope src "" root) e).filterMap Site.mention?,
        lookupName m.text = "Meta") ∧
      ((fileBindings src root).filter fun b => b.localName ≠ "*" ∧ b.localName = "Meta").getLast? =
        some ⟨"m.Meta", "Meta", "m.Meta"⟩ ∧
      ∀ e ∈ entries (declarations src root), e.1 ≠ "Meta" ∧ e.2 ≠ "Meta" := by
    decide +kernel
  obtain ⟨hgiven, ⟨e, he, m, hm, htext⟩, hbound, hnames⟩ := heval
  obtain ⟨ds, hds, -⟩ := exists_eq_ok_of_any hgiven
  obtain ⟨s, hs, rfl⟩ := exists_spot_of_mem_places he
  have hdots : ∀ t : String, '.' ∉ t.toList → "m.Meta" ≠ "." ++ t := by
    intro t _ heq
    have hhead := congrArg (fun s => s.toList.head?) heq
    simp at hhead
  rw [← htext] at hbound hnames
  obtain ⟨hstub, himported, -⟩ := qualifiedName_of_imported_name hds hs hm (by rw [htext]; decide) hbound hdots
  have hnone :=
    (forall_entries_iff (P := fun name path => name ≠ lookupName m.text ∧ path ≠ lookupName m.text)).mp hnames
  exact ⟨ds, hds, s, hs, m, hm, htext, hstub, himported hnone⟩

/-- The same file, with a nested class of the imported name. -/
def sharedNameCode : String :=
  "from m import Meta\nclass A:\n  class Meta: pass\nclass B(Meta): pass\n"

/-- **A nested class captures an imported name** in a class that it has nothing to do with. -/
theorem exists_imported_name_captured :
    let src := Source.ofString sharedNameCode
    let root := parse sharedNameCode
    ((Handler.python "").typesIn src root).result.toOption.map (List.map fun t => (t.name, t.superClasses)) =
        some [("A", []), ("A.Meta", []), ("B", [.stub "" "A.Meta"])] ∧
      (∀ s, Reached src root s → declaredName src s.item = "Meta" → pathName src s = "A.Meta") ∧
      ((fileBindings src root).filter fun b => b.localName ≠ "*" ∧ b.localName = "Meta").getLast? =
        some ⟨"m.Meta", "Meta", "m.Meta"⟩ ∧
      ∃ s, Reached src root s ∧ pathName src s = "B" ∧ ∃ m ∈ mentionsAt src "" root s,
        lookupName m.text = "Meta" ∧ (stubOf m).qualifiedName = "A.Meta" ∧ "A.Meta" ≠ "m.Meta" := by
  intro src root
  have heval : ((Handler.python "").typesIn src root).result.toOption.map
        (List.map fun t => (t.name, t.superClasses)) =
        some [("A", []), ("A.Meta", []), ("B", [.stub "" "A.Meta"])] ∧
      (∀ e ∈ entries (declarations src root), e.1 = "Meta" → e.2 = "A.Meta") ∧
      ((fileBindings src root).filter fun b => b.localName ≠ "*" ∧ b.localName = "Meta").getLast? =
        some ⟨"m.Meta", "Meta", "m.Meta"⟩ ∧
      ∃ e ∈ places src root, (entry e).2 = "B" ∧
        ∃ m ∈ (sitesAt src (fileScope src "" root) e).filterMap Site.mention?,
          lookupName m.text = "Meta" ∧ (stubOf m).qualifiedName = "A.Meta" := by
    decide +kernel
  obtain ⟨htypes, hnames, hbound, e, he, hpath, m, hm, htext, hname⟩ := heval
  obtain ⟨s, hs, rfl⟩ := exists_spot_of_mem_places he
  rw [entry_placeOf] at hpath
  have hnested := (forall_entries_iff (P := fun name path => name = "Meta" → path = "A.Meta")).mp hnames
  exact ⟨htypes, hnested, hbound, s, hs, hpath, m, hm, htext, hname, by decide⟩

end Imported

end Python

end SourceOutline
