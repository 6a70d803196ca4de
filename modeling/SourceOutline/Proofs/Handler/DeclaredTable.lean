import SourceOutline.Java.Grammar
import SourceOutline.Proofs.Handler.Stubs
import SourceOutline.Proofs.Table

/-!
# The table of declared names, and the types of the file

One pass enters the declarations of a file into a table, another one emits their types.  Both go through the same
declarations, so the names in the table are those of the types.

* `nodup_keys_registerAll`: no name stands in the table twice.
* `get?_registerAll_of_top`: the name of an outermost declaration stands for that declaration.
* `get?_registerAll_of_no_dot`: any other name without a dot stands for the first declaration that bears it.

Main statement: `Handler.declared_of_details`.
-/

namespace SourceOutline

namespace Declaration

theorem nodup_keys_foldl_enter (es : List (String × String)) {t : Table String String} (h : t.keys.Nodup) :
    (es.foldl enter t).keys.Nodup := by
  induction es generalizing t with
  | nil => exact h
  | cons e es ih => exact ih (Table.nodup_keys_set (Table.nodup_keys_setIfAbsent h e.1 e.2) e.2 e.2)

theorem nodup_keys_registerAll (ds : List Declaration) : (registerAll none [] ds).keys.Nodup := by
  rw [registerAll_eq_foldl]
  exact nodup_keys_foldl_enter _ List.nodup_nil

/-- A nested name stands for itself. -/
theorem get?_registerAll_of_mem {ds : List Declaration} {full : String} (h : full ∈ (entries ds).map Prod.snd) :
    (registerAll none [] ds).get? full = some full := by
  rw [get?_registerAll, if_pos h]

/-- What a name stands for is a nested name. -/
theorem mem_of_get?_registerAll {ds : List Declaration} {key full : String}
    (h : (registerAll none [] ds).get? key = some full) : full ∈ (entries ds).map Prod.snd := by
  rw [get?_registerAll] at h
  by_cases hkey : key ∈ (entries ds).map Prod.snd
  · rw [if_pos hkey] at h
    rwa [← Option.some.inj h]
  · rw [if_neg hkey] at h
    obtain ⟨e, he, rfl⟩ := Option.map_eq_some_iff.mp h
    exact List.mem_map_of_mem (List.mem_of_find?_eq_some he)

/-- The values of the table are the nested names. -/
theorem mem_values_registerAll_iff {ds : List Declaration} {full : String} :
    full ∈ (registerAll none [] ds).values ↔ full ∈ (entries ds).map Prod.snd := by
  have hfound := @Table.get?_eq_some_iff _ _ _ _ (nodup_keys_registerAll ds)
  constructor
  · intro h
    obtain ⟨⟨key, value⟩, he, rfl⟩ := List.mem_map.mp h
    exact mem_of_get?_registerAll (hfound.mpr he)
  · intro h
    have hself := hfound.mp (get?_registerAll_of_mem h)
    exact List.mem_map.mpr ⟨_, hself, rfl⟩

theorem mem_entries_of_top {ds : List Declaration} {top : Declaration} (h : top ∈ ds) :
    (top.name, top.name) ∈ entries ds :=
  List.mem_map.mpr ⟨(none, top), mem_walkAll_of_mem h, rfl⟩

/-- The name of an outermost declaration stands for that declaration, wherever it is. -/
theorem get?_registerAll_of_top {ds : List Declaration} {top : Declaration} (h : top ∈ ds) :
    (registerAll none [] ds).get? top.name = some top.name :=
  get?_registerAll_of_mem (List.mem_map_of_mem (mem_entries_of_top h))

/-- Only outermost declarations have nothing around them. -/
theorem mem_of_mem_walkAll_none {ds : List Declaration} {d : Declaration}
    (h : (none, d) ∈ walkAll within none ds) : d ∈ ds := by
  have hall : ∀ e ∈ walkAll within none ds, e.1 = none → e.2 ∈ ds := by
    apply mem_walkAll_induction (P := fun outer d => outer = none → d ∈ ds)
    · intro e _ _ d' _ hnone
      cases hnone
    · intro d hd _
      exact hd
  exact hall (none, d) h rfl

/-- A nested name without a dot is the name of an outermost declaration. -/
theorem exists_top_of_mem {ds : List Declaration} {full : String} (h : full ∈ (entries ds).map Prod.snd)
    (hdot : '.' ∉ full.toList) : ∃ top ∈ ds, top.name = full := by
  obtain ⟨e, he, rfl⟩ := List.mem_map.mp h
  obtain ⟨⟨outer, d⟩, hd, rfl⟩ := List.mem_map.mp he
  cases outer with
  | none => exact ⟨d, mem_of_mem_walkAll_none hd, rfl⟩
  | some o =>
    exfalso
    apply hdot
    show '.' ∈ (o ++ "." ++ d.name).toList
    simp

/-- Any other name without a dot stands for the first declaration that bears it. -/
theorem get?_registerAll_of_no_dot {ds : List Declaration} {name : String} (hdot : '.' ∉ name.toList)
    (htop : ∀ top ∈ ds, top.name ≠ name) :
    (registerAll none [] ds).get? name = ((entries ds).find? fun e => e.1 = name).map Prod.snd := by
  have hnested : name ∉ (entries ds).map Prod.snd := by
    intro hmem
    obtain ⟨top, hd, hname⟩ := exists_top_of_mem hmem hdot
    exact htop top hd hname
  rw [get?_registerAll, if_neg hnested]

end Declaration

namespace Handler

open Declaration

/-- The table in which the names of a file are looked up. -/
def declaredTable (h : Handler) (src : Source) (root : Node) : Table String String :=
  match h with
  | java => (Java.fileScope src root).declared
  | python module => (Python.fileScope src module root).declared

theorem declaredTable_eq (h : Handler) (src : Source) (root : Node) :
    h.declaredTable src root = registerAll none [] (h.declarations src root) := by
  cases h <;> rfl

/-- **The table of declared names** of a file whose types are given: the name of each type stands for itself, every
name for a type, and the types that names stand for are those that are emitted.  The name of an outermost
declaration stands for its type wherever it is, and any other name without a dot for the type of the first
declaration that bears it, each declaration before those nested in it. -/
theorem declared_of_details (h : Handler) {src : Source} {root : Node} {ds : List TypeDetails}
    (hds : (h.detailsIn src root).result = .ok ds) :
    let table := h.declaredTable src root
    let emitted := ds.map fun d => d.type.name
    emitted = (entries (h.declarations src root)).map Prod.snd ∧
    (∀ name ∈ emitted, table.get? name = some name) ∧
    (∀ key ∈ table.keys, ∃ name ∈ emitted, table.get? key = some name) ∧
    (∀ name, name ∈ table.values ↔ name ∈ emitted) ∧
    (∀ top ∈ h.declarations src root, top.name ∈ emitted ∧ table.get? top.name = some top.name) ∧
    ∀ name, '.' ∉ name.toList → (∀ top ∈ h.declarations src root, top.name ≠ name) →
      table.get? name = ((entries (h.declarations src root)).find? fun e => e.1 = name).map Prod.snd := by
  intro table emitted
  have htable : table = registerAll none [] (h.declarations src root) := h.declaredTable_eq src root
  have hemitted : emitted = (entries (h.declarations src root)).map Prod.snd := by
    have hnames := congrArg (List.map Prod.snd) (names_treeDetails (of_result_detailsIn_eq_ok hds).2)
    rw [List.map_map, List.map_map] at hnames
    exact hnames
  rw [htable, hemitted]
  refine ⟨rfl, fun name hname => get?_registerAll_of_mem hname, fun key hkey => ?_,
    fun name => mem_values_registerAll_iff, fun top htop => ?_,
    fun name hdot htop => get?_registerAll_of_no_dot hdot htop⟩
  · cases hget : (registerAll none [] (h.declarations src root)).get? key with
    | none => exact absurd hkey (Table.get?_eq_none_iff.mp hget)
    | some full => exact ⟨full, mem_of_get?_registerAll hget, rfl⟩
  · exact ⟨List.mem_map_of_mem (mem_entries_of_top htop), get?_registerAll_of_top htop⟩

/-! ### Names that several classes bear -/

/-- Two names that two classes bear each; one of them is that of a later outermost class. -/
def sharedNamesCode : String :=
  "class A \x7b class N \x7b\x7d class B \x7b\x7d \x7d class B \x7b class N \x7b\x7d \x7d"

theorem declared_of_sharedNames :
    let src := Source.ofString sharedNamesCode
    let root := Java.parse sharedNamesCode
    ∃ ds, (java.detailsIn src root).result = .ok ds ∧
      ds.map (fun d => d.type.name) = ["A", "A.N", "A.B", "B", "B.N"] ∧
      (java.declaredTable src root).get? "B" = some "B" ∧ (java.declaredTable src root).get? "N" = some "A.N" := by
  intro src root
  have heval : (java.detailsIn src root).result.toOption.any
        (fun ds => ds.map (fun d => d.type.name) = ["A", "A.N", "A.B", "B", "B.N"]) ∧
      (java.declarations src root).map Declaration.name = ["A", "B"] ∧
      ((entries (java.declarations src root)).find? fun e => e.1 = "N") = some ("N", "A.N") := by
    decide +kernel
  obtain ⟨hdetails, htops, hfirst⟩ := heval
  obtain ⟨ds, hds, hnames⟩ := exists_eq_ok_of_any hdetails
  obtain ⟨-, -, -, -, htop, hother⟩ := declared_of_details java hds
  have hB : "B" ∈ (java.declarations src root).map Declaration.name := by
    rw [htops]
    simp
  obtain ⟨top, hmem, hname⟩ := List.mem_map.mp hB
  have hN : ∀ top ∈ java.declarations src root, top.name ≠ "N" := by
    intro top hmem heq
    have hN := List.mem_map_of_mem (f := Declaration.name) hmem
    rw [htops, heq] at hN
    exact absurd hN (by decide)
  refine ⟨ds, hds, by simpa using hnames, ?_, ?_⟩
  · rw [← hname]
    exact (htop top hmem).2
  · rw [hother "N" (by decide) hN, hfirst]
    rfl

end Handler

end SourceOutline
