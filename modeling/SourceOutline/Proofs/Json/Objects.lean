import SourceOutline.Json.Basic
import SourceOutline.Proofs.Json.Values

/-!
# Objects inside values

What holds of a value if it holds of its parts (`Json.forall_of_parts`), and what all objects inside a
value share (`Json.EveryObject`): as a rule that their keys differ from each other (`Json.Distinct`), as they
do in plain values.
-/

namespace SourceOutline.Json

/-! ## Parts -/

section Parts

/-- The items of a list, or the values of an object. -/
def parts : Json → List Json
  | .arr items => items
  | .obj fields => fields.map Prod.snd
  | _ => []

theorem mem_parts_obj {fields : List (String × Json)} {key : String} {v : Json}
    (h : (key, v) ∈ fields) : v ∈ (Json.obj fields).parts :=
  List.mem_map.mpr ⟨(key, v), h, rfl⟩

theorem sizeOf_lt_of_mem_parts {v u : Json} (h : u ∈ v.parts) : sizeOf u < sizeOf v := by
  cases v with
  | arr items =>
    have := List.sizeOf_lt_of_mem (show u ∈ items from h)
    simp only [Json.arr.sizeOf_spec]
    omega
  | obj fields =>
    obtain ⟨⟨key, w⟩, hmem, rfl⟩ := List.mem_map.mp h
    have := List.sizeOf_lt_of_mem hmem
    simp only [Json.obj.sizeOf_spec, Prod.mk.sizeOf_spec] at this ⊢
    omega
  | _ => simp [parts] at h

/-- What holds of a value as soon as it holds of its parts holds of every value. -/
theorem forall_of_parts {p : Json → Prop} (h : ∀ v, (∀ u ∈ v.parts, p u) → p v) (v : Json) : p v :=
  h v fun u _ => forall_of_parts h u
termination_by sizeOf v
decreasing_by exact sizeOf_lt_of_mem_parts ‹_›

end Parts

/-! ## All objects of a value -/

section EveryObject

mutual

/-- The fields of every object in a value, at any depth, have a property. -/
def EveryObject (p : List (String × Json) → Prop) : Json → Prop
  | .arr items => EveryObjectOfItems p items
  | .obj fields => p fields ∧ EveryObjectOfFields p fields
  | _ => True

/-- The same for the items of a list. -/
def EveryObjectOfItems (p : List (String × Json) → Prop) : List Json → Prop
  | [] => True
  | v :: vs => EveryObject p v ∧ EveryObjectOfItems p vs

/-- The same for the values of fields. -/
def EveryObjectOfFields (p : List (String × Json) → Prop) : List (String × Json) → Prop
  | [] => True
  | (_, v) :: fs => EveryObject p v ∧ EveryObjectOfFields p fs

end

variable {p : List (String × Json) → Prop}

theorem everyObject_arr_iff {items : List Json} :
    EveryObject p (.arr items) ↔ ∀ v ∈ items, EveryObject p v := by
  rw [EveryObject]
  induction items with
  | nil => simp [EveryObjectOfItems]
  | cons v vs ih => simp [EveryObjectOfItems, ih]

theorem everyObjectOfFields_iff {fields : List (String × Json)} :
    EveryObjectOfFields p fields ↔ ∀ e ∈ fields, EveryObject p e.2 := by
  induction fields with
  | nil => simp [EveryObjectOfFields]
  | cons e fs ih => rw [EveryObjectOfFields, List.forall_mem_cons, ih]

theorem everyObject_obj_iff {fields : List (String × Json)} :
    EveryObject p (.obj fields) ↔ p fields ∧ ∀ e ∈ fields, EveryObject p e.2 := by
  rw [EveryObject, everyObjectOfFields_iff]

theorem everyObject_of_forall (h : ∀ fields, p fields) (v : Json) : EveryObject p v := by
  induction v using forall_of_parts with
  | h v ih =>
    cases v with
    | arr items => exact everyObject_arr_iff.mpr ih
    | obj fields => exact everyObject_obj_iff.mpr ⟨h fields, fun e he => ih e.2 (mem_parts_obj he)⟩
    | _ => trivial

/-- In no object is a key given twice. -/
def Distinct : Json → Prop :=
  EveryObject fun fields => (Table.keys fields).Nodup

theorem Plain.distinct {v : Json} (h : v.Plain) : v.Distinct := by
  induction v using forall_of_parts with
  | h v ih =>
    cases v with
    | arr items => exact everyObject_arr_iff.mpr fun u hu => ih u hu (plainItems_iff.mp h u hu)
    | obj fields =>
      exact everyObject_obj_iff.mpr
        ⟨h.1, fun e he => ih e.2 (mem_parts_obj he) (plainFields_iff.mp h.2 e he)⟩
    | _ => trivial

end EveryObject

end SourceOutline.Json
