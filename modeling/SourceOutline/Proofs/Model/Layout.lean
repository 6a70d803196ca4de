import SourceOutline.Model.RecordClass
import SourceOutline.Proofs.Json.Objects
import SourceOutline.Proofs.Validation.Fields

/-!
# Layout of records

What a value must look like to be read as a record of a class, told from the fields of the class
(`RecordClass.slots`) and without its reader.

* `Fits`: every field, at any depth, has a value of the right form, and there are no other fields.
* `TypeAt`: the types inside a value, and the paths at which they stand.
* `TypeDecl.brokenRule?`: the rule that a type breaks, told from its own fields.
* `Blamed`: an issue about a type that breaks a rule while no type strictly inside it does.

Wherever a type breaks a rule, there is such an issue (`exists_blamed`).
-/

namespace SourceOutline

open Checked

/-! ## Fields of records -/

section Slots

/-- What is expected of a value. -/
inductive Part where
  /-- A value without parts. -/
  | single (accepts : Json → Prop)
  | record (c : RecordClass)
  /-- A field or a method, told apart by a word in it. -/
  | member
  /-- A list. -/
  | items (p : Part)

/-- What a reader of single values accepts. -/
def Part.of (read : Json → Checked α) : Part :=
  .single fun v => ∃ a, read v = .ok a

/-- A field of a record. -/
structure Slot where
  name : FieldName
  part : Part
  required : Bool

/-- A field that must be there. -/
def Slot.must (name : FieldName) (part : Part) : Slot := ⟨name, part, true⟩

/-- A field that has a default value. -/
def Slot.may (name : FieldName) (part : Part) : Slot := ⟨name, part, false⟩

/-- The fields of the records of a class. -/
def RecordClass.slots : RecordClass → List Slot
  | package => [.may .name (.of string)]
  | modifiers =>
    [.may .isStatic (.of bool), .may .isFinal (.of bool), .may .isAbstract (.of bool),
      .may .visibility (.of (word Visibility.ofWord?))]
  | type =>
    [.may .package (.record package), .must .name (.of string), .may .modifiers (.record modifiers),
      .may .type (.of (word TypeKind.ofWord?)), .may .superClasses (.items (.record type)),
      .may .interfaces (.items (.record type))]
  | plainMember => [.must .name (.of string), .may .modifiers (.record modifiers)]
  | field =>
    [.must .name (.of string), .may .modifiers (.record modifiers), .may .kind (.of (literal "field")),
      .must .type (.record type)]
  | method =>
    [.must .name (.of string), .may .modifiers (.record modifiers), .may .kind (.of (literal "method")),
      .must .returnType (.record type), .may .parameters (.items (.record parameter))]
  | parameter => [.must .name (.of string), .must .type (.record type)]
  | details => [.must .type (.record type), .may .typeMembers (.items .member)]
  | importEntry => [.must .value (.of string)]
  | file => [.may .imports (.items (.record importEntry)), .may .types (.items (.record type))]

/-- The class of members that a word stands for. -/
def RecordClass.ofKind? : String → Option RecordClass
  | "field" => some field
  | "method" => some method
  | _ => none

end Slots

/-! ## Values that fit -/

section Fits

/-- A value is well formed field by field, at every depth. -/
inductive Fits : Part → Json → Prop
  | single {accepts : Json → Prop} {v : Json} : accepts v → Fits (.single accepts) v
  | record {c : RecordClass} {fields : List (String × Json)} :
      (∀ e ∈ fields, ∃ s ∈ c.slots, s.name.takes fields e.1 = true) →
      (∀ s ∈ c.slots, s.required = true → s.name.find? fields ≠ none) →
      (∀ s ∈ c.slots, ∀ key v, s.name.find? fields = some (key, v) → Fits s.part v) →
      Fits (.record c) (.obj fields)
  | member {c : RecordClass} {w : String} {fields : List (String × Json)} :
      Table.get? fields "kind" = some (.str w) → RecordClass.ofKind? w = some c →
      Fits (.record c) (.obj fields) → Fits .member (.obj fields)
  | items {p : Part} {vs : List Json} : (∀ v ∈ vs, Fits p v) → Fits (.items p) (.arr vs)

/-- A field is there if it must be, and then its value fits. -/
def Slot.Fits (s : Slot) (fields : List (String × Json)) : Prop :=
  (s.required = true → s.name.find? fields ≠ none) ∧
    ∀ key v, s.name.find? fields = some (key, v) → SourceOutline.Fits s.part v

theorem fits_single_iff {accepts : Json → Prop} {v : Json} : Fits (.single accepts) v ↔ accepts v := by
  constructor
  · rintro ⟨h⟩
    exact h
  · exact .single

theorem fits_record_iff {c : RecordClass} {fields : List (String × Json)} :
    Fits (.record c) (.obj fields) ↔
      extras (c.slots.map Slot.name) fields = [] ∧ ∀ s ∈ c.slots, s.Fits fields := by
  have hnames : (∀ e ∈ fields, ∃ f ∈ c.slots.map Slot.name, f.takes fields e.1 = true) ↔
      ∀ e ∈ fields, ∃ s ∈ c.slots, s.name.takes fields e.1 = true := by simp
  rw [extras_eq_nil, hnames]
  constructor
  · rintro (_ | ⟨hextras, hrequired, hfits⟩)
    exact ⟨hextras, fun s hs => ⟨hrequired s hs, hfits s hs⟩⟩
  · rintro ⟨hextras, hslots⟩
    exact .record hextras (fun s hs => (hslots s hs).1) fun s hs => (hslots s hs).2

theorem fits_items_iff {p : Part} {vs : List Json} : Fits (.items p) (.arr vs) ↔ ∀ v ∈ vs, Fits p v := by
  constructor
  · rintro (_ | _ | _ | h)
    exact h
  · exact .items

theorem fits_member_iff {c : RecordClass} {w : String} {fields : List (String × Json)}
    (hkind : Table.get? fields "kind" = some (.str w)) (hc : RecordClass.ofKind? w = some c) :
    Fits .member (.obj fields) ↔ Fits (.record c) (.obj fields) := by
  constructor
  · rintro (_ | _ | ⟨hkind', hc', h⟩)
    obtain rfl : _ = w := by simpa [hkind'] using hkind
    obtain rfl : _ = c := by simpa [hc'] using hc
    exact h
  · exact .member hkind hc

end Fits

/-! ## Types inside values -/

section TypeAt

/-- `TypeAt p v path t`: in a value `v` that is read as `p`, a type with the fields `t` stands at a path. -/
inductive TypeAt : Part → Json → List Step → List (String × Json) → Prop
  | here {fields : List (String × Json)} : TypeAt (.record .type) (.obj fields) [] fields
  | slot {c : RecordClass} {fields : List (String × Json)} {s : Slot} {key : String} {v : Json}
      {path : List Step} {t : List (String × Json)} : s ∈ c.slots → s.name.find? fields = some (key, v) →
      TypeAt s.part v path t → TypeAt (.record c) (.obj fields) (.key key :: path) t
  | member {c : RecordClass} {w : String} {fields : List (String × Json)} {path : List Step}
      {t : List (String × Json)} : Table.get? fields "kind" = some (.str w) → RecordClass.ofKind? w = some c →
      TypeAt (.record c) (.obj fields) path t → TypeAt .member (.obj fields) (.key w :: path) t
  | item {p : Part} {vs : List Json} {n : Nat} {v : Json} {path : List Step} {t : List (String × Json)} :
      vs[n]? = some v → TypeAt p v path t → TypeAt (.items p) (.arr vs) (.index n :: path) t

namespace TypeAt

variable {p : Part} {v : Json} {path rest : List Step} {t u : List (String × Json)}

/-- A type inside a type inside a value is inside the value. -/
theorem trans (h : TypeAt p v path t) (h' : TypeAt (.record .type) (.obj t) rest u) :
    TypeAt p v (path ++ rest) u := by
  induction h with
  | here => exact h'
  | slot hs hfind _ ih => exact .slot hs hfind (ih h')
  | member hkind hc _ ih => exact .member hkind hc (ih h')
  | item hn _ ih => exact .item hn (ih h')

theorem sizeOf_le (h : TypeAt p v path t) : sizeOf (Json.obj t) ≤ sizeOf v := by
  induction h with
  | here => exact Nat.le_refl _
  | slot _ hfind _ ih =>
    obtain ⟨key, hmem⟩ := FieldName.mem_of_find? hfind
    have hlt := Json.sizeOf_lt_of_mem_parts (Json.mem_parts_obj hmem)
    omega
  | member _ _ _ ih => exact ih
  | @item p vs n v path t hn _ ih =>
    have hlt := Json.sizeOf_lt_of_mem_parts (show v ∈ (Json.arr vs).parts from List.mem_of_getElem? hn)
    omega

/-- A type strictly inside another one is smaller. -/
theorem sizeOf_lt (h : TypeAt (.record .type) (.obj t) rest u) (hrest : rest ≠ []) :
    sizeOf (Json.obj u) < sizeOf (Json.obj t) := by
  cases h with
  | here => exact absurd rfl hrest
  | slot _ hfind hinner =>
    obtain ⟨key, hmem⟩ := FieldName.mem_of_find? hfind
    have hlt := Json.sizeOf_lt_of_mem_parts (Json.mem_parts_obj hmem)
    have hle := hinner.sizeOf_le
    omega

end TypeAt

end TypeAt

/-! ## Rules that are broken -/

section Rules

namespace TypeDecl

/-- The kind that a type gives itself: a class if it says nothing. -/
def declaredKind (fields : List (String × Json)) : TypeKind :=
  match FieldName.type.find? fields with
  | some (_, .str w) => (TypeKind.ofWord? w).getD .classType
  | _ => .classType

/-- The name that a type gives itself. -/
def declaredName (fields : List (String × Json)) : String :=
  match FieldName.name.find? fields with
  | some (_, .str name) => name
  | _ => ""

/-- The field is given a list with something in it. -/
def lists (f : FieldName) (fields : List (String × Json)) : Bool :=
  match f.find? fields with
  | some (_, .arr (_ :: _)) => true
  | _ => false

/-- The rule that a type breaks by its own fields. -/
def brokenRule? (fields : List (String × Json)) : Option Violation :=
  if lists .superClasses fields ∧ declaredKind fields ≠ .classType then
    some (.superClasses (declaredKind fields) (declaredName fields))
  else if lists .interfaces fields ∧ declaredKind fields = .annotationType then
    some (.interfaces (declaredName fields))
  else none

/-- A type breaks a rule, and no type strictly inside it breaks one. -/
def Offends (fields : List (String × Json)) (v : Violation) : Prop :=
  brokenRule? fields = some v ∧
    ∀ path u, path ≠ [] → TypeAt (.record .type) (.obj fields) path u → brokenRule? u = none

end TypeDecl

/-- The issue stands at a type inside the value that breaks a rule while no type strictly inside it
does, and says so. -/
def Blamed (p : Part) (v : Json) (i : Issue) : Prop :=
  ∃ t viol, TypeAt p v i.path t ∧ TypeDecl.Offends t viol ∧ i.complaint = .rule viol.message

/-- **Where a rule is broken, there is a type to blame.** -/
theorem exists_blamed {p : Part} {v : Json} {path : List Step} {t : List (String × Json)}
    (h : TypeAt p v path t) (hbroken : TypeDecl.brokenRule? t ≠ none) : ∃ i, Blamed p v i := by
  by_cases hinner : ∃ rest u, rest ≠ [] ∧ TypeAt (.record .type) (.obj t) rest u ∧
      TypeDecl.brokenRule? u ≠ none
  · -- go on from the inner one, which is smaller
    obtain ⟨rest, u, hrest, hu, hbroken'⟩ := hinner
    have hlt := hu.sizeOf_lt hrest
    exact exists_blamed (h.trans hu) hbroken'
  · obtain ⟨viol, hviol⟩ := Option.ne_none_iff_exists'.mp hbroken
    refine ⟨⟨path, .rule viol.message⟩, t, viol, h, ⟨hviol, fun rest u hrest hu => ?_⟩, rfl⟩
    by_contra hne
    exact hinner ⟨rest, u, hrest, hu, hne⟩
termination_by sizeOf (Json.obj t)
decreasing_by exact hlt

variable {i : Issue}

theorem not_blamed_single {accepts : Json → Prop} {v : Json} : ¬ Blamed (.single accepts) v i := by
  rintro ⟨t, viol, htype, -⟩
  cases htype

theorem blamed_items_iff {p : Part} {vs : List Json} :
    Blamed (.items p) (.arr vs) i ↔
      ∃ n v, vs[n]? = some v ∧ ∃ j, Blamed p v j ∧ i = j.under (.index n) := by
  constructor
  · rintro ⟨t, viol, htype, hoffends, hcomplaint⟩
    obtain ⟨path, complaint⟩ := i
    cases htype with
    | @item p vs n v path t hn hinner =>
      exact ⟨n, v, hn, ⟨path, complaint⟩, ⟨t, viol, hinner, hoffends, hcomplaint⟩, rfl⟩
  · rintro ⟨n, v, hn, j, ⟨t, viol, htype, hoffends, hcomplaint⟩, rfl⟩
    exact ⟨t, viol, .item hn htype, hoffends, hcomplaint⟩

theorem blamed_member_iff {c : RecordClass} {w : String} {fields : List (String × Json)}
    (hkind : Table.get? fields "kind" = some (.str w)) (hc : RecordClass.ofKind? w = some c) :
    Blamed .member (.obj fields) i ↔ ∃ j, Blamed (.record c) (.obj fields) j ∧ i = j.under (.key w) := by
  constructor
  · rintro ⟨t, viol, htype, hoffends, hcomplaint⟩
    obtain ⟨path, complaint⟩ := i
    cases htype with
    | @member c' w' fields path t hkind' hc' hinner =>
      obtain rfl : w' = w := by simpa [hkind'] using hkind
      obtain rfl : c' = c := by simpa [hc'] using hc
      exact ⟨⟨path, complaint⟩, ⟨t, viol, hinner, hoffends, hcomplaint⟩, rfl⟩
  · rintro ⟨j, ⟨t, viol, htype, hoffends, hcomplaint⟩, rfl⟩
    exact ⟨t, viol, .member hkind hc htype, hoffends, hcomplaint⟩

/-- The issue is about a type inside the value of a field. -/
def Slot.Blamed (s : Slot) (fields : List (String × Json)) (i : Issue) : Prop :=
  ∃ key v, s.name.find? fields = some (key, v) ∧ ∃ j, SourceOutline.Blamed s.part v j ∧ i = j.under (.key key)

/-- A record is to blame if a type among the values of its fields is, or if it is such a type itself. -/
theorem blamed_record_iff {c : RecordClass} {fields : List (String × Json)} :
    Blamed (.record c) (.obj fields) i ↔
      (c = .type ∧ ∃ viol, TypeDecl.Offends fields viol ∧ i = ⟨[], .rule viol.message⟩) ∨
        ∃ s ∈ c.slots, s.Blamed fields i := by
  constructor
  · rintro ⟨t, viol, htype, hoffends, hcomplaint⟩
    obtain ⟨path, complaint⟩ := i
    cases htype with
    | here =>
      obtain rfl : complaint = .rule viol.message := hcomplaint
      exact .inl ⟨rfl, viol, hoffends, rfl⟩
    | @slot c fields s key v path t hs hfind hinner =>
      exact .inr ⟨s, hs, key, v, hfind, ⟨path, complaint⟩, ⟨t, viol, hinner, hoffends, hcomplaint⟩, rfl⟩
  · rintro (⟨rfl, viol, hoffends, rfl⟩ | ⟨s, hs, key, v, hfind, j, hj, rfl⟩)
    · exact ⟨fields, viol, .here, hoffends, rfl⟩
    · obtain ⟨t, viol, htype, hoffends, hcomplaint⟩ := hj
      exact ⟨t, viol, .slot hs hfind htype, hoffends, hcomplaint⟩

end Rules

end SourceOutline
