import SourceOutline.Model.Reading
import SourceOutline.Proofs.Validation.Fields

/-!
# How types and members are read

Types are read along the structure of a value.  Seen from outside, a type is read as any other record
is: its fields first, supertypes as lists of types, and then the rules on kinds (`TypeDecl.ofJson_eq`).

A member is read as a field or as a method, whichever the word in it says, or not at all
(`Member.ofJson_of_field`, `Member.ofJson_of_method`, `Member.ofJson_of_other`).
-/

namespace SourceOutline

open Checked

namespace TypeDecl

theorem itemsOfJson_eq (vs : List Json) (i : Nat) : itemsOfJson i vs = itemsFrom ofJson i vs := by
  induction vs generalizing i with
  | nil => rfl
  | cons v vs ih => rw [itemsOfJson, itemsFrom, ih]

/-- A list of types is read as other lists are. -/
theorem listOfJson_eq : listOfJson = sequence ofJson := by
  funext v
  cases v with
  | arr items => rw [listOfJson, Checked.sequence, itemsOfJson_eq]
  | _ => rfl

theorem get?_listFields (fields : List (String × Json)) (key : String) :
    Table.get? (listFields fields) key = (Table.get? fields key).map listOfJson := by
  induction fields with
  | nil => rfl
  | cons e fs ih =>
    obtain ⟨k, v⟩ := e
    rw [listFields, Table.get?, Table.get?, ih]
    split <;> rfl

/-- A field that is read as a list of types beforehand is read as such a list. -/
theorem optional_listFields (f : FieldName) (fields : List (String × Json)) :
    optional f [] id (listFields fields) = optional f [] (sequence ofJson) fields := by
  rw [← listOfJson_eq]
  unfold Checked.optional FieldName.find?
  rw [get?_listFields, get?_listFields]
  cases Table.get? fields f.key with
  | some v => rfl
  | none => cases Table.get? fields f.other <;> rfl

/-- The names of the fields of a type. -/
def fieldNames : List FieldName :=
  [.package, .name, .modifiers, .type, .superClasses, .interfaces]

/-- A type from its fields, whether it agrees with its kind or not. -/
def ofFields (fields : List (String × Json)) : Checked TypeDecl :=
  (both (optional .package {} Package.ofJson fields) <|
    both (required .name string fields) <|
    both (optional .modifiers {} Modifiers.ofJson fields) <|
    both (optional .type .classType (word TypeKind.ofWord?) fields) <|
    both (optional .superClasses [] (sequence ofJson) fields)
      (optional .interfaces [] (sequence ofJson) fields)).map
    fun (package, name, modifiers, kind, superClasses, interfaces) =>
      { package, name, modifiers, kind, superClasses, interfaces }

/-- **A type is read as any other record**, and refused then if it contradicts its kind. -/
theorem ofJson_eq (v : Json) :
    ofJson v = object (fun fields => closed fieldNames fields (ofFields fields)) v >>= checkKind := by
  cases v with
  | obj fields =>
    rw [ofJson, assemble, optional_listFields, optional_listFields]
    rfl
  | _ => rfl

end TypeDecl

namespace Member

variable {fields : List (String × Json)}

theorem ofJson_of_field (h : Table.get? fields "kind" = some (.str "field")) :
    Member.ofJson (.obj fields) = under (.key "field") ((FieldDecl.ofJson (.obj fields)).map field) := by
  simp only [Member.ofJson, h]

theorem ofJson_of_method (h : Table.get? fields "kind" = some (.str "method")) :
    Member.ofJson (.obj fields) = under (.key "method") ((MethodDecl.ofJson (.obj fields)).map method) := by
  simp only [Member.ofJson, h]

/-- Without one of the two words an object is no member, and the complaint is about the word. -/
theorem ofJson_of_other (hfield : Table.get? fields "kind" ≠ some (.str "field"))
    (hmethod : Table.get? fields "kind" ≠ some (.str "method")) :
    ∃ c, (c = .unionTagNotFound ∨ c = .unionTagInvalid) ∧ Member.ofJson (.obj fields) = fail c := by
  unfold Member.ofJson
  split
  · rename_i heq
    obtain rfl := Json.obj.inj heq
    split
    · exact ⟨_, .inl rfl, rfl⟩
    · exact absurd ‹_› hfield
    · exact absurd ‹_› hmethod
    · exact ⟨_, .inr rfl, rfl⟩
  · rename_i hne
    exact absurd rfl (hne fields)

end Member

end SourceOutline
