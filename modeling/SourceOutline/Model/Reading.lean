import SourceOutline.Model.Outline
import SourceOutline.Json.Reader
import SourceOutline.Validation.Fields

/-!
# Reading records

Each record is read from a JSON object, with all issues of its fields in the order of the fields,
those about unknown fields last. The rules on kinds and supertypes are looked at only when a type
has no other issue.
-/

namespace SourceOutline

open Checked

/-! ## Field names -/

namespace FieldName

def name : FieldName := .plain "name"
def package : FieldName := .plain "package"
def modifiers : FieldName := .plain "modifiers"
def type : FieldName := .plain "type"
def kind : FieldName := .plain "kind"
def interfaces : FieldName := .plain "interfaces"
def superClasses : FieldName := ⟨"superClasses", "super_classes"⟩
def isStatic : FieldName := ⟨"isStatic", "is_static"⟩
def isFinal : FieldName := ⟨"isFinal", "is_final"⟩
def isAbstract : FieldName := ⟨"isAbstract", "is_abstract"⟩
def visibility : FieldName := .plain "visibility"
def returnType : FieldName := ⟨"returnType", "return_type"⟩
def parameters : FieldName := .plain "parameters"
def typeMembers : FieldName := ⟨"typeMembers", "type_members"⟩
def value : FieldName := .plain "value"
def imports : FieldName := .plain "imports"
def types : FieldName := .plain "types"

end FieldName

/-! ## Packages, modifiers and types -/

/-- Reads a package. -/
def Package.ofJson : Json → Checked Package :=
  object fun fields =>
    closed [.name] fields ((optional .name "" string fields).map Package.mk)

/-- Reads modifiers. -/
def Modifiers.ofJson : Json → Checked Modifiers :=
  object fun fields =>
    closed [.isStatic, .isFinal, .isAbstract, .visibility] fields <|
      (both (optional .isStatic false bool fields) <|
        both (optional .isFinal false bool fields) <|
        both (optional .isAbstract false bool fields)
          (optional .visibility .unstated (word Visibility.ofWord?) fields)).map
        fun (isStatic, isFinal, isAbstract, visibility) =>
          { isStatic, isFinal, isAbstract, visibility }

/-- Refuses a type that contradicts its kind. -/
def TypeDecl.checkKind (t : TypeDecl) : Checked TypeDecl :=
  match t.violation? with
  | some v => fail (.rule v.message)
  | none => .ok t

/-- Puts a type together. The fields come twice: as they are, and each read as a list of types. -/
def TypeDecl.assemble (fields : List (String × Json))
    (lists : List (String × Checked (List TypeDecl))) : Checked TypeDecl := do
  let t ← closed [.package, .name, .modifiers, .type, .superClasses, .interfaces] fields <|
    (both (optional .package {} Package.ofJson fields) <|
      both (required .name string fields) <|
      both (optional .modifiers {} Modifiers.ofJson fields) <|
      both (optional .type .classType (word TypeKind.ofWord?) fields) <|
      both (optional .superClasses [] id lists) (optional .interfaces [] id lists)).map
      fun (package, name, modifiers, kind, superClasses, interfaces) =>
        ({ package, name, modifiers, kind, superClasses, interfaces } : TypeDecl)
  t.checkKind

mutual

/-- Reads a type. -/
def TypeDecl.ofJson : Json → Checked TypeDecl
  | .obj fields => TypeDecl.assemble fields (TypeDecl.listFields fields)
  | _ => fail .modelType

/-- Reads a list of types. -/
def TypeDecl.listOfJson : Json → Checked (List TypeDecl)
  | .arr items => TypeDecl.itemsOfJson 0 items
  | _ => fail .tupleType

/-- Reads types from position `n` on. -/
def TypeDecl.itemsOfJson : Nat → List Json → Checked (List TypeDecl)
  | _, [] => .ok []
  | n, v :: vs =>
    (both ((TypeDecl.ofJson v).under (.index n)) (TypeDecl.itemsOfJson (n + 1) vs)).map
      fun p => p.1 :: p.2

/-- Reads each field as a list of types; which fields count is for the record to say. -/
def TypeDecl.listFields : List (String × Json) → List (String × Checked (List TypeDecl))
  | [] => []
  | (k, v) :: fs => (k, TypeDecl.listOfJson v) :: TypeDecl.listFields fs

end

/-! ## Members -/

/-- Reads a parameter. -/
def Parameter.ofJson : Json → Checked Parameter :=
  object fun fields =>
    closed [.name, .type] fields <|
      (both (required .name string fields) (required .type TypeDecl.ofJson fields)).map
        fun (name, type) => { name, type }

/-- Reads a field. -/
def FieldDecl.ofJson : Json → Checked FieldDecl :=
  object fun fields =>
    closed [.name, .modifiers, .kind, .type] fields <|
      (both (required .name string fields) <|
        both (optional .modifiers {} Modifiers.ofJson fields) <|
        both (optional .kind () (literal "field") fields)
          (required .type TypeDecl.ofJson fields)).map
        fun (name, modifiers, _, type) => { name, modifiers, type }

/-- Reads a method. -/
def MethodDecl.ofJson : Json → Checked MethodDecl :=
  object fun fields =>
    closed [.name, .modifiers, .kind, .returnType, .parameters] fields <|
      (both (required .name string fields) <|
        both (optional .modifiers {} Modifiers.ofJson fields) <|
        both (optional .kind () (literal "method") fields) <|
        both (required .returnType TypeDecl.ofJson fields)
          (optional .parameters [] (sequence Parameter.ofJson) fields)).map
        fun (name, modifiers, _, returnType, parameters) =>
          { name, modifiers, returnType, parameters }

/-- Reads a field or a method, told apart by `kind`. -/
def Member.ofJson (v : Json) : Checked Member :=
  match v with
  | .obj fields =>
    match Table.get? fields "kind" with
    | none => fail .unionTagNotFound
    | some (.str "field") => under (.key "field") ((FieldDecl.ofJson v).map Member.field)
    | some (.str "method") => under (.key "method") ((MethodDecl.ofJson v).map Member.method)
    | some _ => fail .unionTagInvalid
  | _ => fail .modelAttributesType

/-- Reads a set of members. -/
def MemberSet.ofJson : Json → Checked MemberSet
  | .arr items => (itemsFrom Member.ofJson 0 items).map MemberSet.ofList
  | _ => fail .frozenSetType

/-- A member that is neither field nor method: a name with modifiers. -/
structure PlainMember where
  name : String
  modifiers : Modifiers := {}
  deriving DecidableEq

/-- Reads a plain member. -/
def PlainMember.ofJson : Json → Checked PlainMember :=
  object fun fields =>
    closed [.name, .modifiers] fields <|
      (both (required .name string fields) (optional .modifiers {} Modifiers.ofJson fields)).map
        fun (name, modifiers) => { name, modifiers }

/-- A plain member as JSON. -/
def PlainMember.toJson (m : PlainMember) : Json :=
  .obj [("name", .str m.name), ("modifiers", m.modifiers.toJson)]

/-! ## Files -/

/-- Reads a type with its members. -/
def TypeDetails.ofJson : Json → Checked TypeDetails :=
  object fun fields =>
    closed [.type, .typeMembers] fields <|
      (both (required .type TypeDecl.ofJson fields)
        (optional .typeMembers .empty MemberSet.ofJson fields)).map
        fun (type, members) => { type, members }

/-- Reads an import. -/
def Import.ofJson : Json → Checked Import :=
  object fun fields =>
    closed [.value] fields ((required .value string fields).map Import.mk)

/-- Reads an outline. -/
def ParsedFile.ofJson : Json → Checked ParsedFile :=
  object fun fields =>
    closed [.imports, .types] fields <|
      (both (optional .imports [] (sequence Import.ofJson) fields)
        (optional .types [] TypeDecl.listOfJson fields)).map
        fun (imports, types) => { imports, types }

/-- Reads a record from a JSON text. -/
def Checked.ofText (read : Json → Checked α) (text : String) : Checked α :=
  match Json.parse? text with
  | none => fail .jsonInvalid
  | some v => read v

/-- Reads an outline from its JSON text. -/
def ParsedFile.ofJsonText (text : String) : Checked ParsedFile :=
  Checked.ofText ParsedFile.ofJson text

end SourceOutline
