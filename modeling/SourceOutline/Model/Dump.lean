import SourceOutline.Json.Printer
import SourceOutline.Model.Member

/-!
# Records as JSON

Each record is an object with all its fields, in a fixed order, under keys in camel case.

* `toJson` on types and members.
* `Member.key` is the text by which members are told apart and put in order: the record with its
  keys sorted, on one line, in ASCII.
-/

namespace SourceOutline

/-- A package as JSON. -/
def Package.toJson (p : Package) : Json :=
  .obj [("name", .str p.name)]

/-- Modifiers as JSON. -/
def Modifiers.toJson (m : Modifiers) : Json :=
  .obj [("isStatic", .bool m.isStatic), ("isFinal", .bool m.isFinal),
    ("isAbstract", .bool m.isAbstract), ("visibility", .str m.visibility.word)]

mutual

/-- A type as JSON. -/
def TypeDecl.toJson : TypeDecl → Json
  | ⟨package, name, modifiers, kind, superClasses, interfaces⟩ =>
    .obj [("package", package.toJson), ("name", .str name), ("modifiers", modifiers.toJson),
      ("type", .str kind.word), ("superClasses", .arr (TypeDecl.toJsonAll superClasses)),
      ("interfaces", .arr (TypeDecl.toJsonAll interfaces))]

/-- Types as JSON. -/
def TypeDecl.toJsonAll : List TypeDecl → List Json
  | [] => []
  | t :: ts => t.toJson :: TypeDecl.toJsonAll ts

end

theorem TypeDecl.toJsonAll_eq_map (ts : List TypeDecl) :
    TypeDecl.toJsonAll ts = ts.map TypeDecl.toJson := by
  induction ts with
  | nil => rfl
  | cons t ts ih => simp [TypeDecl.toJsonAll, ih]

/-- A field as JSON. -/
def FieldDecl.toJson (f : FieldDecl) : Json :=
  .obj [("name", .str f.name), ("modifiers", f.modifiers.toJson), ("kind", .str "field"),
    ("type", f.type.toJson)]

/-- A parameter as JSON. -/
def Parameter.toJson (p : Parameter) : Json :=
  .obj [("name", .str p.name), ("type", p.type.toJson)]

/-- A method as JSON. -/
def MethodDecl.toJson (m : MethodDecl) : Json :=
  .obj [("name", .str m.name), ("modifiers", m.modifiers.toJson), ("kind", .str "method"),
    ("returnType", m.returnType.toJson), ("parameters", .arr (m.parameters.map Parameter.toJson))]

/-- A member as JSON. -/
def Member.toJson : Member → Json
  | .field f => f.toJson
  | .method m => m.toJson

/-- Every object with its keys in order. -/
def Json.sortKeys (v : Json) : Json :=
  v.mapObjects fun fields => .obj (fields.mergeSort fun a b => decide (a.1 ≤ b.1))

/-- The text that orders members and tells them apart. -/
def Member.key (m : Member) : String :=
  m.toJson.sortKeys.render .spaced

end SourceOutline
