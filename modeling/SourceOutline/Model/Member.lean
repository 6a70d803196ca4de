import SourceOutline.Model.TypeDecl

/-!
# Members of types

Fields and methods, and the signature line of a method.
-/

namespace SourceOutline

/-- A field of a type. -/
structure FieldDecl where
  name : String
  modifiers : Modifiers := {}
  type : TypeDecl
  deriving DecidableEq, Inhabited

/-- A parameter of a method. -/
structure Parameter where
  name : String
  type : TypeDecl
  deriving DecidableEq, Inhabited

/-- A method or constructor of a type. -/
structure MethodDecl where
  name : String
  modifiers : Modifiers := {}
  returnType : TypeDecl
  parameters : List Parameter := []
  deriving DecidableEq, Inhabited

/-- The return type, the name and the parameters on one line, types by their plain names. -/
def MethodDecl.signature (m : MethodDecl) : String :=
  let params := ", ".intercalate (m.parameters.map fun p => s!"{p.type.name} {p.name}")
  s!"{m.returnType.name} {m.name}({params})"

/-- A member of a type. -/
inductive Member where
  | field (f : FieldDecl)
  | method (m : MethodDecl)
  deriving DecidableEq, Inhabited

namespace Member

/-- The name of a member. -/
def name : Member → String
  | field f => f.name
  | method m => m.name

/-- The field, if the member is one. -/
def field? : Member → Option FieldDecl
  | field f => some f
  | method _ => none

/-- The method, if the member is one. -/
def method? : Member → Option MethodDecl
  | method m => some m
  | field _ => none

end Member

end SourceOutline
