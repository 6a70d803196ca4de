import SourceOutline.Error.Run
import SourceOutline.Extract.Declaration
import SourceOutline.Extract.Emission
import SourceOutline.Java.Imports
import SourceOutline.Java.Members

/-!
# Types of a Java file

* `declarations` is the forest of named declarations in a file.
* `details` emits each declaration with its members, nested ones right after the one around them.
-/

namespace SourceOutline.Java

/-- The named declaration at a node, with those in its body. -/
def declaration? (src : Source) (n : Node) : Option Declaration :=
  match declaredKind? n, declaredName? src n with
  | some _, some name =>
    some { node := n, name, nested := (bodyMembers n).attach.filterMap fun m => declaration? src m.1 }
  | _, _ => none
termination_by sizeOf n
decreasing_by exact sizeOf_lt_of_mem_bodyMembers m.2

/-- The declarations of a file. -/
def declarations (src : Source) (root : Node) : List Declaration :=
  root.children.filterMap (declaration? src)

/-- How the names in a file are looked up. -/
def fileScope (src : Source) (root : Node) : Scope where
  package := packageName src root
  imports := importTable (imports src root)
  declared := Declaration.registerAll none [] (declarations src root)

/-! ## One type -/

/-- What is implied for a type by its kind and by the kind of the type around it. -/
def typeImplied (outer : Option TypeKind) (kind : TypeKind) (n : Node) : List String :=
  let abstract := if kind = .interfaceType ∨ kind = .annotationType then ["abstract"] else []
  let final := if isRecord n ∨ (kind = .enumType ∧ !hasConstantBodies n) then ["final"] else []
  match outer with
  | none => abstract ++ final
  | some outer =>
    abstract ++ final ++ (if kind ≠ .classType ∨ isRecord n then ["static"] else [])
      ++ (if outer = .interfaceType ∨ outer = .annotationType then ["public", "static"] else [])

/-- The super class that is written. -/
def superClasses (src : Source) (scope : Scope) (n : Node) : List TypeDecl :=
  match (n.childOfKind? "superclass").bind fun c => c.namedChildren.head? with
  | none => []
  | some type => [reference scope (typeText (src.text type))]

/-- The types in the lists of one clause. -/
def clauseTypes (src : Source) (scope : Scope) (n : Node) (clause : String) : List TypeDecl :=
  match n.childOfKind? clause with
  | none => []
  | some c =>
    (c.namedChildren.filter (·.kind == "type_list")).flatMap fun list =>
      list.namedChildren.map fun t => reference scope (typeText (src.text t)) .interfaceType

/-- The interfaces that are written. -/
def interfaces (src : Source) (scope : Scope) (n : Node) : List TypeDecl :=
  clauseTypes src scope n "super_interfaces" ++ clauseTypes src scope n "extends_interfaces"

/-- The declared type itself, without regard to what its kind allows. -/
def header (src : Source) (scope : Scope) (outer : Option (String × TypeKind)) (kind : TypeKind)
    (d : Declaration) : TypeDecl where
  package := ⟨scope.package⟩
  name := Declaration.nest (outer.map Prod.fst) d.name
  modifiers := modifiers d.node (typeImplied (outer.map Prod.snd) kind d.node)
  kind := kind
  superClasses := superClasses src scope d.node
  interfaces := interfaces src scope d.node

/-! ## All types -/

/-- A type with its members in source order. -/
structure Found where
  type : TypeDecl
  members : List Member

mutual

/-- Emits a declaration, then those nested in it. -/
def collect (src : Source) (scope : Scope) (outer : Option (String × TypeKind)) :
    Declaration → Emission TypeDecl.Violation Found
  | ⟨node, name, decorators, nested⟩ =>
    let kind := (declaredKind? node).getD .classType
    match TypeDecl.make (header src scope outer kind ⟨node, name, decorators, nested⟩) with
    | .error v => { failure := some v }
    | .ok type =>
      let within := inside src node scope
      Emission.append { emitted := [⟨type, members src within type node⟩] }
        (collectAll src within (some (type.name, kind)) nested)

/-- Emits declarations one after another. -/
def collectAll (src : Source) (scope : Scope) (outer : Option (String × TypeKind)) :
    List Declaration → Emission TypeDecl.Violation Found
  | [] => {}
  | d :: ds => (collect src scope outer d).append (collectAll src scope outer ds)

end

/-- Emits every declaration of a file. -/
def found (src : Source) (root : Node) : Emission TypeDecl.Violation Found :=
  collectAll src (fileScope src root) none (declarations src root)

/-- The report on one type. -/
def Found.record (f : Found) : Log.Record :=
  ⟨Log.javaChannel, .debug,
    s!"java: {f.type.kind.word} {f.type.qualifiedName} ({f.members.length} members)"⟩

/-- The issue that a type which contradicts its kind is reported as. -/
def failureOf (v : TypeDecl.Violation) : Failure :=
  .invalid [{ complaint := .rule v.message }]

/-- Every type of a file with its members. -/
def details (src : Source) (root : Node) : Run (List TypeDetails) :=
  let p := found src root
  { log := p.emitted.map Found.record
    result :=
      match p.result with
      | .error v => .error (failureOf v)
      | .ok fs => .ok (fs.map fun f => ⟨f.type, .ofList f.members⟩) }

end SourceOutline.Java
