import SourceOutline.Java.Reference
import SourceOutline.Model.Outline
import SourceOutline.Syntax.Node

/-!
# Members of Java types

Fields, methods, constructors, enum constants, record components and annotation elements, read off
the body of a declaration.
-/

namespace SourceOutline.Java

/-! ## Declarations and their bodies -/

/-- The kind of type that a node declares, if it declares one. -/
def declaredKind? (n : Node) : Option TypeKind :=
  if n.kind = "class_declaration" ∨ n.kind = "record_declaration" then some .classType
  else if n.kind = "interface_declaration" then some .interfaceType
  else if n.kind = "enum_declaration" then some .enumType
  else if n.kind = "annotation_type_declaration" then some .annotationType
  else none

/-- The node declares a record. -/
def isRecord (n : Node) : Bool :=
  n.kind == "record_declaration"

/-- What stands in the body of a declaration; the declarations after the constants of an enum
stand on the level of the constants. -/
def bodyMembers (n : Node) : List Node :=
  match n.child? "body" with
  | none => []
  | some body =>
    body.children.flatMap fun c => if c.kind = "enum_body_declarations" then c.children else [c]

theorem sizeOf_lt_of_mem_bodyMembers {n m : Node} (h : m ∈ bodyMembers n) :
    sizeOf m < sizeOf n := by
  unfold bodyMembers at h
  split at h
  · simp at h
  · rename_i body hb
    have h₁ := Node.sizeOf_lt_of_mem_children (Node.mem_of_child? hb)
    obtain ⟨c, hc, hm⟩ := List.mem_flatMap.1 h
    have h₂ := Node.sizeOf_lt_of_mem_children hc
    split at hm
    · have h₃ := Node.sizeOf_lt_of_mem_children hm
      omega
    · simp only [List.mem_singleton] at hm
      subst hm
      omega

/-- Some constant of an enum has a body of its own. -/
def hasConstantBodies (n : Node) : Bool :=
  (bodyMembers n).any fun m => m.kind == "enum_constant" && (m.child? "body").isSome

/-- The name of a declaration; an empty name counts as none. -/
def declaredName? (src : Source) (n : Node) : Option String :=
  (src.fieldText? n "name").filter (· ≠ "")

/-! ## Modifiers -/

/-- The words among the modifiers of a declaration. -/
def modifierWords (n : Node) : List String :=
  match n.childOfKind? "modifiers" with
  | none => []
  | some mods =>
    (mods.children.map Node.kind).filter fun k => k ≠ "annotation" ∧ k ≠ "marker_annotation"

/-- The modifiers that a list of words amounts to. The narrowest visibility counts, so that a
written `private` beats an implied `public`. -/
def modifiersOf (words : List String) : Modifiers where
  isStatic := "static" ∈ words
  isFinal := "final" ∈ words
  isAbstract := "abstract" ∈ words
  visibility :=
    if "private" ∈ words then .priv
    else if "protected" ∈ words then .prot
    else if "public" ∈ words then .pub
    else .unstated

/-- The modifiers of a declaration, with those that are implied. -/
def modifiers (n : Node) (implied : List String := []) : Modifiers :=
  modifiersOf (modifierWords n ++ implied)

/-! ## Type variables and dimensions -/

/-- The name of a type parameter. -/
def typeParameterName? (src : Source) (n : Node) : Option String :=
  if n.kind = "type_parameter" then
    (n.namedChildren.find? fun c => c.kind = "type_identifier" ∨ c.kind = "identifier").map src.text
  else none

/-- The type variables that a declaration introduces. -/
def typeVariables (src : Source) (n : Node) : List String :=
  match (n.child? "type_parameters").or (n.childOfKind? "type_parameters") with
  | none => []
  | some params => params.namedChildren.filterMap (typeParameterName? src)

/-- The scope inside a declaration. -/
def inside (src : Source) (n : Node) (scope : Scope) : Scope :=
  scope.withVariables (typeVariables src n)

/-- The bracket pairs written after a name. -/
def dimensions (src : Source) (n : Node) : String :=
  String.ofList (((src.fieldText? n "dimensions").getD "").toList.filter (· ≠ ' '))

/-! ## Parameters -/

/-- A parameter with a type and a name. -/
def formalParameter? (src : Source) (scope : Scope) (n : Node) : Option Parameter :=
  match (src.fieldText? n "name").filter (· ≠ ""), n.child? "type" with
  | some name, some type =>
    some { name, type := reference scope (typeText (src.text type) ++ dimensions src n) }
  | _, _ => none

/-- A parameter for any number of arguments; its type is the array of the written type. -/
def spreadParameter? (src : Source) (scope : Scope) (n : Node) : Option Parameter :=
  let declarators := n.namedChildren.filter (·.kind = "variable_declarator")
  let others := n.namedChildren.filter fun c =>
    c.kind ≠ "variable_declarator" ∧ c.kind ≠ "modifiers"
  let name? := declarators.getLast?.bind fun d => src.fieldText? d "name"
  let type? := others.head?.map fun c => typeText (src.text c)
  match name?.filter (· ≠ ""), type?.filter (· ≠ "") with
  | some name, some type => some { name, type := reference scope (type ++ "[]") }
  | _, _ => none

/-- One entry of a parameter list. -/
def parameter? (src : Source) (scope : Scope) (n : Node) : Option Parameter :=
  if n.kind = "formal_parameter" then formalParameter? src scope n
  else if n.kind = "spread_parameter" then spreadParameter? src scope n
  else none

/-- The parameters under a node's field `parameters`. -/
def parameters (src : Source) (scope : Scope) (n : Node) : List Parameter :=
  match n.child? "parameters" with
  | none => []
  | some ps => ps.namedChildren.filterMap (parameter? src scope)

/-! ## Members -/

/-- One field for each declared name. -/
def fields (src : Source) (scope : Scope) (implied : List String) (n : Node) : List Member :=
  match n.child? "type" with
  | none => []
  | some type =>
    (n.childrenBy "declarator").filterMap fun d =>
      match (src.fieldText? d "name").filter (· ≠ "") with
      | none => none
      | some name =>
        some (.field {
          name
          type := reference scope (typeText (src.text type) ++ dimensions src d)
          modifiers := modifiers n implied })

/-- What is implied for a method: methods of interfaces are public, and abstract if they have
neither a body nor a word against it. -/
def methodImplied (inInterface : Bool) (n : Node) : List String :=
  if inInterface then
    let words := modifierWords n
    if (n.child? "body").isNone ∧ "static" ∉ words ∧ "private" ∉ words then ["public", "abstract"]
    else ["public"]
  else []

/-- A method. -/
def method (src : Source) (scope : Scope) (inInterface : Bool) (n : Node) : Member :=
  let returned :=
    match n.child? "type" with
    | none => "void"
    | some type => typeText (src.text type)
  .method {
    name := (src.fieldText? n "name").getD ""
    modifiers := modifiers n (methodImplied inInterface n)
    returnType := reference scope (returned ++ dimensions src n)
    parameters := parameters src scope n }

/-- A constructor; it returns its owner. -/
def constructor (src : Source) (scope : Scope) (owner : TypeDecl) (n : Node) : Member :=
  .method {
    name := (declaredName? src n).getD owner.name
    modifiers := modifiers n
    returnType := owner
    parameters := parameters src scope n }

/-- A constant of an enum, as a field. -/
def constant? (src : Source) (owner : TypeDecl) (n : Node) : Option Member :=
  (declaredName? src n).map fun name =>
    .field {
      name
      type := owner
      modifiers := { isStatic := true, isFinal := true, visibility := .pub } }

/-- An element of an annotation, as a method. -/
def element? (src : Source) (scope : Scope) (n : Node) : Option Member :=
  match declaredName? src n, n.child? "type" with
  | some name, some type =>
    some (.method {
      name
      modifiers := modifiers n ["public", "abstract"]
      returnType := reference scope (typeText (src.text type)) })
  | _, _ => none

/-- The components of a record, as fields. -/
def components (src : Source) (scope : Scope) (n : Node) : List Member :=
  (parameters src scope n).map fun p =>
    .field { name := p.name, type := p.type, modifiers := { isFinal := true, visibility := .priv } }

/-- The members that one node of a body declares. -/
def membersOf (src : Source) (scope : Scope) (owner : TypeDecl) (n : Node) : List Member :=
  let inInterface := owner.kind = .interfaceType || owner.kind = .annotationType
  if n.kind = "field_declaration" ∨ n.kind = "constant_declaration" then
    fields src scope (if inInterface then ["public", "static", "final"] else []) n
  else if n.kind = "method_declaration" then
    [method src (inside src n scope) inInterface n]
  else if n.kind = "constructor_declaration" then
    [constructor src (inside src n scope) owner n]
  else if n.kind = "enum_constant" then (constant? src owner n).toList
  else if n.kind = "annotation_type_element_declaration" then (element? src scope n).toList
  else []

/-- All members of a declaration, in source order. -/
def members (src : Source) (scope : Scope) (type : TypeDecl) (n : Node) : List Member :=
  let owner := TypeDecl.stub type.package.name type.name type.kind
  (if isRecord n then components src scope n else [])
    ++ (bodyMembers n).flatMap (membersOf src scope owner)

end SourceOutline.Java
