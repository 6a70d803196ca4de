import SourceOutline.Model.Outline
import SourceOutline.Python.Imports
import SourceOutline.Python.Reference
import SourceOutline.Text.Case

/-!
# Members of Python classes

Fields from the assignments of a class body, and methods from its functions.
-/

namespace SourceOutline.Python

/-! ## Naming conventions -/

/-- The name begins with this text. -/
def startsWith (s : String) (front : List Char) : Bool :=
  front.isPrefixOf s.toList

/-- Two underscores at both ends. -/
def isDunder (name : String) : Bool :=
  startsWith name ['_', '_'] && ['_', '_'].isSuffixOf name.toList

/-- The visibility that a name asks for: two leading underscores hide it, one keeps it to the
family, and a name with two at both ends is public. -/
def visibilityOf (name : String) : Visibility :=
  let simple := Dotted.last name
  if isDunder simple then .pub
  else if startsWith simple ['_', '_'] then .priv
  else if startsWith simple ['_'] then .prot
  else .pub

/-! ## Fields -/

/-- What an annotation says: the flags of its wrappers and the type inside them. -/
structure Hint where
  isStatic : Bool := false
  isFinal : Bool := false
  type : Option String

/-- Takes the wrappers `ClassVar` and `Final`, in this order, off an annotation. -/
def Hint.ofText (text : String) : Hint :=
  let outer := splitSubscript text
  let isStatic := Dotted.last outer.1 = "ClassVar"
  let kept : Option String := if isStatic then outer.2 else some text
  let inner := if isStatic then splitSubscript (outer.2.getD "") else outer
  let isFinal := Dotted.last inner.1 = "Final"
  { isStatic, isFinal, type := if isFinal then inner.2 else kept }

/-- A field of a class. A name that an enum binds without an annotation is one of its constants;
otherwise a name in capitals is final. -/
def makeField (scope : Scope) (owner : TypeDecl) (name : String) (hint : Option String) :
    FieldDecl :=
  if owner.kind = .enumType ∧ hint = none ∧ !isDunder name then
    { name
      type := owner
      modifiers := { isStatic := true, isFinal := true, visibility := .pub } }
  else
    let note := (hint.map Hint.ofText).getD { type := none }
    { name
      type :=
        match note.type.filter (· ≠ "") with
        | some text => reference scope text
        | none => anyType
      modifiers := {
        isStatic := note.isStatic
        isFinal := Text.isAllUpper name || note.isFinal
        visibility := visibilityOf name } }

mutual

/-- The plain names that an assignment target binds. -/
def targetNames (src : Source) : Node → List String
  | ⟨kind, start, stop, _, _, _, _, children⟩ =>
    if kind = "identifier" then [src.slice start stop]
    else if kind = "pattern_list" ∨ kind = "tuple_pattern" ∨ kind = "list_pattern" then
      targetNamesIn src children
    else []

/-- The plain names that named targets bind, one after another. -/
def targetNamesIn (src : Source) : List Node → List String
  | [] => []
  | n :: ns => (if n.named then targetNames src n else []) ++ targetNamesIn src ns

end

/-- The names that an assignment binds, and those of the assignments to its right. -/
def assignedNames (src : Source) (n : Node) : List String :=
  if n.kind = "assignment" then
    let own :=
      match n.child? "left" with
      | none => []
      | some left => targetNames src left
    match _h : n.child? "right" with
    | none => own
    | some right => own ++ assignedNames src right
  else []
termination_by sizeOf n
decreasing_by exact Node.sizeOf_lt_of_mem_children (Node.mem_of_child? _h)

/-- The fields of one assignment. -/
def fields (src : Source) (scope : Scope) (owner : TypeDecl) (n : Node) : List FieldDecl :=
  (assignedNames src n).map fun name => makeField scope owner name (src.fieldText? n "type")

/-! ## Methods -/

/-- The name behind the stars of a parameter. -/
def splatName (src : Source) (n : Node) : String :=
  match n.namedChildren.find? (·.kind = "identifier") with
  | some c => src.text c
  | none => String.ofList ((src.text n).toList.dropWhile (· = '*'))

/-- The names and annotations that one entry of a parameter list declares. A typed parameter
without anything to type is no parameter. -/
def parameter (src : Source) (n : Node) : Except Unit (List (String × Option String)) :=
  if n.kind = "identifier" then .ok [(src.text n, none)]
  else if n.kind = "list_splat_pattern" ∨ n.kind = "dictionary_splat_pattern" then
    .ok [(splatName src n, none)]
  else if n.kind = "typed_parameter" then
    match n.namedChildren with
    | [] => .error ()
    | target :: _ =>
      let name := if target.kind = "identifier" then src.text target else splatName src target
      .ok [(name, src.fieldText? n "type")]
  else if n.kind = "default_parameter" ∨ n.kind = "typed_default_parameter" then
    match (src.fieldText? n "name").filter (· ≠ "") with
    | none => .ok []
    | some name => .ok [(name, src.fieldText? n "type")]
  else .ok []

/-- The names and annotations of a parameter list. -/
def parameters (src : Source) (params : Option Node) : Except Unit (List (String × Option String)) :=
  match params with
  | none => .ok []
  | some ps => (ps.namedChildren.mapM (parameter src)).map List.flatten

/-- Drops the parameter that stands for the object or the class. -/
def dropReceiver (decorators : List String) (ps : List (String × Option String)) :
    List (String × Option String) :=
  match ps with
  | (name, _) :: rest =>
    if "staticmethod" ∉ decorators ∧ (name = "self" ∨ name = "cls") then rest else ps
  | [] => []

/-- The stub for an annotation, if there is one that is not empty. -/
def annotated (scope : Scope) (text : Option String) : TypeDecl :=
  match text.filter (· ≠ "") with
  | some text => reference scope text
  | none => anyType

/-- A method, with the decorators before it. -/
def method (src : Source) (scope : Scope) (decorators : List String) (n : Node) :
    Except Unit MethodDecl := do
  let ps ← parameters src (n.child? "parameters")
  let name := fieldText src n "name"
  return {
    name
    modifiers := {
      isStatic := "staticmethod" ∈ decorators || "classmethod" ∈ decorators
      isFinal := "final" ∈ decorators
      isAbstract := "abstractmethod" ∈ decorators
      visibility := visibilityOf name }
    returnType := annotated scope (src.fieldText? n "return_type")
    parameters := (dropReceiver decorators ps).map fun p => ⟨p.1, annotated scope p.2⟩ }

/-! ## Members -/

/-- The last component of each decorator, without the arguments of a call. -/
def decoratorNames (src : Source) (n : Node) : List String :=
  (n.children.filter (·.kind == "decorator")).filterMap fun d =>
    d.namedChildren.head?.map fun e =>
      let callee := if e.kind = "call" then (e.child? "function").getD e else e
      Dotted.last (src.text callee)

/-- The members that one node of a class body declares. -/
def membersOf (src : Source) (scope : Scope) (owner : TypeDecl) (n : Node) :
    Except Unit (List Member) :=
  if n.kind = "expression_statement" then
    .ok ((n.namedChildren.filter (·.kind == "assignment")).flatMap fun e =>
      (fields src scope owner e).map Member.field)
  else if n.kind = "function_definition" then
    (method src scope [] n).map fun m => [.method m]
  else if n.kind = "decorated_definition" then
    match (n.child? "definition").filter (·.kind = "function_definition") with
    | none => .ok []
    | some f => (method src scope (decoratorNames src n) f).map fun m => [.method m]
  else .ok []

/-- All members in a class body, in source order. -/
def members (src : Source) (scope : Scope) (type : TypeDecl) (body : Node) :
    Except Unit (List Member) :=
  let owner := TypeDecl.stub type.package.name type.name type.kind
  (body.children.mapM (membersOf src scope owner)).map List.flatten

end SourceOutline.Python
