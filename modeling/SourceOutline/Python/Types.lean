import SourceOutline.Error.Run
import SourceOutline.Extract.Declaration
import SourceOutline.Extract.Emission
import SourceOutline.Python.Members

/-!
# Classes of a Python file

* `declarations` is the forest of named classes in a file. Classes under `if`, `try` and `with`
  belong to the scope around the statement; functions are not entered.
* `details` emits each class with its members, nested ones right after the one around them.
-/

namespace SourceOutline.Python

/-- Statements whose blocks declare names in the scope around them. -/
def isTransparent (n : Node) : Bool :=
  n.kind ∈ ["if_statement", "elif_clause", "else_clause", "try_statement", "except_clause",
    "except_group_clause", "finally_clause", "with_statement", "block"]

/-- The class that a node defines, with the decorators before it. -/
def classAt? (src : Source) (n : Node) : Option (Node × List String) :=
  if n.kind = "class_definition" then some (n, [])
  else if n.kind = "decorated_definition" then
    ((n.child? "definition").filter (·.kind = "class_definition")).map
      fun c => (c, decoratorNames src n)
  else none

theorem sizeOf_classAt? {src : Source} {n c : Node} {ds : List String}
    (h : classAt? src n = some (c, ds)) : sizeOf c ≤ sizeOf n := by
  unfold classAt? at h
  split at h
  · simp only [Option.some.injEq, Prod.mk.injEq] at h
    exact h.1 ▸ Nat.le_refl _
  · split at h
    · simp only [Option.map_eq_some_iff, Option.filter_eq_some_iff, Prod.mk.injEq] at h
      obtain ⟨d, ⟨hd, -⟩, rfl, -⟩ := h
      exact Nat.le_of_lt (Node.sizeOf_lt_of_mem_children (Node.mem_of_child? hd))
    · simp at h

/-- The name of a class; an empty name counts as none. -/
def className? (src : Source) (n : Node) : Option String :=
  (src.fieldText? n "name").filter (· ≠ "")

/-- The named classes that a block declares. -/
def classesIn (src : Source) (block : Node) : List Declaration :=
  block.children.attach.flatMap fun ⟨n, _hn⟩ =>
    match _h : classAt? src n with
    | some (c, decorators) =>
      match className? src c with
      | none => []
      | some name =>
        match _hb : c.child? "body" with
        | none => [{ node := c, name, decorators }]
        | some body => [{ node := c, name, decorators, nested := classesIn src body }]
    | none => if isTransparent n then classesIn src n else []
termination_by sizeOf block
decreasing_by
  · have h₁ := Node.sizeOf_lt_of_mem_children (Node.mem_of_child? _hb)
    have h₂ := sizeOf_classAt? _h
    have h₃ := Node.sizeOf_lt_of_mem_children _hn
    omega
  · exact Node.sizeOf_lt_of_mem_children _hn

/-- The classes of a file. -/
def declarations (src : Source) (root : Node) : List Declaration :=
  classesIn src root

/-- How the names in a file are looked up. -/
def fileScope (src : Source) (module : String) (root : Node) : Scope where
  package := module
  imports := importTable (fileBindings src root)
  declared := Declaration.registerAll none [] (declarations src root)

/-! ## One class -/

/-- The classes whose subclasses are enums. -/
def enumBases : List String := ["Enum", "IntEnum", "StrEnum", "Flag", "IntFlag"]

/-- The bases that are not supertypes. -/
def ignoredBases : List String := ["object", "Generic"]

/-- The arguments after the name of a class. -/
def classArguments (n : Node) : List Node :=
  match n.child? "superclasses" with
  | none => []
  | some args => args.namedChildren

/-- The base classes that are written as names, without arguments in brackets. -/
def bases (src : Source) (n : Node) : List String :=
  ((classArguments n).filter fun a =>
    a.kind = "identifier" ∨ a.kind = "attribute" ∨ a.kind = "subscript").map
      fun a => dropSubscripts (src.text a)

/-- The metaclass that is written. -/
def metaclass? (src : Source) (n : Node) : Option String :=
  let given := (classArguments n).filter fun a =>
    a.kind = "keyword_argument" ∧ src.fieldText? a "name" = some "metaclass"
  given.getLast?.bind fun a => src.fieldText? a "value"

/-- The kind of a class with these bases. -/
def kindOf (simpleBases : List String) : TypeKind :=
  if simpleBases.any (· ∈ enumBases) then .enumType
  else if "Protocol" ∈ simpleBases then .interfaceType
  else .classType

/-- The declared class itself. -/
def header (src : Source) (scope : Scope) (outer : Option String) (d : Declaration) : TypeDecl :=
  let written := bases src d.node
  let simple := written.map Dotted.last
  let kind := kindOf simple
  { package := ⟨scope.package⟩
    name := Declaration.nest outer d.name
    modifiers := {
      isFinal := "final" ∈ d.decorators
      isAbstract := "ABC" ∈ simple || ((metaclass? src d.node).map Dotted.last) = some "ABCMeta"
        || kind = .interfaceType
      visibility := visibilityOf d.name }
    kind := kind
    superClasses :=
      if kind = .classType then
        (written.filter fun b => Dotted.last b ∉ ignoredBases).map fun b => reference scope b
      else []
    interfaces :=
      if kind = .interfaceType then
        (written.filter fun b => Dotted.last b ∉ "Protocol" :: ignoredBases).map
          fun b => reference scope b .interfaceType
      else [] }

/-! ## All classes -/

/-- A class with its members in source order. -/
structure Found where
  type : TypeDecl
  members : List Member

/-- The members of a declaration. -/
def declaredMembers (src : Source) (scope : Scope) (type : TypeDecl) (n : Node) :
    Except Unit (List Member) :=
  match n.child? "body" with
  | none => .ok []
  | some body => members src scope type body

/-- The issue that a class which contradicts its kind is reported as. -/
def failureOf (v : TypeDecl.Violation) : Failure :=
  .invalid [{ complaint := .rule v.message }]

/-- One class with its members. -/
def find (src : Source) (scope : Scope) (outer : Option String) (d : Declaration) :
    Except Failure Found :=
  match TypeDecl.make (header src scope outer d) with
  | .error v => .error (failureOf v)
  | .ok type =>
    match declaredMembers src scope type d.node with
    | .error _ => .error .missingChild
    | .ok ms => .ok ⟨type, ms⟩

mutual

/-- Emits a class, then those nested in it. -/
def collect (src : Source) (scope : Scope) (outer : Option String) :
    Declaration → Emission Failure Found
  | ⟨node, name, decorators, nested⟩ =>
    (Emission.ofExcept (find src scope outer ⟨node, name, decorators, nested⟩)).append
      (collectAll src scope (some (Declaration.nest outer name)) nested)

/-- Emits classes one after another. -/
def collectAll (src : Source) (scope : Scope) (outer : Option String) :
    List Declaration → Emission Failure Found
  | [] => {}
  | d :: ds => (collect src scope outer d).append (collectAll src scope outer ds)

end

/-- Emits every class of a file. -/
def found (src : Source) (module : String) (root : Node) : Emission Failure Found :=
  collectAll src (fileScope src module root) none (declarations src root)

/-- The report on one class. -/
def Found.record (f : Found) : Log.Record :=
  ⟨Log.pythonChannel, .debug,
    s!"python: {f.type.kind.word} {f.type.qualifiedName} ({f.members.length} members)"⟩

/-- Every class of a file with its members. -/
def details (src : Source) (module : String) (root : Node) : Run (List TypeDetails) :=
  let p := found src module root
  { log := p.emitted.map Found.record
    result := p.result.map fun fs => fs.map fun f => ⟨f.type, .ofList f.members⟩ }

end SourceOutline.Python
