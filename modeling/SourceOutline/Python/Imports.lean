import SourceOutline.Syntax.Node
import SourceOutline.Text.Blank
import SourceOutline.Text.Dotted
import SourceOutline.Table

/-!
# Imports of a Python file

Import statements at any depth, each with the value that it imports and the name that it binds.
-/

namespace SourceOutline.Python

/-- One imported name. -/
structure Binding where
  /-- What is imported. -/
  value : String
  /-- The name it is known by; a star binds no name. -/
  localName : String
  /-- What that name stands for. -/
  bound : String
  deriving DecidableEq, Repr

/-- The text of a field, or the empty text. -/
def fieldText (src : Source) (n : Node) (field : String) : String :=
  (src.fieldText? n field).getD ""

/-- The imported name and the name given to it, which is the same without an alias. -/
def aliased (src : Source) (n : Node) : String × String :=
  if n.kind = "aliased_import" then
    let name := fieldText src n "name"
    let other := fieldText src n "alias"
    (name, if other = "" then name else other)
  else (src.text n, src.text n)

/-- `import a.b` binds `a`; with an alias, the alias stands for the whole. -/
def plainBinding (src : Source) (n : Node) : Binding :=
  let (name, other) := aliased src n
  if n.kind = "aliased_import" then ⟨name, other, name⟩
  else ⟨name, Dotted.head name, Dotted.head name⟩

/-- A name inside a module; the dots of a relative module stay in front. -/
def qualify (module name : String) : String :=
  if module = "" then name
  else if module.toList.getLast? = some '.' then module ++ name
  else module ++ "." ++ name

/-- The module of a `from` import, without blanks. -/
def moduleName (src : Source) (n : Node) : String :=
  if n.kind = "future_import_statement" then "__future__"
  else String.ofList (Text.squeeze (fieldText src n "module_name").toList)

/-- The names of a `from` import, a star first. -/
def fromBindings (src : Source) (n : Node) : List Binding :=
  let module := moduleName src n
  let stars := (n.children.filter (·.kind == "wildcard_import")).map fun _ =>
    (⟨qualify module "*", "*", qualify module "*"⟩ : Binding)
  stars ++ (n.childrenBy "name").map fun c =>
    let (name, other) := aliased src c
    ⟨qualify module name, other, qualify module name⟩

/-- The names that one import statement binds; other nodes bind none. -/
def statementBindings? (src : Source) (n : Node) : Option (List Binding) :=
  if n.kind = "import_statement" then some ((n.childrenBy "name").map (plainBinding src))
  else if n.kind = "import_from_statement" ∨ n.kind = "future_import_statement" then
    some (fromBindings src n)
  else none

mutual

/-- The bindings at a node: those of the statement it is, or else those below it. -/
def bindings (src : Source) : Node → List Binding
  | ⟨kind, start, stop, field, named, missing, flagged, children⟩ =>
    match statementBindings? src ⟨kind, start, stop, field, named, missing, flagged, children⟩ with
    | some bs => bs
    | none => if children.any Node.named then bindingsIn src children else []

/-- The bindings at nodes, one after another. -/
def bindingsIn (src : Source) : List Node → List Binding
  | [] => []
  | n :: ns => bindings src n ++ bindingsIn src ns

end

/-- The bindings of a file, in source order. -/
def fileBindings (src : Source) (root : Node) : List Binding :=
  bindingsIn src root.children

/-- What each bound name stands for; the last binding counts. -/
def importTable (bs : List Binding) : Table String String :=
  Table.ofPairs ((bs.filter fun b => b.localName ≠ "*").map fun b => (b.localName, b.bound))

end SourceOutline.Python
