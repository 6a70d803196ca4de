import SourceOutline.Error.Failure
import SourceOutline.Model.Outline

/-!
# Tables of types

Types under their qualified names, first come first. A second type of the same name is refused
unless it is the same type.

* `TypeTable.register` adds a type, `TypeTable.ofTypes` and `TypeTable.ofFiles` build a table.
* `TypeTable.resolve` goes from a stub to the registered type.
-/

namespace SourceOutline

/-- Types under their qualified names. -/
structure TypeTable where
  entries : Table String TypeDecl := []
  keyed : ∀ e ∈ entries, e.1 = e.2.qualifiedName := by simp

namespace TypeTable

/-- The table without types. -/
def empty : TypeTable := {}

/-- The type of a qualified name. -/
def get? (t : TypeTable) (name : String) : Option TypeDecl :=
  t.entries.get? name

/-- Enters a type under its name, in place of any other. -/
def put (t : TypeTable) (type : TypeDecl) : TypeTable where
  entries := t.entries.set type.qualifiedName type
  keyed := fun e he => by
    rcases Table.mem_set_imp he with rfl | he
    · rfl
    · exact t.keyed e he

/-- The report on two types of one name. -/
def conflict (name : String) : Report :=
  .make .duplicateType s!"Conflicting declarations for {name}" [("qualified_name", .str name)]

/-- Adds a type, unless another one has its name. -/
def register (t : TypeTable) (type : TypeDecl) : Except Report TypeTable :=
  match t.get? type.qualifiedName with
  | some other => if other = type then .ok (t.put type) else .error (conflict type.qualifiedName)
  | none => .ok (t.put type)

/-- Adds types one after another. -/
def registerAll (t : TypeTable) (types : List TypeDecl) : Except Report TypeTable :=
  types.foldlM register t

/-- The table of a list of types. -/
def ofTypes (types : List TypeDecl) : Except Report TypeTable :=
  empty.registerAll types

/-- The table of all types of some files. -/
def ofFiles (files : List ParsedFile) : Except Report TypeTable :=
  files.foldlM (fun t f => t.registerAll f.types) empty

/-- The types, first come first. -/
def types (t : TypeTable) : List TypeDecl :=
  t.entries.values

/-- The number of types. -/
def size (t : TypeTable) : Nat :=
  t.entries.length

/-- A type has this qualified name. -/
def has (t : TypeTable) (name : String) : Bool :=
  t.entries.has name

/-- The registered type that a stub stands for, or else the stub. -/
def resolve (t : TypeTable) (stub : TypeDecl) : TypeDecl :=
  (t.get? stub.qualifiedName).getD stub

/-- The super classes and then the interfaces of a type, resolved. -/
def supertypes (t : TypeTable) (type : TypeDecl) : List TypeDecl :=
  (type.superClasses ++ type.interfaces).map t.resolve

end TypeTable

end SourceOutline
