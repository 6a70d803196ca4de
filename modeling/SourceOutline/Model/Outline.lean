import SourceOutline.Model.MemberSet

/-!
# Outlines of source files

What is extracted from one file: its imports and its types (`ParsedFile`), and each type with its
members (`TypeDetails`). All of it is written as JSON by `toJson`.
-/

namespace SourceOutline

/-- A type with its members. -/
structure TypeDetails where
  type : TypeDecl
  members : MemberSet := .empty
  deriving DecidableEq, Inhabited

/-- A name or a namespace that a file brings in. -/
structure Import where
  value : String
  deriving DecidableEq, Repr, Inhabited

namespace Import

/-- The value ends in a dot and a star. -/
def endsInStar (i : Import) : Bool :=
  ['.', '*'].isSuffixOf i.value.toList

/-- Every member of a namespace is brought in. -/
def isWildcard (i : Import) : Bool :=
  i.value = "*" || i.endsInStar

/-- The value without the star. -/
def inNamespace (i : Import) : String :=
  if i.value = "*" then ""
  else if i.endsInStar then String.ofList (i.value.toList.take (i.value.length - 2))
  else i.value

/-- An import as JSON. -/
def toJson (i : Import) : Json :=
  .obj [("value", .str i.value)]

end Import

/-- The imports and types of one file, both in source order. -/
structure ParsedFile where
  imports : List Import := []
  types : List TypeDecl := []
  deriving DecidableEq, Inhabited

/-- A type with its members as JSON, the members in the order of their keys. -/
def TypeDetails.toJson (d : TypeDetails) : Json :=
  .obj [("type", d.type.toJson), ("typeMembers", .arr (d.members.items.map Member.toJson))]

/-- An outline as JSON. -/
def ParsedFile.toJson (f : ParsedFile) : Json :=
  .obj [("imports", .arr (f.imports.map Import.toJson)),
    ("types", .arr (f.types.map TypeDecl.toJson))]

/-- The JSON text of an outline: on one line without blanks, or indented. -/
def ParsedFile.jsonText (f : ParsedFile) (indent : Option Nat) : String :=
  f.toJson.render (match indent with
    | none => .compact
    | some n => .indented n)

end SourceOutline
