import SourceOutline.Model.Reading

/-!
# Classes of records

All classes of records side by side, with how their records are read and written.
-/

namespace SourceOutline

/-- The classes of records. -/
inductive RecordClass where
  | package
  | modifiers
  | type
  /-- A member that is neither field nor method. -/
  | plainMember
  | field
  | method
  | parameter
  /-- A type with its members. -/
  | details
  | importEntry
  | file
  deriving DecidableEq, Repr

namespace RecordClass

/-- The records of a class. -/
def Record : RecordClass → Type
  | package => Package
  | modifiers => Modifiers
  | type => TypeDecl
  | plainMember => PlainMember
  | field => FieldDecl
  | method => MethodDecl
  | parameter => Parameter
  | details => TypeDetails
  | importEntry => Import
  | file => ParsedFile

/-- Reads a record of a class. -/
def ofJson : (c : RecordClass) → Json → Checked c.Record
  | package => Package.ofJson
  | modifiers => Modifiers.ofJson
  | type => TypeDecl.ofJson
  | plainMember => PlainMember.ofJson
  | field => FieldDecl.ofJson
  | method => MethodDecl.ofJson
  | parameter => Parameter.ofJson
  | details => TypeDetails.ofJson
  | importEntry => Import.ofJson
  | file => ParsedFile.ofJson

/-- A record as JSON. -/
def toJson : (c : RecordClass) → c.Record → Json
  | package => Package.toJson
  | modifiers => Modifiers.toJson
  | type => TypeDecl.toJson
  | plainMember => PlainMember.toJson
  | field => FieldDecl.toJson
  | method => MethodDecl.toJson
  | parameter => Parameter.toJson
  | details => TypeDetails.toJson
  | importEntry => Import.toJson
  | file => ParsedFile.toJson

end RecordClass

end SourceOutline
