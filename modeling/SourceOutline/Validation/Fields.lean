import SourceOutline.Validation.Issue

/-!
# Reading objects field by field

A field of a record has a key in camel case and a second spelling in snake case. Either may be
given; if both are, the first counts and the second is a field too many.

* `FieldName.find?` looks a field up, with the spelling that was used.
* `required`, `optional` read a field, `extras` complains about the fields that no name takes.
-/

namespace SourceOutline

/-- The two spellings of a field. -/
structure FieldName where
  key : String
  other : String
  deriving DecidableEq, Repr

/-- A field with one spelling. -/
def FieldName.plain (name : String) : FieldName :=
  ⟨name, name⟩

namespace FieldName

/-- The value of a field, with the spelling under which it was given. -/
def find? (f : FieldName) (fields : List (String × α)) : Option (String × α) :=
  match Table.get? fields f.key with
  | some v => some (f.key, v)
  | none => (Table.get? fields f.other).map fun v => (f.other, v)

/-- The key gives this field a value. -/
def takes (f : FieldName) (fields : List (String × α)) (key : String) : Bool :=
  key = f.key || (key = f.other && (Table.get? fields f.key).isNone)

end FieldName

namespace Checked

/-- Reads a field that must be there. -/
def required (f : FieldName) (read : α → Checked β) (fields : List (String × α)) : Checked β :=
  match f.find? fields with
  | none => .error [⟨[.key f.key], .missing⟩]
  | some (key, v) => (read v).under (.key key)

/-- Reads a field that has a default value. -/
def optional (f : FieldName) (default : β) (read : α → Checked β) (fields : List (String × α)) :
    Checked β :=
  match f.find? fields with
  | none => .ok default
  | some (key, v) => (read v).under (.key key)

/-- The issues about fields that no name takes, in their order. -/
def extras (names : List FieldName) (fields : List (String × α)) : List Issue :=
  (fields.filter fun e => !names.any fun f => f.takes fields e.1).map fun e =>
    ⟨[.key e.1], .extraForbidden⟩

/-- An outcome for known fields, together with the issues about the others. -/
def closed (names : List FieldName) (fields : List (String × α)) (r : Checked β) : Checked β :=
  (both r (noneOf (extras names fields))).map Prod.fst

/-! ## Plain values -/

/-- Reads a string. -/
def string : Json → Checked String
  | .str s => .ok s
  | _ => fail .stringType

/-- The words for the truth values. -/
def boolWord? (s : String) : Option Bool :=
  let w := s.toLower
  if w ∈ ["0", "off", "f", "false", "n", "no"] then some false
  else if w ∈ ["1", "on", "t", "true", "y", "yes"] then some true
  else none

/-- The truth value that a whole number stands for. -/
def boolNumber (n : Int) : Checked Bool :=
  if n = 0 then .ok false else if n = 1 then .ok true else fail .boolParsing

/-- Reads a truth value, a word for one, or the number 0 or 1. -/
def bool : Json → Checked Bool
  | .bool b => .ok b
  | .int n => boolNumber n
  | .float x =>
    match x.toInt? with
    | some n => boolNumber n
    | none => fail .boolType
  | .str s =>
    match boolWord? s with
    | some b => .ok b
    | none => fail .boolParsing
  | _ => fail .boolType

/-- Reads one of the words of an enumeration. -/
def word (ofWord? : String → Option α) : Json → Checked α
  | .str s =>
    match ofWord? s with
    | some a => .ok a
    | none => fail .enum
  | _ => fail .enum

/-- Reads one fixed word. -/
def literal (w : String) : Json → Checked Unit
  | .str s => if s = w then .ok () else fail .literalError
  | _ => fail .literalError

/-- Reads an object. -/
def object (read : List (String × Json) → Checked α) : Json → Checked α
  | .obj fields => read fields
  | _ => fail .modelType

/-- Reads a list as a sequence. -/
def sequence (read : Json → Checked α) : Json → Checked (List α)
  | .arr items => itemsFrom read 0 items
  | _ => fail .tupleType

end Checked

end SourceOutline
