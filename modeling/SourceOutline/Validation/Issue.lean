import SourceOutline.Json.Basic

/-!
# Validation issues

What is wrong with a value that is read into a record, and where: a path of keys and positions.
`Checked` is the outcome of reading a value, with all its issues rather than the first one.
-/

namespace SourceOutline

/-- A step from a value into one of its parts. -/
inductive Step where
  | key (name : String)
  | index (n : Nat)
  deriving DecidableEq, Repr

/-- What can be wrong with a value. -/
inductive Complaint where
  /-- A required field is absent. -/
  | missing
  /-- A field that the record does not have. -/
  | extraForbidden
  /-- Not an object where a record is expected. -/
  | modelType
  /-- Not an object where one of several records is expected. -/
  | modelAttributesType
  /-- Not a string. -/
  | stringType
  /-- Not a truth value. -/
  | boolType
  /-- A string or number that is no truth value. -/
  | boolParsing
  /-- Not one of the listed words. -/
  | enum
  /-- Not the one word that is allowed, or none of them. -/
  | literalError
  /-- Not a list where a sequence is expected. -/
  | tupleType
  /-- Not a list where a set is expected. -/
  | frozenSetType
  /-- The field that tells the records apart is absent. -/
  | unionTagNotFound
  /-- The field that tells the records apart has another word. -/
  | unionTagInvalid
  /-- Not an integer. -/
  | intType
  /-- A string that is no integer. -/
  | intParsing
  /-- A number that is not whole. -/
  | intFromFloat
  /-- A number that is not finite. -/
  | finiteNumber
  /-- A number below its limit. -/
  | greaterThanEqual
  /-- Not a path. -/
  | pathType
  /-- Not an object where a mapping is expected. -/
  | dictType
  /-- The text is not JSON. -/
  | jsonInvalid
  /-- A record was to be changed. -/
  | frozenInstance
  /-- A rule over several fields is broken. -/
  | rule (text : String)
  deriving DecidableEq, Repr

/-- The short name of a complaint. -/
def Complaint.code : Complaint → String
  | .missing => "missing"
  | .extraForbidden => "extra_forbidden"
  | .modelType => "model_type"
  | .modelAttributesType => "model_attributes_type"
  | .stringType => "string_type"
  | .boolType => "bool_type"
  | .boolParsing => "bool_parsing"
  | .enum => "enum"
  | .literalError => "literal_error"
  | .tupleType => "tuple_type"
  | .frozenSetType => "frozen_set_type"
  | .unionTagNotFound => "union_tag_not_found"
  | .unionTagInvalid => "union_tag_invalid"
  | .intType => "int_type"
  | .intParsing => "int_parsing"
  | .intFromFloat => "int_from_float"
  | .finiteNumber => "finite_number"
  | .greaterThanEqual => "greater_than_equal"
  | .pathType => "path_type"
  | .dictType => "dict_type"
  | .jsonInvalid => "json_invalid"
  | .frozenInstance => "frozen_instance"
  | .rule _ => "value_error"

/-- One complaint and the part of the value that it is about. -/
structure Issue where
  path : List Step := []
  complaint : Complaint
  deriving DecidableEq, Repr

/-- The issue seen from one step further out. -/
def Issue.under (s : Step) (i : Issue) : Issue :=
  { i with path := s :: i.path }

/-- A value that was read, or all issues that were met. -/
abbrev Checked (α : Type) := Except (List Issue) α

namespace Checked

/-- One issue about the whole value. -/
def fail (c : Complaint) : Checked α :=
  .error [{ complaint := c }]

/-- The outcome for a part, seen from the whole. -/
def under (s : Step) : Checked α → Checked α
  | .ok a => .ok a
  | .error is => .error (is.map (Issue.under s))

/-- Two outcomes together, with the issues of both. -/
def both : Checked α → Checked β → Checked (α × β)
  | .ok a, .ok b => .ok (a, b)
  | .ok _, .error is => .error is
  | .error is, .ok _ => .error is
  | .error is, .error is' => .error (is ++ is')

/-- The outcomes for the items of a list, from position `n` on. -/
def itemsFrom (read : Json → Checked α) : Nat → List Json → Checked (List α)
  | _, [] => .ok []
  | n, v :: vs => (both ((read v).under (.index n)) (itemsFrom read (n + 1) vs)).map
      fun p => p.1 :: p.2

/-- Succeeds if there is no issue. -/
def noneOf (is : List Issue) : Checked Unit :=
  if is = [] then .ok () else .error is

@[simp] theorem both_ok (a : α) (b : β) : both (.ok a : Checked α) (.ok b) = .ok (a, b) := rfl

theorem both_eq_ok_iff {x : Checked α} {y : Checked β} {a : α} {b : β} :
    both x y = .ok (a, b) ↔ x = .ok a ∧ y = .ok b := by
  cases x <;> cases y <;> simp [both]

end Checked

end SourceOutline
