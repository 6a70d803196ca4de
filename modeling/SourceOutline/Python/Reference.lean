import SourceOutline.Extract.Scope
import SourceOutline.Model.TypeDecl
import SourceOutline.Text.Blank

/-!
# Type references in Python

How the text of an annotation or a base class becomes a stub.

* `dropSubscripts` and `splitSubscript` take arguments in brackets off a name.
* `reference` qualifies the name that remains: a declared name stands for its nested name, an
  imported one for what it is bound to, a dotted one is split, and a few names are built in. A
  union keeps its text.
-/

namespace SourceOutline.Python

/-- The types that are built into the language. -/
def builtins : List String :=
  ["None", "bool", "bytes", "bytearray", "complex", "dict", "float", "frozenset", "int", "list",
    "memoryview", "object", "set", "str", "tuple", "type"]

/-- The stub for a type that is not written. -/
def anyType : TypeDecl :=
  .stub "typing" "Any"

/-- Drops what stands between square brackets, with the brackets; `depth` of them are open. -/
def dropSubscriptsAt : Nat → List Char → List Char
  | _, [] => []
  | depth, c :: r =>
    if c = '[' then dropSubscriptsAt (depth + 1) r
    else if c = ']' then dropSubscriptsAt (depth - 1) r
    else if depth = 0 then c :: dropSubscriptsAt depth r
    else dropSubscriptsAt depth r

/-- The text without what stands between square brackets. -/
def dropSubscripts (s : String) : String :=
  String.ofList (dropSubscriptsAt 0 s.toList)

/-- The text before the first opening bracket and, if a closing one ends the text, what stands
between the two. -/
def splitSubscript (s : String) : String × Option String :=
  let cs := Text.trim s.toList
  if cs.getLast? = some ']' ∧ '[' ∈ cs then
    let head := cs.takeWhile (· ≠ '[')
    let rest := (cs.dropWhile (· ≠ '[')).drop 1
    (String.ofList (Text.trim head), some (String.ofList (Text.trim rest.dropLast)))
  else (String.ofList cs, none)

/-- A quotation mark. -/
def isQuote (c : Char) : Bool :=
  c = '\'' || c = '"'

/-- The text without quotation marks at either end. -/
def dropQuotes (cs : List Char) : List Char :=
  ((cs.dropWhile isQuote).reverse.dropWhile isQuote).reverse

/-- The name that an annotation or base class is looked up by. -/
def lookupName (text : String) : String :=
  String.ofList (dropQuotes (Text.squeeze (dropSubscripts text).toList))

/-- The module and the name that a name stands for. -/
def resolve (scope : Scope) (base : String) : String × String :=
  match scope.declared.get? base with
  | some nested => (scope.package, nested)
  | none =>
    match scope.imports.get? base with
    | some qualified => Dotted.splitLast qualified
    | none =>
      match Dotted.splitFirst base with
      | some (head, rest) =>
        match scope.imports.get? head with
        | some qualified => Dotted.splitLast (qualified ++ "." ++ rest)
        | none => Dotted.splitLast base
      | none => if base ∈ builtins then ("builtins", base) else (scope.package, base)

/-- The stub for an annotation or base class. -/
def reference (scope : Scope) (text : String) (kind : TypeKind := .classType) : TypeDecl :=
  let base := lookupName text
  if '|' ∈ base.toList then TypeDecl.stub "" base kind
  else
    let target := resolve scope base
    TypeDecl.stub target.1 target.2 kind

end SourceOutline.Python
