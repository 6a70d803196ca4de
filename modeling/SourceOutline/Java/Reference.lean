import SourceOutline.Text.Blank
import SourceOutline.Text.Word
import SourceOutline.Extract.Scope
import SourceOutline.Model.TypeDecl

/-!
# Type references in Java

How the text of a type becomes a stub.

* `typeText` cuts annotations, type arguments and blanks out of the text.
* `reference` qualifies the name that remains: primitives and type variables have no package, a
  declared name stands for its nested name, an imported one for what it imports, a dotted one is
  split, and a few names come from `java.lang`.
-/

namespace SourceOutline.Java

/-- The primitive types, and `void`. -/
def primitives : List String :=
  ["byte", "short", "int", "long", "float", "double", "boolean", "char", "void"]

/-- The types of `java.lang` that are known without an import. -/
def implicitNames : List String :=
  ["AutoCloseable", "Boolean", "Byte", "CharSequence", "Character", "Class", "Cloneable",
    "Comparable", "Deprecated", "Double", "Enum", "Error", "Exception", "Float",
    "FunctionalInterface", "IllegalArgumentException", "IllegalStateException", "Integer",
    "Iterable", "Long", "Math", "Number", "Object", "Override", "Record", "Runnable",
    "RuntimeException", "SafeVarargs", "Short", "String", "StringBuilder", "SuppressWarnings",
    "System", "Thread", "Throwable", "Void"]

/-- May stand in the name of an annotation. -/
def isAnnotationChar (c : Char) : Bool :=
  Text.isWord c || c = '.'

/-- Drops every `@` with the name after it and the blanks after that. -/
def dropAnnotations : List Char → List Char
  | [] => []
  | c :: r =>
    if c = '@' ∧ (r.head?.any isAnnotationChar) then
      dropAnnotations ((r.dropWhile isAnnotationChar).dropWhile Text.isBlank)
    else c :: dropAnnotations r
termination_by cs => cs.length
decreasing_by
  · have h₁ := (List.dropWhile_sublist Text.isBlank (l := r.dropWhile isAnnotationChar)).length_le
    have h₂ := (List.dropWhile_sublist isAnnotationChar (l := r)).length_le
    simp only [List.length_cons]
    omega
  · simp

/-- Drops what stands between angle brackets, with the brackets; `depth` of them are open. A
closing bracket too many is dropped as well. -/
def dropTypeArgumentsAt : Nat → List Char → List Char
  | _, [] => []
  | depth, c :: r =>
    if c = '<' then dropTypeArgumentsAt (depth + 1) r
    else if c = '>' then dropTypeArgumentsAt (depth - 1) r
    else if depth = 0 then c :: dropTypeArgumentsAt depth r
    else dropTypeArgumentsAt depth r

/-- Drops what stands between angle brackets, with the brackets. -/
def dropTypeArguments (cs : List Char) : List Char :=
  dropTypeArgumentsAt 0 cs

/-- The text of a type without annotations, type arguments and blanks. -/
def typeText (s : String) : String :=
  String.ofList (Text.squeeze (dropTypeArguments (dropAnnotations s.toList)))

/-- Counts the bracket pairs at the front of a reversed text. -/
def countDimensions : List Char → Nat × List Char
  | ']' :: '[' :: r => ((countDimensions r).1 + 1, (countDimensions r).2)
  | r => (0, r)

/-- The text before the bracket pairs at the end, and the pairs. -/
def splitDimensions (name : String) : String × String :=
  let p := countDimensions name.toList.reverse
  (String.ofList p.2.reverse, String.ofList (List.replicate p.1 ['[', ']']).flatten)

/-- The package and the name that a type name without brackets stands for. -/
def resolve (scope : Scope) (base : String) : String × String :=
  if base ∈ primitives ∨ base ∈ scope.typeVariables then ("", base)
  else
    match scope.declared.get? base with
    | some nested => (scope.package, nested)
    | none =>
      match scope.imports.get? base with
      | some qualified => Dotted.splitLast qualified
      | none =>
        match Dotted.splitFirst base with
        | some (head, rest) =>
          match scope.imports.get? head with
          | some qualified =>
            let p := Dotted.splitLast qualified
            (p.1, p.2 ++ "." ++ rest)
          | none => Dotted.splitLast base
        | none => if base ∈ implicitNames then ("java.lang", base) else (scope.package, base)

/-- The stub for a type named in a source; brackets stay with the name. -/
def reference (scope : Scope) (name : String) (kind : TypeKind := .classType) : TypeDecl :=
  let p := splitDimensions name
  let target := resolve scope p.1
  TypeDecl.stub target.1 (target.2 ++ p.2) kind

end SourceOutline.Java
