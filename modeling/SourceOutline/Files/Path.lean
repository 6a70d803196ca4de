/-!
# Paths

Paths as texts, with `/` between their components.

* `Path.parts` are the components that count: empty ones and single dots are dropped, double dots
  are kept.
* `Path.normal` writes a path with these components only.
* `Path.name`, `Path.suffix` and `Path.parent` are the last component, its ending from the last
  dot on, and the path around it.
-/

namespace SourceOutline.Path

/-- The pieces between slashes. -/
def piecesChars : List Char → List (List Char)
  | [] => [[]]
  | c :: r =>
    if c = '/' then [] :: piecesChars r
    else
      match piecesChars r with
      | [] => [[c]]
      | p :: ps => (c :: p) :: ps

/-- The components of a path. -/
def parts (path : String) : List String :=
  ((piecesChars path.toList).map String.ofList).filter fun p => p ≠ "" ∧ p ≠ "."

/-- The slashes that a path begins with; exactly two differ from one, more do not. -/
def root (path : String) : String :=
  match path.toList with
  | '/' :: '/' :: '/' :: _ => "/"
  | '/' :: '/' :: _ => "//"
  | '/' :: _ => "/"
  | _ => ""

/-- The path of some components. -/
def ofParts (root : String) (parts : List String) : String :=
  if root = "" ∧ parts = [] then "." else root ++ "/".intercalate parts

/-- The path without components that do not count. -/
def normal (path : String) : String :=
  ofParts (root path) (parts path)

/-- The last component, or nothing. -/
def name (path : String) : String :=
  (parts path).getLast?.getD ""

/-- The ending of a component from its last dot on. A dot at either end of the component counts
for nothing. -/
def suffixChars : List Char → List Char
  | [] => []
  | _ :: r =>
    let reversed := r.reverse
    let tail := reversed.takeWhile (· ≠ '.')
    if tail = [] ∨ tail.length = reversed.length then [] else '.' :: tail.reverse

/-- The ending of the last component. -/
def suffix (path : String) : String :=
  String.ofList (suffixChars (name path).toList)

/-- The path around the last component. -/
def parent (path : String) : String :=
  ofParts (root path) (parts path).dropLast

end SourceOutline.Path
