import SourceOutline.Syntax.Node
import SourceOutline.Table

/-!
# Declarations of a file

The type declarations of a file form a forest: each has a name, the node it was found at, and the
declarations nested in its body.

* `Declaration.nest` is the name of a nested declaration: the names on its path, joined by dots.
* `Declaration.registerAll` is the table of declared names: every nested name stands for itself,
  and a simple name for the first declaration that bears it.
-/

namespace SourceOutline

/-- A type declaration with those nested in it. -/
structure Declaration where
  node : Node
  name : String
  /-- The decorators that stand before it. -/
  decorators : List String := []
  nested : List Declaration := []

namespace Declaration

/-- The name of a declaration inside another one. -/
def nest (outer : Option String) (name : String) : String :=
  match outer with
  | none => name
  | some o => o ++ "." ++ name

mutual

/-- Enters a declaration and those nested in it into a table of names. -/
def register (outer : Option String) (t : Table String String) : Declaration → Table String String
  | ⟨_, name, _, nested⟩ =>
    let full := nest outer name
    registerAll (some full) ((t.setIfAbsent name full).set full full) nested

/-- Enters declarations one after another. -/
def registerAll (outer : Option String) (t : Table String String) : List Declaration → Table String String
  | [] => t
  | d :: ds => registerAll outer (register outer t d) ds

end

mutual

/-- The nested names of a declaration and of those inside it, outer ones first. -/
def names (outer : Option String) : Declaration → List String
  | ⟨_, name, _, nested⟩ => nest outer name :: namesAll (some (nest outer name)) nested

/-- The nested names of declarations, outer ones first. -/
def namesAll (outer : Option String) : List Declaration → List String
  | [] => []
  | d :: ds => names outer d ++ namesAll outer ds

end

end Declaration

end SourceOutline
