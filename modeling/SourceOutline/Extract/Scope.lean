import SourceOutline.Table

/-!
# Scopes

What a name in a file may refer to: imported names, names declared in the file, and the type
variables of the declarations around.
-/

namespace SourceOutline

/-- How the names in a file are looked up. -/
structure Scope where
  /-- The package or module of the file. -/
  package : String := ""
  /-- Imported names with what they stand for. -/
  imports : Table String String := []
  /-- Simple and nested names of declared types, with their nested names. -/
  declared : Table String String := []
  /-- Type variables that may be used. -/
  typeVariables : List String := []

/-- The scope with more type variables. -/
def Scope.withVariables (s : Scope) (names : List String) : Scope :=
  { s with typeVariables := s.typeVariables ++ names }

end SourceOutline
