import SourceOutline.Model.Outline
import SourceOutline.Syntax.Node

/-!
# Imports and package of a Java file
-/

namespace SourceOutline.Java

/-- A plain or dotted name. -/
def isName (n : Node) : Bool :=
  n.kind == "scoped_identifier" || n.kind == "identifier"

/-- The value of an import declaration: the imported name, with a star if there is one. -/
def importValue? (src : Source) (n : Node) : Option String :=
  match (n.children.filter isName).getLast? with
  | none => none
  | some name =>
    let text := src.text name
    if text = "" then none
    else some (if n.children.any (·.kind == "asterisk") then text ++ ".*" else text)

/-- The imports of a file. -/
def imports (src : Source) (root : Node) : List Import :=
  (root.children.filter (·.kind == "import_declaration")).filterMap fun n =>
    (importValue? src n).map Import.mk

/-- The package of a file: the first name in a package declaration, or the default package. -/
def packageName (src : Source) (root : Node) : String :=
  let names := (root.children.filter (·.kind == "package_declaration")).flatMap fun n =>
    n.children.filter isName
  (names.head?.map src.text).getD ""

/-- The simple names that single imports bring in, with the names that they stand for. -/
def importTable (is : List Import) : Table String String :=
  Table.ofPairs ((is.filter fun i => !i.isWildcard).map fun i => (Dotted.last i.value, i.value))

end SourceOutline.Java
