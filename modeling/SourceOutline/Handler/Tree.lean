import SourceOutline.Handler.Contract
import SourceOutline.Java.Types
import SourceOutline.Python.Types

/-!
# Handlers on syntax trees

What a handler extracts from the syntax tree of a file: imports, types, or types with members.
A tree with a syntax error is refused as a whole, with the line of its first bad node.
-/

namespace SourceOutline

/-- What extracts the outline of a file, by the language of the file. -/
inductive Handler where
  | java
  /-- Classes of Python belong to the given module. -/
  | python (module : String)
  deriving DecidableEq, Repr

namespace Handler

/-- The name of the language. -/
def language : Handler → String
  | java => "java"
  | python _ => "python"

/-- The name under which the handler is reported. -/
def name : Handler → String
  | java => "JavaHandler"
  | python _ => "PythonHandler"

/-- The report on a source that is not valid in its language. -/
def malformed (language : String) (line : Option Nat) : Report :=
  .make .malformedSource s!"Invalid {language} source"
    [("language", .str language), ("line", .ofOption (fun n => .int (n : Nat)) line)]

/-- The line of the first bad node of a tree. -/
def badLine? (src : Source) (root : Node) : Option Nat :=
  root.firstBad?.map fun n => src.lineAt n.start

/-- Refuses a tree with syntax errors. -/
def check (h : Handler) (src : Source) (root : Node) : Run Unit :=
  if root.hasError then do
    let line := badLine? src root
    let shown := (line.map toString).getD "None"
    Run.report Log.treeChannel .warning s!"{h.language}: syntax error at line {shown}"
    Run.fail (.reported (malformed h.language line))
  else pure ()

/-- The imports in a tree without syntax errors. -/
def treeImports (h : Handler) (src : Source) (root : Node) : List Import :=
  match h with
  | java => Java.imports src root
  | python _ => (Python.fileBindings src root).map fun b => ⟨b.value⟩

/-- The types in a tree without syntax errors, with their members. -/
def treeDetails (h : Handler) (src : Source) (root : Node) : Run (List TypeDetails) :=
  match h with
  | java => Java.details src root
  | python module => Python.details src module root

/-- The imports of a file, in source order. -/
def importsIn (h : Handler) (src : Source) (root : Node) : Run (List Import) := do
  h.check src root
  let is := h.treeImports src root
  Run.report Log.treeChannel .debug s!"{h.language}: extracted {is.length} imports"
  return is

/-- The types of a file with their members, nested ones right after the one around them. -/
def detailsIn (h : Handler) (src : Source) (root : Node) : Run (List TypeDetails) := do
  h.check src root
  let ds ← h.treeDetails src root
  Run.report Log.treeChannel .debug s!"{h.language}: extracted {ds.length} types"
  return ds

/-- The types of a file. -/
def typesIn (h : Handler) (src : Source) (root : Node) : Run (List TypeDecl) := do
  let ds ← h.detailsIn src root
  return ds.map TypeDetails.type

/-- The answers of a handler, given what turns a source into a tree. -/
def answers (h : Handler) (parse : String → Node) : LanguageHandler where
  name := h.name
  imports? := some fun code =>
    (fun is => is.map Offer.made) <$> h.importsIn (.ofString code) (parse code)
  types? := some fun code =>
    (fun ts => ts.map Offer.made) <$> h.typesIn (.ofString code) (parse code)

/-- The outline of a file, given what turns a source into a tree. -/
def fileIn (h : Handler) (parse : String → Node) (code : String) : Run ParsedFile :=
  (h.answers parse).parseFile code

end Handler

end SourceOutline
