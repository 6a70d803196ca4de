import SourceOutline.Json.Basic
import SourceOutline.Number.Shortest
import SourceOutline.Text.Quoted

/-!
# Error reports

Errors that are meant for people: a message and details, in the order in which the details came.

* `Report.make` adds the context of an error to its details: the values that are not null, each in
  the place of its key if the details have it already.
* `Report.text` is the line that shows both.
-/

namespace SourceOutline

/-- What an error report is about. -/
inductive Subject where
  /-- Anything. -/
  | general
  /-- A source text that is not valid in its language. -/
  | malformedSource
  /-- A language or file extension without a handler. -/
  | unsupportedLanguage
  /-- Two types of one qualified name. -/
  | duplicateType
  /-- A configuration file or section. -/
  | configuration
  deriving DecidableEq, Repr

/-- An error with a message and details. -/
structure Report where
  subject : Subject
  message : String
  details : Table String Json := []
  /-- The context that was given, null values too. -/
  context : Table String Json := []

/-! ## Values as text -/

mutual

/-- The text of a value inside a message. -/
def Json.display : Json → String
  | .null => "None"
  | .bool b => if b then "True" else "False"
  | .int n => toString n
  | .float x => Shortest.text x
  | .str s => Text.quoted s
  | .arr items => "[" ++ ", ".intercalate (Json.displayItems items) ++ "]"
  | .obj fields => "\x7b" ++ ", ".intercalate (Json.displayFields fields) ++ "\x7d"

/-- The texts of items. -/
def Json.displayItems : List Json → List String
  | [] => []
  | v :: vs => v.display :: Json.displayItems vs

/-- The texts of fields, each key before its value. -/
def Json.displayFields : List (String × Json) → List String
  | [] => []
  | (k, v) :: fs => (Text.quoted k ++ ": " ++ v.display) :: Json.displayFields fs

end

namespace Report

/-- Details with the context added to them. -/
def withContext (details context : Table String Json) : Table String Json :=
  context.foldl (fun t e =>
    match e.2 with
    | .null => t
    | v => t.set e.1 v) details

/-- The keys of the context that a subject takes. -/
def contextKeys : Subject → List String
  | .general => []
  | .malformedSource => ["language", "line"]
  | .unsupportedLanguage => ["language", "extension"]
  | .duplicateType => ["qualified_name"]
  | .configuration => ["config_key"]

/-- An error about a subject, its context added to the details. -/
def make (subject : Subject) (message : String) (context : Table String Json := [])
    (details : Table String Json := []) : Report :=
  ⟨subject, message, withContext details context, context⟩

/-- The message, and the details if there are any. -/
def text (r : Report) : String :=
  if r.details = [] then r.message else r.message ++ " - Details: " ++ (Json.obj r.details).display

end Report

end SourceOutline
