import SourceOutline.Model.Outline

/-!
# What is shown on a terminal

Texts with markup, panels and tables, as data. In markup, a tag in square brackets says how the
text after it looks.

* `escape` writes a text so that nothing in it is taken for a tag, `plainText` reads markup.
* `Display.parsedFile`, `Display.typeDetails`, `Display.languages`, `Display.error` and
  `Display.success` are the screens of the program.
-/

namespace SourceOutline

/-- Something that is shown. -/
inductive Shown where
  /-- A text with markup; an empty one is a blank line. -/
  | text (markup : String)
  /-- A text in a frame. -/
  | panel (title body border : String)
  /-- Rows under column headers, each with its style. -/
  | table (title : String) (columns : List (String × String)) (rows : List (List String))
  deriving DecidableEq, Repr

namespace Display

/-! ## Markup -/

/-- May follow the bracket that opens a tag. -/
def startsTag (c : Char) : Bool :=
  ('a' ≤ c && c ≤ 'z') || c = '#' || c = '/' || c = '@'

/-- A tag stands at the front: a bracket, and a closing bracket before the next opening one. -/
def isTag : List Char → Bool
  | '[' :: c :: r =>
    startsTag c && ((r.dropWhile fun d => d ≠ '[' && d ≠ ']').head? = some ']')
  | _ => false

/-- Writes the backslashes in front of a tag twice, and one more. The first argument is the number
of backslashes that have been passed. -/
def escapeTags : Nat → List Char → List Char
  | n, [] => List.replicate n '\\'
  | n, c :: r =>
    if c = '\\' then escapeTags (n + 1) r
    else if isTag (c :: r) then List.replicate (2 * n + 1) '\\' ++ c :: escapeTags 0 r
    else List.replicate n '\\' ++ c :: escapeTags 0 r

/-- A text that ends in exactly one backslash gets another one. -/
def closeBackslash (cs : List Char) : List Char :=
  match cs.reverse with
  | '\\' :: '\\' :: _ => cs
  | '\\' :: _ => cs ++ ['\\']
  | _ => cs

/-- A text as markup. -/
def escape (s : String) : String :=
  String.ofList (closeBackslash (escapeTags 0 s.toList))

/-- Reads markup: tags are dropped, and backslashes before a tag stand for half of them; with one
left over, the tag is text. The first argument tells whether a tag is being passed, the second is
the number of backslashes that have been. -/
def readMarkup : Bool → Nat → List Char → List Char
  | _, n, [] => List.replicate n '\\'
  | true, _, c :: r => readMarkup (c ≠ ']') 0 r
  | false, n, c :: r =>
    if c = '\\' then readMarkup false (n + 1) r
    else if isTag (c :: r) then
      List.replicate (n / 2) '\\'
        ++ if n % 2 = 1 then c :: readMarkup false 0 r else readMarkup true 0 r
    else if c = '[' then List.replicate (n - 1) '\\' ++ c :: readMarkup false 0 r
    else List.replicate n '\\' ++ c :: readMarkup false 0 r

/-- The text that markup is for. -/
def plainText (markup : String) : String :=
  String.ofList (readMarkup false 0 markup.toList)

/-- A text with a style around it. -/
def styled (style text : String) : String :=
  s!"[{style}]{text}[/]"

/-! ## Messages -/

/-- A message in a frame after a blank line. -/
def message (color title body : String) : List Shown :=
  [.text "", .panel (styled "bold" (escape title)) (styled s!"bold {color}" (escape body)) color]

/-- The screen for an error. -/
def error (title body : String) : List Shown :=
  message "red" title body

/-- The screen for a success. -/
def success (title body : String) : List Shown :=
  message "green" title body

/-! ## Files and types -/

/-- The words for modifiers, in the order in which they are written. -/
def modifierWords (m : Modifiers) : List String :=
  (if m.visibility = .unstated then [] else [m.visibility.word])
    ++ (if m.isAbstract then ["abstract"] else [])
    ++ (if m.isStatic then ["static"] else [])
    ++ (if m.isFinal then ["final"] else [])

/-- Modifiers as a text. -/
def modifiers (m : Modifiers) : String :=
  " ".intercalate (modifierWords m)

/-- The qualified names of types. -/
def names (ts : List TypeDecl) : String :=
  ", ".intercalate (ts.map TypeDecl.qualifiedName)

/-- The columns for types. -/
def typeColumns : List (String × String) :=
  [("Type", "bold"), ("Kind", "cyan"), ("Modifiers", ""), ("Super classes", "dim"),
    ("Interfaces", "dim")]

/-- The row for a type. -/
def typeRow (t : TypeDecl) : List String :=
  [escape t.qualifiedName, t.kind.word, modifiers t.modifiers, escape (names t.superClasses),
    escape (names t.interfaces)]

/-- The lines for imports. -/
def importLines (is : List Import) : List Shown :=
  if is = [] then []
  else .text s!"\n[green]Imports ({is.length}):[/]" :: is.map fun i => .text ("  " ++ escape i.value)

/-- The table of types. -/
def typeTable (ts : List TypeDecl) : List Shown :=
  if ts = [] then [.text "\n[dim]No type declarations found.[/]"]
  else [.text "", .table s!"Types ({ts.length})" typeColumns (ts.map typeRow)]

/-- The screen for the outline of a file. -/
def parsedFile (path language : String) (f : ParsedFile) : List Shown :=
  let heading := styled "bold cyan" (escape path) ++ " " ++ styled "dim" ("(" ++ language ++ ")")
  [.text "", .text heading] ++ importLines f.imports ++ typeTable f.types

/-- The columns for members. -/
def memberColumns : List (String × String) :=
  [("Member", "bold"), ("Modifiers", ""), ("Type / Signature", "dim")]

/-- The row for a field. -/
def fieldRow (f : FieldDecl) : List String :=
  [escape f.name, modifiers f.modifiers, escape f.type.qualifiedName]

/-- The row for a method. -/
def methodRow (m : MethodDecl) : List String :=
  [escape (m.name ++ "()"), modifiers m.modifiers, escape m.signature]

/-- The table of the members of a type. -/
def memberTable (d : TypeDetails) : List Shown :=
  [.text "", .table s!"{d.type.qualifiedName} members" memberColumns
    (d.members.fields.map fieldRow ++ d.members.methods.map methodRow)]

/-- The screen for types with their members. -/
def typeDetails (ds : List TypeDetails) : List Shown :=
  ds.flatMap memberTable

/-- The screen for languages with their extensions. -/
def languages (rows : List (String × List String)) : List Shown :=
  [.table "Supported languages" [("Language", "bold cyan"), ("Extensions", "")]
    (rows.map fun (language, extensions) => [language, ", ".intercalate extensions])]

end Display

end SourceOutline
