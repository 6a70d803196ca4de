import SourceOutline.Command.Display
import SourceOutline.Error.Failure
import SourceOutline.Text.Blank

/-!
# The console

Shows the screens. Markup is read when it is shown, and a tag that closes something which is not
open cannot be.

* `Display.tagsIn` finds the tags of a text with markup.
* `Console.pass` is what a tag does to those that are open, `Console.reads` tells whether a text can
  be read, and `Console.shows` whether something can be shown.
-/

namespace SourceOutline

namespace Display

/-- A tag in markup. -/
structure Tag where
  name : String
  /-- What is given with the name, after an equals sign. -/
  given : Option String := none
  deriving DecidableEq, Repr

/-- The tag with a text between its brackets. -/
def Tag.ofText (cs : List Char) : Tag where
  name := String.ofList (cs.takeWhile (· ≠ '='))
  given := if '=' ∈ cs then some (String.ofList ((cs.dropWhile (· ≠ '=')).drop 1)) else none

/-- The tag belongs to an action, not to a style. -/
def Tag.isAction (t : Tag) : Bool :=
  t.name.toList.head? = some '@'

/-- The tags of a text, those that are text left out. The first argument is the number of
backslashes that have been passed. -/
def tagsIn : Nat → List Char → List Tag
  | _, [] => []
  | n, c :: r =>
    if c = '\\' then tagsIn (n + 1) r
    else if isTag (c :: r) && n % 2 = 0 then Tag.ofText (r.takeWhile (· ≠ ']')) :: tagsIn 0 r
    else tagsIn 0 r

end Display

/-- The texts that are read as markup. -/
def Shown.markups : Shown → List String
  | .text markup => [markup]
  | .panel title body _ => [title, body]
  | .table title columns rows => title :: (columns.map Prod.fst ++ rows.flatten)

/-- What a console makes of tags. -/
structure Console where
  /-- The one name of a style that may be written in several ways. -/
  styleName : String → String
  /-- What is given with an action can be read. -/
  canRead : String → Bool

namespace Console

open Display

/-- Some text cannot be read as markup. -/
def badMarkup : Failure := .foreign "MarkupError"

/-- Reads a tag, with these tags open, the innermost one first. A name after a slash closes the
innermost tag of that name, and a slash alone the innermost one; what is given with an action is
read when it is closed. -/
def pass (c : Console) (opened : List Tag) (t : Tag) : Option (List Tag) :=
  match t.name.toList with
  | '/' :: rest =>
    let name := String.ofList (Text.trim rest)
    let closed (o : Tag) : Bool := name = "" || o.name = c.styleName name
    match opened.find? closed with
    | none => none
    | some o =>
      if o.isAction && o.given.any fun g => g ≠ "" && !c.canRead g then none
      else some (opened.eraseP closed)
  | _ => some ({ t with name := c.styleName t.name } :: opened)

/-- The text can be read as markup; tags may stay open. -/
def reads (c : Console) (markup : String) : Bool :=
  ((tagsIn 0 markup.toList).foldlM c.pass []).isSome

/-- It can be shown. -/
def shows (c : Console) (s : Shown) : Bool :=
  s.markups.all c.reads

/-- The short names of styles. -/
def shortNames : Table String String :=
  [("b", "bold"), ("d", "dim"), ("i", "italic"), ("u", "underline"), ("uu", "underline2"), ("r", "reverse"),
    ("c", "conceal"), ("s", "strike"), ("o", "overline")]

/-- A console that tells apart all styles but those with short names, and reads whatever is given with
an action. -/
def plain : Console where
  styleName s :=
    let name := String.ofList (Text.trim (s.toList.map Char.toLower))
    (shortNames.get? name).getD name
  canRead _ := true

end Console

end SourceOutline
