import SourceOutline.Table
import SourceOutline.Number.Binary64

/-!
# JSON values

JSON values with integers of any size, with binary64 numbers kept apart from them, and with object
fields in their order.
-/

namespace SourceOutline

/-- A JSON value. -/
inductive Json where
  | null
  | bool (b : Bool)
  | int (n : Int)
  | float (x : Binary64)
  | str (s : String)
  | arr (items : List Json)
  | obj (fields : List (String × Json))
  deriving Inhabited

namespace Json

/-- The value of a field of an object. -/
def get? : Json → String → Option Json
  | .obj fields, key => Table.get? fields key
  | _, _ => none

/-- The text of a string value. -/
def str? : Json → Option String
  | .str s => some s
  | _ => none

/-- The fields of an object. -/
def obj? : Json → Option (List (String × Json))
  | .obj fields => some fields
  | _ => none

/-- The items of an array. -/
def arr? : Json → Option (List Json)
  | .arr items => some items
  | _ => none

/-- A list of texts. -/
def strs (items : List String) : Json :=
  .arr (items.map .str)

/-- A value, or null in its place. -/
def ofOption (f : α → Json) : Option α → Json
  | some a => f a
  | none => .null

mutual

/-- Rewrites every object, inner ones first. -/
def mapObjects (f : List (String × Json) → Json) : Json → Json
  | .arr items => .arr (mapItems f items)
  | .obj fields => f (mapFields f fields)
  | v => v

/-- Rewrites every object inside items. -/
def mapItems (f : List (String × Json) → Json) : List Json → List Json
  | [] => []
  | v :: r => mapObjects f v :: mapItems f r

/-- Rewrites every object inside fields. -/
def mapFields (f : List (String × Json) → Json) : List (String × Json) → List (String × Json)
  | [] => []
  | (k, v) :: r => (k, mapObjects f v) :: mapFields f r

end

end Json

end SourceOutline
