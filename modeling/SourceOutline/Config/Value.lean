import SourceOutline.Json.Basic
import SourceOutline.Number.Shortest

/-!
# Configuration values

What a configuration is made of: scalars, lists, and mappings whose keys are scalars. `deepMerge`
layers one mapping over another, and `lookUp?` follows a path of keys through nested mappings.
-/

namespace SourceOutline

/-- A single value. -/
inductive Scalar where
  | null
  | bool (b : Bool)
  | int (n : Int)
  | float (x : Binary64)
  | text (s : String)
  /-- A day or a point in time, as it was written. -/
  | time (s : String)
  deriving DecidableEq, Inhabited

/-- A value of a configuration. -/
inductive ConfigValue where
  | scalar (s : Scalar)
  | list (items : List ConfigValue)
  | mapping (entries : List (Scalar × ConfigValue))
  deriving Inhabited

/-- A mapping of a configuration. -/
abbrev ConfigMap := Table Scalar ConfigValue

/-- A scalar as the key of a JSON object. -/
def Scalar.keyText : Scalar → String
  | .null => "null"
  | .bool b => if b then "true" else "false"
  | .int n => toString n
  | .float x => Shortest.text x
  | .text s => s
  | .time s => s

/-- A scalar as JSON. -/
def Scalar.toJson : Scalar → Json
  | .null => .null
  | .bool b => .bool b
  | .int n => .int n
  | .float x => .float x
  | .text s => .str s
  | .time s => .str s

namespace ConfigValue

/-- A text. -/
def text (s : String) : ConfigValue := .scalar (.text s)

/-- No value. -/
def null : ConfigValue := .scalar .null

/-- The value is null. -/
def isNull : ConfigValue → Bool
  | .scalar .null => true
  | _ => false

/-- The entries of a mapping. -/
def mapping? : ConfigValue → Option ConfigMap
  | .mapping entries => some entries
  | _ => none

/-- The word for what a value is. -/
def typeWord : ConfigValue → String
  | .scalar .null => "NoneType"
  | .scalar (.bool _) => "bool"
  | .scalar (.int _) => "int"
  | .scalar (.float _) => "float"
  | .scalar (.text _) => "str"
  | .scalar (.time s) => if s.length ≤ 10 then "date" else "datetime"
  | .list _ => "list"
  | .mapping _ => "dict"

mutual

/-- A value as JSON. -/
def toJson : ConfigValue → Json
  | .scalar s => s.toJson
  | .list items => .arr (itemsToJson items)
  | .mapping entries => .obj (entriesToJson entries)

/-- Items as JSON. -/
def itemsToJson : List ConfigValue → List Json
  | [] => []
  | v :: vs => v.toJson :: itemsToJson vs

/-- Entries as JSON. -/
def entriesToJson : List (Scalar × ConfigValue) → List (String × Json)
  | [] => []
  | (k, v) :: es => (k.keyText, v.toJson) :: entriesToJson es

end

mutual

/-- A JSON value as a value of a configuration. -/
def ofJson : Json → ConfigValue
  | .null => .scalar .null
  | .bool b => .scalar (.bool b)
  | .int n => .scalar (.int n)
  | .float x => .scalar (.float x)
  | .str s => .scalar (.text s)
  | .arr items => .list (ofItems items)
  | .obj fields => .mapping (ofFields fields)

/-- JSON items as values. -/
def ofItems : List Json → List ConfigValue
  | [] => []
  | v :: vs => ofJson v :: ofItems vs

/-- JSON fields as entries. -/
def ofFields : List (String × Json) → List (Scalar × ConfigValue)
  | [] => []
  | (k, v) :: fs => (.text k, ofJson v) :: ofFields fs

end

mutual

/-- One value over another: two mappings are layered, or else the upper value stands. -/
def layer (upper : ConfigValue) (base : Option ConfigValue) : ConfigValue :=
  match upper with
  | .mapping entries =>
    match base with
    | some (.mapping b) => .mapping (deepMerge b entries)
    | _ => .mapping entries
  | v => v

/-- One mapping over another, key by key. -/
def deepMerge (base : ConfigMap) (entries : List (Scalar × ConfigValue)) : ConfigMap :=
  match entries with
  | [] => base
  | (k, v) :: es => deepMerge (base.set k (layer v (base.get? k))) es

end

/-- The value at a path of keys, if there is a mapping at every step. -/
def lookUp? : ConfigValue → List String → Option ConfigValue
  | v, [] => some v
  | .mapping entries, k :: ks =>
    match Table.get? entries (.text k) with
    | some v => v.lookUp? ks
    | none => none
  | _, _ :: _ => none

end ConfigValue

end SourceOutline
