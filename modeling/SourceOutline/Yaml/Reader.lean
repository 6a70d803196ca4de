import SourceOutline.Yaml.Node
import SourceOutline.Yaml.Plain

/-!
# Reading YAML

The value of a YAML text. Of two entries with one key the later one counts, in the place of the
earlier; mappings that are merged in come before the entries of the mapping itself.

* `Yaml.parse?` reads a text. A text may be malformed, or it may hold a number or a time that there
  is not.
-/

namespace SourceOutline.Yaml

/-- Why a text has no value. -/
inductive Fault where
  /-- It is no YAML. -/
  | malformed
  /-- It holds a number or a time that there is not. -/
  | badValue
  deriving DecidableEq

/-- The tag of one of the standard kinds. -/
def standardTag (kind : String) : String :=
  "tag:yaml.org,2002:" ++ kind

/-- A scalar of a meaning. -/
def scalarOf (m : Meaning) (text : String) : Except Fault Scalar :=
  match m with
  | .text => .ok (.text text)
  | .null => .ok .null
  | .bool =>
    match Plain.boolWords.find? (·.1 = text) with
    | some (_, b) => .ok (.bool b)
    | none => .error .badValue
  | .int =>
    match Plain.intValue? text with
    | some n => .ok (.int n)
    | none => .error .badValue
  | .float => .ok (.float (Plain.floatValue text))
  | .time =>
    match Plain.time? text.toList with
    | some t => if Plain.isTime t then .ok (.time text) else .error .badValue
    | none => .error .badValue
  | .merge => .error .malformed
  | .self => .error .malformed

/-- The meaning of a scalar with a tag, if it is a standard one. -/
def taggedMeaning? (tag : String) : Option Meaning :=
  Prod.snd <$> [(standardTag "str", Meaning.text), (standardTag "null", .null),
    (standardTag "bool", .bool), (standardTag "int", .int), (standardTag "float", .float),
    (standardTag "timestamp", .time)].find? (·.1 = tag)

/-- The meaning of a scalar. -/
def meaningOf (tag : Option String) (isPlain : Bool) (text : String) : Except Fault Meaning :=
  match tag with
  | none => .ok (if isPlain then Plain.meaning text else .text)
  | some "!" => .ok (Plain.meaning text)
  | some t =>
    match taggedMeaning? t with
    | some m => .ok m
    | none => .error .malformed

/-- A node with this tag is one of a standard kind. -/
def isKind (kind : String) (tag : Option String) : Bool :=
  match tag with
  | none => true
  | some t => t = "!" || t = standardTag kind

/-- The value of a key. Lists and mappings are no keys. -/
def keyOf : YamlNode → Except Fault Scalar
  | .scalar tag isPlain text => do
    match ← meaningOf tag isPlain text with
    | .self => return .text text
    | m => scalarOf m text
  | _ => .error .malformed

/-- The key merges another mapping in. -/
def isMergeKey : YamlNode → Bool
  | .scalar tag isPlain text =>
    match meaningOf tag isPlain text with
    | .ok .merge => true
    | _ => false
  | _ => false

/-- The entries of mappings that are merged in, when the values are known. -/
def mergedEntries (v : ConfigValue) : Except Fault (List (Scalar × ConfigValue)) :=
  match v with
  | .mapping es => .ok es
  | .list vs =>
    vs.reverse.foldlM (fun es v =>
      match v with
      | .mapping more => .ok (es ++ more)
      | _ => .error .malformed) []
  | .scalar _ => .error .malformed

mutual

/-- The value of a node. -/
def valueOf : YamlNode → Except Fault ConfigValue
  | .scalar tag isPlain text => do
    return .scalar (← scalarOf (← meaningOf tag isPlain text) text)
  | .sequence tag items =>
    if isKind "seq" tag then ConfigValue.list <$> valuesOf items else .error .malformed
  | .mapping tag entries =>
    if isKind "map" tag then do
      let (merged, own) ← entriesOf entries
      return .mapping (Table.ofPairs (merged ++ own))
    else .error .malformed

/-- The values of nodes. -/
def valuesOf : List YamlNode → Except Fault (List ConfigValue)
  | [] => .ok []
  | n :: ns => do return (← valueOf n) :: (← valuesOf ns)

/-- The entries that are merged in, and those of the mapping itself. -/
def entriesOf : List (YamlNode × YamlNode) →
    Except Fault (List (Scalar × ConfigValue) × List (Scalar × ConfigValue))
  | [] => .ok ([], [])
  | (k, n) :: es => do
    let v ← valueOf n
    if isMergeKey k then
      let more ← mergedEntries v
      let (merged, own) ← entriesOf es
      return (more ++ merged, own)
    else
      let key ← keyOf k
      let (merged, own) ← entriesOf es
      return (merged, (key, v) :: own)

end

/-- The value of a YAML text. -/
def parse? (text : String) : Except Fault ConfigValue :=
  match Token.ofText? text >>= YamlNode.ofTokens? with
  | some n => valueOf n
  | none => .error .malformed

end SourceOutline.Yaml
