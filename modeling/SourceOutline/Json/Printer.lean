import SourceOutline.Json.Basic
import SourceOutline.Number.Shortest

/-!
# Writing JSON

* `Style` says what a writer may choose: line breaks with an indent or none, the separators, and
  whether characters beyond ASCII are escaped.
* `Json.render` writes a value in a style.
-/

namespace SourceOutline.Json

/-- The choices of a writer. -/
structure Style where
  /-- Spaces per depth; without it everything stands on one line. -/
  indent : Option Nat := none
  /-- What stands between items on one line. -/
  comma : String := ","
  /-- What stands between a key and its value. -/
  colon : String := ":"
  /-- Characters beyond ASCII are escaped by their UTF-16 units. -/
  asciiOnly : Bool := false

/-- Without line breaks and blanks. -/
def Style.compact : Style := {}

/-- On one line with blanks, ASCII only. -/
def Style.spaced : Style := { comma := ", ", colon := ": ", asciiOnly := true }

/-- One item per line; a text keeps its characters. -/
def Style.indented (n : Nat) : Style := { indent := some n, colon := ": " }

/-- Four lower-case hexadecimal digits. -/
def hex4 (n : Nat) : List Char :=
  [Nat.digitChar (n / 4096 % 16), Nat.digitChar (n / 256 % 16), Nat.digitChar (n / 16 % 16),
    Nat.digitChar (n % 16)]

/-- The escape of a UTF-16 unit. -/
def escapeUnit (n : Nat) : List Char :=
  '\\' :: 'u' :: hex4 n

/-- How a character stands inside a string. -/
def escapeChar (asciiOnly : Bool) (c : Char) : List Char :=
  if c = '"' then ['\\', '"']
  else if c = '\\' then ['\\', '\\']
  else if c = '\x08' then ['\\', 'b']
  else if c = '\x0c' then ['\\', 'f']
  else if c = '\n' then ['\\', 'n']
  else if c = '\r' then ['\\', 'r']
  else if c = '\t' then ['\\', 't']
  else if c.toNat < 0x20 then escapeUnit c.toNat
  else if asciiOnly && 0x7F ≤ c.toNat then
    if c.toNat < 0x10000 then escapeUnit c.toNat
    else
      let n := c.toNat - 0x10000
      escapeUnit (0xD800 + n / 0x400) ++ escapeUnit (0xDC00 + n % 0x400)
  else [c]

/-- A string in its quotes. -/
def quote (asciiOnly : Bool) (s : String) : List Char :=
  '"' :: (s.toList.flatMap (escapeChar asciiOnly) ++ ['"'])

/-- A line break and the indent of a depth, in styles that have line breaks. -/
def Style.break (st : Style) (depth : Nat) : List Char :=
  match st.indent with
  | none => []
  | some n => '\n' :: List.replicate (n * depth) ' '

/-- What stands between two items. -/
def Style.between (st : Style) (depth : Nat) : List Char :=
  match st.indent with
  | none => st.comma.toList
  | some _ => ',' :: st.break depth

/-- The text of a number that is not an integer. -/
def floatText (x : Binary64) : List Char :=
  match x.magnitude? with
  | some _ => (Shortest.text x).toList
  | none =>
    if x.unsigned = Binary64.infinityBits then
      (if x.isNegative then "-Infinity" else "Infinity").toList
    else "NaN".toList

mutual

/-- The text of a value at a depth. -/
def renderAt (st : Style) (depth : Nat) : Json → List Char
  | .null => "null".toList
  | .bool b => (if b then "true" else "false").toList
  | .int n => (toString n).toList
  | .float x => floatText x
  | .str s => quote st.asciiOnly s
  | .arr [] => ['[', ']']
  | .arr (v :: vs) =>
    '[' :: (st.break (depth + 1) ++ renderAt st (depth + 1) v ++ renderItems st (depth + 1) vs
      ++ st.break depth ++ [']'])
  | .obj [] => ['{', '}']
  | .obj ((k, v) :: fs) =>
    '{' :: (st.break (depth + 1) ++ quote st.asciiOnly k ++ st.colon.toList
      ++ renderAt st (depth + 1) v ++ renderFields st (depth + 1) fs ++ st.break depth ++ ['}'])

/-- The text of the items after the first. -/
def renderItems (st : Style) (depth : Nat) : List Json → List Char
  | [] => []
  | v :: vs => st.between depth ++ renderAt st depth v ++ renderItems st depth vs

/-- The text of the fields after the first. -/
def renderFields (st : Style) (depth : Nat) : List (String × Json) → List Char
  | [] => []
  | (k, v) :: fs =>
    st.between depth ++ quote st.asciiOnly k ++ st.colon.toList ++ renderAt st depth v
      ++ renderFields st depth fs

end

/-- The text of a value. -/
def render (st : Style) (v : Json) : String :=
  String.ofList (renderAt st 0 v)

end SourceOutline.Json
