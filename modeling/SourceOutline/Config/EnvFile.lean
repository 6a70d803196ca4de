import SourceOutline.Table
import SourceOutline.Text.Blank

/-!
# Environment files

Lines with a name, an equals sign and a value, which may be quoted, and comments. Inside a value,
a name in braces after a dollar sign stands for the value of that name.

* `EnvFile.read` gives the names with their values; a name without an equals sign has none. A line
  that is malformed is passed over.
-/

namespace SourceOutline.EnvFile

/-- A blank that does not end a line. -/
def isInlineBlank (c : Char) : Bool :=
  Text.isBlank c && c ≠ '\n' && c ≠ '\r'

/-- Ends a line. -/
def isLineEnd (c : Char) : Bool :=
  c = '\n' || c = '\r'

/-- The characters after `word` and at least one blank, or else all of them. -/
def dropWordAndBlanks (word : List Char) (cs : List Char) : List Char :=
  let r := cs.drop word.length
  if word.isPrefixOf cs ∧ r.head?.any isInlineBlank then r.dropWhile isInlineBlank else cs

/-- A name, quoted or not; nothing if there is none. -/
def readName? (cs : List Char) : Option (List Char × List Char) :=
  match cs with
  | '\'' :: r =>
    let name := r.takeWhile (· ≠ '\'')
    if name = [] ∨ r.length = name.length then none else some (name, r.drop (name.length + 1))
  | _ =>
    let name := cs.takeWhile fun c => !(c = '=' || c = '#' || Text.isBlank c)
    if name = [] then none else some (name, cs.drop name.length)

/-- The characters before a closing quote that has no backslash before it, and those after it. -/
def untilQuote? (quote : Char) : List Char → Option (List Char × List Char)
  | [] => none
  | '\\' :: c :: r =>
    if c = quote then (untilQuote? quote r).map fun p => ('\\' :: c :: p.1, p.2)
    else (untilQuote? quote (c :: r)).map fun p => ('\\' :: p.1, p.2)
  | c :: r => if c = quote then some ([], r) else (untilQuote? quote r).map fun p => (c :: p.1, p.2)

/-- What a letter after a backslash stands for in double quotes. -/
def escaped? (c : Char) : Option Char :=
  Prod.snd <$> [('\\', '\\'), ('\'', '\''), ('"', '"'), ('a', '\x07'), ('b', '\x08'),
    ('f', '\x0C'), ('n', '\n'), ('r', '\r'), ('t', '\t'), ('v', '\x0B')].find? (·.1 = c)

/-- A value with its escapes resolved. -/
def unescape (isEscaped : Char → Bool) : List Char → List Char
  | [] => []
  | [c] => [c]
  | '\\' :: c :: r =>
    match (escaped? c).filter fun _ => isEscaped c with
    | some d => d :: unescape isEscaped r
    | none => '\\' :: unescape isEscaped (c :: r)
  | c :: r => c :: unescape isEscaped r

/-- A value without quotes up to a comment. -/
def beforeComment : List Char → List Char
  | [] => []
  | c :: r =>
    if Text.isBlank c ∧ (r.dropWhile Text.isBlank).head? = some '#' then [] else c :: beforeComment r

/-- A value after the equals sign. -/
def readAssigned? (cs : List Char) : Option (List Char × List Char) :=
  match cs with
  | '\'' :: r => (untilQuote? '\'' r).map fun (v, r) => (unescape (· ∈ ['\\', '\'']) v, r)
  | '"' :: r => (untilQuote? '"' r).map fun (v, r) => (unescape (fun _ => true) v, r)
  | _ =>
    let line := cs.takeWhile fun c => !isLineEnd c
    some (Text.trimEnd (beforeComment line), cs.drop line.length)

/-- The rest of a line: a comment at most. -/
def lineRest? (cs : List Char) : Option (List Char) :=
  let r := cs.dropWhile isInlineBlank
  let r := if r.head? = some '#' then r.dropWhile fun c => !isLineEnd c else r
  match r with
  | [] => some []
  | '\r' :: '\n' :: r => some r
  | c :: r => if isLineEnd c then some r else none

/-- The characters after the current line. -/
def dropLine (cs : List Char) : List Char :=
  match cs.dropWhile fun c => !isLineEnd c with
  | '\r' :: '\n' :: r => r
  | _ :: r => r
  | [] => []

/-- A line of a file: a name with a value, a name alone, or nothing. -/
abbrev Line := Option (List Char × Option (List Char))

/-- Reads a line, and gives what follows it. -/
def readLine (cs : List Char) : Line × List Char :=
  let cs := dropWordAndBlanks ['e', 'x', 'p', 'o', 'r', 't'] cs
  let named := if cs.head? = some '#' then some (none, cs) else
    (readName? cs).map fun (name, r) => (some name, r)
  match named with
  | none => (none, dropLine cs)
  | some (name, r) =>
    let r := r.dropWhile isInlineBlank
    let assigned := if r.head? = some '=' then
        (readAssigned? (r.tail.dropWhile isInlineBlank)).map fun (v, r) => (some v, r)
      else some (none, r)
    match assigned with
    | none => (none, dropLine r)
    | some (value, r) =>
      match lineRest? r with
      | none => (none, dropLine r)
      | some r => (name.map (·, value), r)

/-- All lines with a name. -/
def readLines : Nat → List Char → List (List Char × Option (List Char))
  | 0, _ => []
  | fuel + 1, cs =>
    match cs.dropWhile Text.isBlank with
    | [] => []
    | c :: r =>
      let (line, rest) := readLine (c :: r)
      match line with
      | some l => l :: readLines fuel rest
      | none => readLines fuel rest

/-- A name in braces, its default if one is given, and what follows. -/
def readReference? (cs : List Char) : Option (List Char × List Char × List Char) :=
  let name := cs.takeWhile fun c => c ≠ '\x7d' && c ≠ ':'
  match cs.drop name.length with
  | '\x7d' :: r => some (name, [], r)
  | ':' :: '-' :: r =>
    let other := r.takeWhile (· ≠ '\x7d')
    if other.length = r.length then none else some (name, other, r.drop (other.length + 1))
  | _ => none

/-- A value with the names in it replaced by their values. -/
def substitute (valueOf : String → Option String) : Nat → List Char → List Char
  | 0, cs => cs
  | _ + 1, [] => []
  | fuel + 1, c :: r =>
    match if c = '$' ∧ r.head? = some '\x7b' then readReference? r.tail else none with
    | some (name, other, rest) =>
      let value := match valueOf (String.ofList name) with
        | some v => v.toList
        | none => other
      value ++ substitute valueOf fuel rest
    | none => c :: substitute valueOf fuel r

/-- The names of a file with their values, given the values from outside. -/
def read (env : Table String String) (text : String) : Table String (Option String) :=
  (readLines (text.length + 1) text.toList).foldl (fun t (name, value) =>
    let valueOf (n : String) : Option String :=
      match t.get? n with
      | some v => some (v.getD "")
      | none => env.get? n
    let value := value.map fun v => String.ofList (substitute valueOf (v.length + 1) v)
    t.set (String.ofList name) value) []

end SourceOutline.EnvFile
