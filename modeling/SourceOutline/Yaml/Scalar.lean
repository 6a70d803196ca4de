import SourceOutline.Yaml.Spot

/-!
# The texts of YAML scalars

Each scanner starts where a scalar stands, and gives its text and the place after it, or nothing
if it is malformed.

* `plain`: without quotes, over several lines if they stand deep enough.
* `singleQuoted`, `doubleQuoted`: lines are joined; the second kind has escapes.
* `block`: a literal or folded block.
-/

namespace SourceOutline.Yaml

/-! ## Line breaks inside -/

/-- Passes blank lines; `blank` are the characters that a blank line may hold. The text of their
breaks is added to `found`. Nothing if a document marker begins a line and `markers` are faults. -/
def blankLines (blank : Char → Bool) (found : List Char) : Nat → Spot → List Char × Spot
  | 0, s => (found, s)
  | fuel + 1, s =>
    if s.atMarker ∧ s.column = 0 then (found, s)
    else
      let s := s.skipWhile blank
      if s.atBreak then
        let (b, s) := s.lineBreak
        blankLines blank (found ++ b) fuel s
      else (found, s)

/-- What a line break and the blank lines after it stand for: a single break is a blank. -/
def fold (lineBreak breaks : List Char) : List Char :=
  if lineBreak ≠ ['\n'] then lineBreak ++ breaks
  else if breaks = [] then [' ']
  else breaks

/-! ## Plain scalars -/

/-- The number of characters of a plain scalar up to a gap or an indicator. -/
def plainRun (inFlow : Bool) : List Char → Nat
  | [] => 0
  | c :: r =>
    let endsKey := isGap r.head? || (inFlow && r.head?.any (· ∈ [',', '[', ']', '\x7b', '\x7d']))
    if isGap (some c) ∨ (c = ':' ∧ endsKey)
        ∨ (inFlow ∧ c ∈ [',', '?', '[', ']', '\x7b', '\x7d']) then 0
    else 1 + plainRun inFlow r

/-- The space after a run of a plain scalar, and whether a line ended in it. A document marker ends
the scalar. -/
def plainSpace (s : Spot) : List Char × Spot × Bool :=
  let blanks := s.take (s.run (· = ' '))
  let s := s.skip blanks.length
  if s.atBreak then
    let (b, s) := s.lineBreak
    if s.atMarker then ([], s, true)
    else
      let (breaks, s) := blankLines (· = ' ') [] (s.rest.length + 1) s
      if s.atMarker ∧ s.column = 0 then ([], s, true) else (fold b breaks, s, true)
  else (blanks, s, false)

/-- A plain scalar whose lines stand at column `indent` or deeper, and whether a line ended after
its last run. -/
def plainFrom (inFlow : Bool) (indent : Nat) (found space : List Char) (ended : Bool) :
    Nat → Spot → List Char × Spot × Bool
  | 0, s => (found, s, ended)
  | fuel + 1, s =>
    let n := if s.peek 0 = some '#' then 0 else plainRun inFlow s.rest
    if n = 0 then (found, s, ended)
    else
      let found := found ++ space ++ s.take n
      let (space, s, ended) := plainSpace (s.skip n)
      if space = [] ∨ s.peek 0 = some '#' ∨ (!inFlow ∧ s.column < indent) then (found, s, ended)
      else plainFrom inFlow indent found space ended fuel s

/-- A plain scalar. -/
def plain (inFlow : Bool) (indent : Nat) (s : Spot) : List Char × Spot × Bool :=
  plainFrom inFlow indent [] [] false (s.rest.length + 1) s

/-! ## Quoted scalars -/

/-- The space inside quotes. -/
def quotedSpace? (s : Spot) : Option (List Char × Spot) :=
  let isSpace (c : Char) : Bool := c = ' ' || c = '\t'
  let blanks := s.take (s.run isSpace)
  let s := s.skip blanks.length
  if s.atBreak then
    let (b, s) := s.lineBreak
    let (breaks, s) := blankLines isSpace [] (s.rest.length + 1) s
    if s.atMarker ∧ s.column = 0 then none else some (fold b breaks, s)
  else some (blanks, s)

/-- What a letter after a backslash stands for. -/
def escaped? (c : Char) : Option Char :=
  Prod.snd <$> [('0', '\x00'), ('a', '\x07'), ('b', '\x08'), ('t', '\t'), ('\t', '\t'),
    ('n', '\n'), ('v', '\x0B'), ('f', '\x0C'), ('r', '\r'), ('e', '\x1B'), (' ', ' '), ('"', '"'),
    ('\\', '\\'), ('/', '/'), ('N', '\x85'), ('_', '\xA0'), ('L', '\u2028'),
    ('P', '\u2029')].find? (·.1 = c)

/-- The number of digits after a letter that announces a code. -/
def codeDigits (c : Char) : Nat :=
  if c = 'x' then 2 else if c = 'u' then 4 else if c = 'U' then 8 else 0

/-- The value of a hexadecimal digit. -/
def hexDigit? (c : Char) : Option Nat :=
  if c.isDigit then some (c.toNat - '0'.toNat)
  else if 'a' ≤ c ∧ c ≤ 'f' then some (c.toNat - 'a'.toNat + 10)
  else if 'A' ≤ c ∧ c ≤ 'F' then some (c.toNat - 'A'.toNat + 10)
  else none

/-- The value of hexadecimal digits. -/
def hexValue? (ds : List Char) : Option Nat :=
  ds.foldlM (fun n d => (hexDigit? d).map (n * 16 + ·)) 0

/-- What stands after a backslash. -/
def escape? (s : Spot) : Option (List Char × Spot) := do
  let c ← s.peek 0
  if isBreak c then
    let (_, s) := s.lineBreak
    let (breaks, s) := blankLines (fun c => c = ' ' || c = '\t') [] (s.rest.length + 1) s
    if s.atMarker ∧ s.column = 0 then none else some (breaks, s)
  else
    match escaped? c with
    | some d => some ([d], s.next)
    | none =>
      let n := codeDigits c
      let ds := s.next.take n
      if n = 0 ∨ ds.length ≠ n then none
      else
        let value ← hexValue? ds
        if value.isValidChar then some ([Char.ofNat value], s.next.skip n) else none

/-- What stands before the closing quote. -/
def quotedFrom? (double : Bool) (found : List Char) : Nat → Spot → Option (List Char × Spot)
  | 0, _ => none
  | fuel + 1, s =>
    match s.rest with
    | [] => none
    | c :: r =>
      if isGap (some c) then do
        let (space, s) ← quotedSpace? s
        quotedFrom? double (found ++ space) fuel s
      else if !double ∧ c = '\'' ∧ r.head? = some '\'' then
        quotedFrom? double (found ++ [c]) fuel (s.skip 2)
      else if c = (if double then '"' else '\'') then some (found, s.next)
      else if double ∧ c = '\\' then do
        let (cs, s) ← escape? s.next
        quotedFrom? double (found ++ cs) fuel s
      else quotedFrom? double (found ++ [c]) fuel s.next

/-- A quoted scalar. -/
def quoted? (double : Bool) (s : Spot) : Option (List Char × Spot) :=
  quotedFrom? double [] (s.rest.length + 1) s.next

/-! ## Block scalars -/

/-- What happens to the line breaks at the end of a block: all but one are dropped, all are, or
none is. -/
inductive Chomping where
  | clip
  | strip
  | keep
  deriving DecidableEq

/-- The sign for a chomping. -/
def chomping? : Option Char → Option Chomping
  | some '+' => some .keep
  | some '-' => some .strip
  | _ => none

/-- The digit for an indent, if there is one; zero is malformed. -/
def increment? (s : Spot) : Option (Option Nat × Spot) :=
  match s.peek 0 with
  | some c =>
    if c = '0' then none
    else if c.isDigit then some (some (c.toNat - '0'.toNat), s.next)
    else some (none, s)
  | none => some (none, s)

/-- The signs after the one that begins a block, in either order. -/
def blockHeader? (s : Spot) : Option (Chomping × Option Nat × Spot) := do
  match chomping? (s.peek 0) with
  | some c =>
    let (n, s) ← increment? s.next
    return (c, n, s)
  | none =>
    let (n, s) ← increment? s
    match n, chomping? (s.peek 0) with
    | some _, some c => return (c, n, s.next)
    | _, _ => return (.clip, n, s)

/-- The rest of the first line: a comment at most. -/
def headerEnd? (s : Spot) : Option Spot :=
  if !isGap (s.peek 0) then none
  else
    let s := s.skipWhile (· = ' ')
    let s := if s.peek 0 = some '#' then s.skipWhile (!isBreak ·) else s
    if s.rest = [] ∨ s.atBreak then some s.lineBreak.2 else none

/-- The blank lines before a block whose indent is not given, and the indent that they suggest. -/
def blockIndent (found : List Char) (deepest : Nat) : Nat → Spot → List Char × Nat × Spot
  | 0, s => (found, deepest, s)
  | fuel + 1, s =>
    let s := s.skipWhile (· = ' ')
    let deepest := max deepest s.column
    if s.atBreak then
      let (b, s) := s.lineBreak
      blockIndent (found ++ b) deepest fuel s
    else (found, deepest, s)

/-- The blank lines before the next line of a block. -/
def blockBreaks (indent : Nat) (found : List Char) : Nat → Spot → List Char × Spot
  | 0, s => (found, s)
  | fuel + 1, s =>
    let s := s.toColumn indent
    if s.atBreak then
      let (b, s) := s.lineBreak
      blockBreaks indent (found ++ b) fuel s
    else (found, s)

/-- The lines of a block: its text, the break after its last line, and the blank lines there. -/
def blockLines (folded : Bool) (indent : Nat) (found lineBreak breaks : List Char) :
    Nat → Spot → List Char × List Char × List Char × Spot
  | 0, s => (found, lineBreak, breaks, s)
  | fuel + 1, s =>
    if s.column ≠ indent ∨ s.rest = [] then (found, lineBreak, breaks, s)
    else
      let isText (s : Spot) : Bool := !s.rest.head?.any fun c => c = ' ' || c = '\t'
      let text := s.take (s.run (!isBreak ·))
      let found := found ++ breaks ++ text
      let (b, s') := (s.skip text.length).lineBreak
      let (breaks, s') := blockBreaks indent [] (s'.rest.length + 1) s'
      if s'.column = indent ∧ s'.rest ≠ [] then
        let joined :=
          if folded ∧ b = ['\n'] ∧ isText s ∧ isText s' then
            if breaks = [] then [' '] else []
          else b
        blockLines folded indent (found ++ joined) b breaks fuel s'
      else (found, b, breaks, s')

/-- A block scalar inside a block that stands at column `parent`, if any. -/
def block? (folded : Bool) (parent : Option Nat) (s : Spot) : Option (List Char × Spot) := do
  let (chomping, increment, s) ← blockHeader? s.next
  let s ← headerEnd? s
  let least := max 1 ((parent.map (· + 1)).getD 0)
  let (breaks, indent, s) := match increment with
    | some n =>
      let indent := least + n - 1
      let (breaks, s) := blockBreaks indent [] (s.rest.length + 1) s
      (breaks, indent, s)
    | none =>
      let (breaks, deepest, s) := blockIndent [] 0 (s.rest.length + 1) s
      (breaks, max least deepest, s)
  let (text, lineBreak, breaks, s) := blockLines folded indent [] [] breaks (s.rest.length + 1) s
  let tail := match chomping with
    | .strip => []
    | .clip => lineBreak
    | .keep => lineBreak ++ breaks
  return (text ++ tail, s)

end SourceOutline.Yaml
