import SourceOutline.Table
import SourceOutline.Yaml.Scalar

/-!
# YAML tokens

The tokens of a text, with the ends of blocks that are only shown by indents. A key is recognised
by the colon after it: where something begins that may be a key, the place is kept in mind
(`Candidate`), and when the colon comes on the same line, the sign for a key is put in front.

* `Token.ofText?` gives the tokens of a text, or nothing if it is malformed.
-/

namespace SourceOutline.Yaml

/-- The tokens. -/
inductive Token where
  /-- The version line, with the main number of the version. -/
  | version (main : Nat)
  /-- A line that names a handle for tags. -/
  | tagHandle (handle tag : String)
  /-- Another line for programs; it is passed over. -/
  | otherDirective
  | documentStart
  | documentEnd
  | blockSequenceStart
  | blockMappingStart
  | blockEnd
  | flowSequenceStart
  | flowSequenceEnd
  | flowMappingStart
  | flowMappingEnd
  | blockEntry
  | flowEntry
  | key
  | value
  | alias (name : String)
  | anchor (name : String)
  /-- A tag: its handle, unless it is written out, and the rest of it. -/
  | tag (handle : Option String) (rest : String)
  | scalar (isPlain : Bool) (text : String)
  deriving DecidableEq

/-- A place where a key may have begun. -/
structure Candidate where
  /-- It must turn out to be a key. -/
  required : Bool
  /-- The number of tokens before it. -/
  position : Nat
  index : Nat
  line : Nat
  column : Nat

/-- A text on the way to its tokens. -/
structure Lexing where
  spot : Spot
  /-- The tokens so far, last first. -/
  tokens : List Token := []
  /-- The number of open flow brackets. -/
  depth : Nat := 0
  /-- The columns of the open blocks, inner ones first. -/
  columns : List Nat := []
  /-- A key may begin here. -/
  keyAllowed : Bool := true
  /-- The candidates, by the number of brackets open around them. -/
  candidates : Table Nat Candidate := []

namespace Lexing

/-- Inside flow brackets. -/
def inFlow (l : Lexing) : Bool :=
  l.depth ≠ 0

/-- One more token. -/
def push (l : Lexing) (t : Token) : Lexing :=
  { l with tokens := t :: l.tokens }

/-- Puts tokens, last first, behind the first `n`. -/
def insertAt (l : Lexing) (n : Nat) (ts : List Token) : Lexing :=
  let after := l.tokens.length - n
  { l with tokens := l.tokens.take after ++ ts ++ l.tokens.drop after }

/-- Closes the blocks that stand deeper than a column. -/
def closeTo (column : Nat) : List Nat → List Token → List Nat × List Token
  | [], ts => ([], ts)
  | c :: cs, ts => if column < c then closeTo column cs (.blockEnd :: ts) else (c :: cs, ts)

/-- Closes the blocks that stand deeper than the next token. -/
def closeDeeper (l : Lexing) : Lexing :=
  if l.inFlow then l
  else
    let (columns, tokens) := closeTo l.spot.column l.columns l.tokens
    { l with columns, tokens }

/-- Closes all blocks. -/
def closeAll (l : Lexing) : Lexing :=
  if l.inFlow then l
  else { l with columns := [], tokens := l.columns.map (fun _ => .blockEnd) ++ l.tokens }

/-- A column stands deeper than the current block. -/
def isDeeper (l : Lexing) (column : Nat) : Bool :=
  match l.columns with
  | [] => true
  | c :: _ => c < column

/-- Opens a block at a column if it stands deeper than the current one. -/
def openAt (l : Lexing) (column : Nat) (t : Token) : Lexing :=
  if l.isDeeper column then { l with columns := column :: l.columns, tokens := t :: l.tokens }
  else l

/-- Forgets the candidate of the current brackets. It is a fault if it had to be a key. -/
def forget? (l : Lexing) : Option Lexing :=
  match l.candidates.get? l.depth with
  | some c => if c.required then none else some { l with candidates := l.candidates.erase l.depth }
  | none => some l

/-- Keeps this place in mind if a key may begin here. -/
def remember? (l : Lexing) : Option Lexing :=
  if l.keyAllowed then do
    let l ← l.forget?
    let c : Candidate :=
      { required := !l.inFlow && l.columns.head? = some l.spot.column
        position := l.tokens.length
        index := l.spot.index, line := l.spot.line, column := l.spot.column }
    return { l with candidates := l.candidates.set l.depth c }
  else some l

/-- Drops the candidates that are too far away to be keys. -/
def dropStale? (l : Lexing) : Option Lexing :=
  let isStale (c : Candidate) : Bool := c.line ≠ l.spot.line || 1024 < l.spot.index - c.index
  if l.candidates.any fun e => isStale e.2 && e.2.required then none
  else some { l with candidates := l.candidates.filter fun e => !isStale e.2 }

/-! ## What stands between tokens -/

/-- Passes blanks, comments and line ends. Outside of brackets a key may begin on a new line. -/
def skipGaps : Nat → Lexing → Lexing
  | 0, l => l
  | fuel + 1, l =>
    let s := l.spot.skipWhile (· = ' ')
    let s := if s.peek 0 = some '#' then s.skipWhile (!isBreak ·) else s
    if s.atBreak then
      skipGaps fuel { l with spot := s.lineBreak.2, keyAllowed := l.keyAllowed || !l.inFlow }
    else { l with spot := s }

/-! ## Tokens of one kind -/

/-- A marker of a document. -/
def marker? (l : Lexing) (t : Token) : Option Lexing := do
  let l ← l.closeAll.forget?
  return { l.push t with keyAllowed := false, spot := l.spot.skip 3 }

/-- An opening bracket. -/
def openBracket? (l : Lexing) (t : Token) : Option Lexing := do
  let l ← l.remember?
  return { l.push t with depth := l.depth + 1, keyAllowed := true, spot := l.spot.next }

/-- A closing bracket. -/
def closeBracket? (l : Lexing) (t : Token) : Option Lexing := do
  let l ← l.forget?
  return { l.push t with depth := l.depth - 1, keyAllowed := false, spot := l.spot.next }

/-- A comma. -/
def comma? (l : Lexing) : Option Lexing := do
  let l ← l.forget?
  return { l.push .flowEntry with keyAllowed := true, spot := l.spot.next }

/-- A dash before an item. -/
def dash? (l : Lexing) : Option Lexing :=
  if !l.inFlow ∧ !l.keyAllowed then none
  else do
    let l := if l.inFlow then l else l.openAt l.spot.column .blockSequenceStart
    let l ← l.forget?
    return { l.push .blockEntry with keyAllowed := true, spot := l.spot.next }

/-- A question mark before a key. -/
def question? (l : Lexing) : Option Lexing :=
  if !l.inFlow ∧ !l.keyAllowed then none
  else do
    let l := if l.inFlow then l else l.openAt l.spot.column .blockMappingStart
    let l ← l.forget?
    return { l.push .key with keyAllowed := !l.inFlow, spot := l.spot.next }

/-- A colon before a value. -/
def colon? (l : Lexing) : Option Lexing :=
  match l.candidates.get? l.depth with
  | some c =>
    let opens := !l.inFlow && l.isDeeper c.column
    let ts := if opens then [.key, .blockMappingStart] else [.key]
    let l := l.insertAt c.position ts
    some { l.push .value with
      columns := if opens then c.column :: l.columns else l.columns
      candidates := l.candidates.erase l.depth
      keyAllowed := false
      spot := l.spot.next }
  | none =>
    if !l.inFlow ∧ !l.keyAllowed then none
    else do
      let l := if l.inFlow then l else l.openAt l.spot.column .blockMappingStart
      let l ← l.forget?
      return { l.push .value with keyAllowed := !l.inFlow, spot := l.spot.next }

/-- May stand in the name of an anchor. -/
def isNameChar (c : Char) : Bool :=
  c.isAlphanum || c = '-' || c = '_'

/-- An anchor, or the use of one. -/
def anchored? (l : Lexing) (make : String → Token) : Option Lexing := do
  let l ← l.remember?
  let s := l.spot.next
  let n := s.run isNameChar
  let after := s.skip n
  let ends := isGap (after.peek 0)
    || (after.peek 0).any (· ∈ ['?', ':', ',', ']', '\x7d', '%', '@', '\x60'])
  if n = 0 ∨ !ends then none
  else return { l.push (make (String.ofList (s.take n))) with keyAllowed := false, spot := after }

/-- May stand in a tag. -/
def isTagChar (c : Char) : Bool :=
  c.isAlphanum || c ∈ ("-;/?:@&=+$,_.!~*'()[]%").toList

/-- The handle and the rest of a tag after its exclamation mark, and the place after it. -/
def tagParts? (s : Spot) : Option (Option String × String × Spot) :=
  match s.peek 0 with
  | some '<' =>
    let n := s.next.run isTagChar
    if n = 0 ∨ s.peek (n + 1) ≠ some '>' then none
    else some (none, String.ofList (s.next.take n), s.skip (n + 2))
  | c =>
    if isGap c then some (none, "!", s)
    else
      let n := s.run isNameChar
      let hasHandle := s.peek n = some '!'
      let handle := if hasHandle then "!" ++ String.ofList (s.take n) ++ "!" else "!"
      let s := if hasHandle then s.skip (n + 1) else s
      let m := s.run isTagChar
      if m = 0 then none else some (handle, String.ofList (s.take m), s.skip m)

/-- A tag. -/
def tag? (l : Lexing) : Option Lexing := do
  let l ← l.remember?
  let (handle, rest, s) ← tagParts? l.spot.next
  if isGap (s.peek 0) then
    return { l.push (.tag handle rest) with keyAllowed := false, spot := s }
  else none

/-- A block scalar. -/
def blockScalar? (l : Lexing) (folded : Bool) : Option Lexing := do
  let l ← l.forget?
  let (text, s) ← block? folded l.columns.head? l.spot
  return { l.push (.scalar false (String.ofList text)) with keyAllowed := true, spot := s }

/-- A quoted scalar. -/
def quotedScalar? (l : Lexing) (double : Bool) : Option Lexing := do
  let l ← l.remember?
  let (text, s) ← quoted? double l.spot
  return { l.push (.scalar false (String.ofList text)) with keyAllowed := false, spot := s }

/-- A plain scalar. -/
def plainScalar? (l : Lexing) : Option Lexing := do
  let l ← l.remember?
  let indent := (l.columns.head?.map (· + 1)).getD 0
  let (text, s, ended) := plain l.inFlow indent l.spot
  return { l.push (.scalar true (String.ofList text)) with keyAllowed := ended, spot := s }

/-! ## Lines for programs -/

/-- The words of a line for programs, without its percent sign. -/
def directiveWords (s : Spot) : List String :=
  let line := (s.take (s.run (!isBreak ·)))
  let words := (String.ofList line).splitOn " "
  (words.filter (· ≠ "")).takeWhile fun w => !w.startsWith "#"

/-- A version number: two numbers with a dot. -/
def versionMain? (w : String) : Option Nat :=
  match w.splitOn "." with
  | [a, b] => b.toNat? >>= fun _ => a.toNat?
  | _ => none

/-- A line for programs. -/
def directive? (l : Lexing) : Option Lexing := do
  let l ← l.closeAll.forget?
  let s := l.spot.next
  let t ← match directiveWords s with
    | ["YAML", v] => (versionMain? v).map Token.version
    | ["TAG", handle, uri] => some (.tagHandle handle uri)
    | "YAML" :: _ => none
    | "TAG" :: _ => none
    | [] => none
    | _ => some .otherDirective
  return { l.push t with keyAllowed := false, spot := s.skipWhile (!isBreak ·) }

/-! ## All tokens -/

/-- A plain scalar begins here. -/
def startsPlain (l : Lexing) (c : Char) : Bool :=
  let indicators := ("-?:,[]\x7b\x7d#&*!|>'\"%@\x60").toList
  !(isGap (some c) || c ∈ indicators)
    || (!isGap (l.spot.peek 1) && (c = '-' || (!l.inFlow && (c = '?' || c = ':'))))

/-- Takes the token that begins with a character. -/
def take? (l : Lexing) (c : Char) : Option Lexing :=
  let first := l.spot.column = 0
  let gapNext := isGap (l.spot.peek 1)
  if first ∧ c = '%' then l.directive?
  else if first ∧ c = '-' ∧ l.spot.atMarker then l.marker? .documentStart
  else if first ∧ c = '.' ∧ l.spot.atMarker then l.marker? .documentEnd
  else if c = '[' then l.openBracket? .flowSequenceStart
  else if c = '\x7b' then l.openBracket? .flowMappingStart
  else if c = ']' then l.closeBracket? .flowSequenceEnd
  else if c = '\x7d' then l.closeBracket? .flowMappingEnd
  else if c = ',' then l.comma?
  else if c = '-' ∧ gapNext then l.dash?
  else if c = '?' ∧ (l.inFlow ∨ gapNext) then l.question?
  else if c = ':' ∧ (l.inFlow ∨ gapNext) then l.colon?
  else if c = '*' then l.anchored? .alias
  else if c = '&' then l.anchored? .anchor
  else if c = '!' then l.tag?
  else if c = '|' ∧ !l.inFlow then l.blockScalar? false
  else if c = '>' ∧ !l.inFlow then l.blockScalar? true
  else if c = '\'' then l.quotedScalar? false
  else if c = '"' then l.quotedScalar? true
  else if l.startsPlain c then l.plainScalar?
  else none

/-- Takes all tokens. -/
def finish? : Nat → Lexing → Option (List Token)
  | 0, _ => none
  | fuel + 1, l => do
    let l := skipGaps (l.spot.rest.length + 1) l
    let l ← l.dropStale?
    let l := l.closeDeeper
    match l.spot.peek 0 with
    | none =>
      let l ← l.closeAll.forget?
      return l.tokens.reverse
    | some c => (← l.take? c).finish? fuel

end Lexing

/-- The tokens of a text. -/
def Token.ofText? (text : String) : Option (List Token) :=
  let cs := text.toList
  if cs.all isAllowed then
    let spot : Spot := { rest := cs }
    let spot := if cs.head? = some '\uFEFF' then spot.next else spot
    Lexing.finish? (2 * cs.length + 2) { spot }
  else none

end SourceOutline.Yaml
