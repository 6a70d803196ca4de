/-!
# Places in a YAML text

A place knows what follows it and its line and column. Lines end with a line feed, a carriage
return or both, a next-line character, or one of the two separators of Unicode.
-/

namespace SourceOutline.Yaml

/-- Ends a line. -/
def isBreak (c : Char) : Bool :=
  c = '\n' || c = '\r' || c = '\x85' || c = '\u2028' || c = '\u2029'

/-- The end of the text, a line or a word. -/
def isGap : Option Char → Bool
  | none => true
  | some c => c = ' ' || c = '\t' || isBreak c

/-- A character that a text may hold. -/
def isAllowed (c : Char) : Bool :=
  let n := c.toNat
  n = 0x09 || n = 0x0A || n = 0x0D || (0x20 ≤ n && n ≤ 0x7E) || n = 0x85
    || (0xA0 ≤ n && n ≤ 0xD7FF) || (0xE000 ≤ n && n ≤ 0xFFFD) || 0x10000 ≤ n

/-- A place in a text. -/
structure Spot where
  rest : List Char
  /-- The number of characters before it. -/
  index : Nat := 0
  line : Nat := 0
  column : Nat := 0

namespace Spot

/-- The character that is `n` further. -/
def peek (s : Spot) (n : Nat) : Option Char :=
  s.rest[n]?

/-- The place after the next character. A byte order mark takes no column. -/
def next (s : Spot) : Spot :=
  match s.rest with
  | [] => s
  | c :: r =>
    if isBreak c ∧ ¬ (c = '\r' ∧ r.head? = some '\n') then
      { rest := r, index := s.index + 1, line := s.line + 1, column := 0 }
    else
      { s with rest := r, index := s.index + 1
               column := if c = '\uFEFF' then s.column else s.column + 1 }

/-- The place after `n` characters. -/
def skip : Nat → Spot → Spot
  | 0, s => s
  | n + 1, s => skip n s.next

/-- The number of characters at the front that `p` holds for. -/
def run (s : Spot) (p : Char → Bool) : Nat :=
  (s.rest.takeWhile p).length

/-- Passes the characters that `p` holds for. -/
def skipWhile (s : Spot) (p : Char → Bool) : Spot :=
  s.skip (s.run p)

/-- The next `n` characters. -/
def take (s : Spot) (n : Nat) : List Char :=
  s.rest.take n

/-- A line break stands here. -/
def atBreak (s : Spot) : Bool :=
  s.rest.head?.any isBreak

/-- Passes a line break and tells what it stands for: a line feed, unless it is a separator. -/
def lineBreak (s : Spot) : List Char × Spot :=
  match s.rest with
  | '\r' :: '\n' :: _ => (['\n'], s.skip 2)
  | c :: _ =>
    if c = '\u2028' ∨ c = '\u2029' then ([c], s.next)
    else if isBreak c then (['\n'], s.next)
    else ([], s)
  | [] => ([], s)

/-- Three dashes or three dots stand here, with a gap after them. -/
def atMarker (s : Spot) : Bool :=
  (s.take 3 = ['-', '-', '-'] || s.take 3 = ['.', '.', '.']) && isGap (s.peek 3)

/-- Passes blanks up to a column. -/
def toColumn (column : Nat) (s : Spot) : Spot :=
  s.skip (min (column - s.column) (s.run (· = ' ')))

end Spot

end SourceOutline.Yaml
