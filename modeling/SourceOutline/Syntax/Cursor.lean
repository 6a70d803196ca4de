import SourceOutline.Syntax.Node

/-!
# Cursors

Where a parser stands in a source, and how it takes tokens from it.

* `Lexicon` is what a language says about its tokens: what may stand between them and which signs
  there are.
* `Cursor.skip` passes over what stands before the next token; `Cursor.take` takes characters.
* `Stall` is the farthest place where a token was wanted and not found.
-/

namespace SourceOutline.Syntax

/-- What stands between two tokens. -/
structure Gap where
  /-- The comments, with their kinds, offsets and lengths in bytes. -/
  comments : List (String × Nat × Nat) := []
  /-- The characters after it. -/
  rest : List Char
  /-- Its length in bytes. -/
  bytes : Nat := 0
  /-- A line ends in it, or the source does. -/
  broken : Bool := false
  /-- The width of the blanks before the next token on its line. -/
  indent : Nat := 0

/-- A token that may be put in where it is missing. -/
structure Filler where
  text : String
  /-- It may also be missing at the end of a line. -/
  endsLine : Bool
  deriving DecidableEq, Repr

/-- What a language says about its tokens. -/
structure Lexicon where
  /-- What stands before the next token. -/
  gap : List Char → Gap
  /-- The lengths of words, numbers and strings at the front of a text. -/
  scanners : List (List Char → Option Nat)
  /-- The signs that are longer than others which they begin with. -/
  longSigns : List String
  /-- May stand inside a word. -/
  isWordChar : Char → Bool
  /-- The tokens that end something, and may be missing. -/
  fillers : List Filler

/-- A place in a source. -/
structure Cursor where
  rest : List Char
  /-- The offset of the place. -/
  offset : Nat := 0
  /-- The offset after the last token. -/
  stop : Nat := 0
  /-- The next token must stand on this line, unless brackets are open. -/
  sameLine : Bool := false
  /-- The number of open brackets. -/
  depth : Nat := 0
  /-- The indents of the blocks around, inner ones first. -/
  indents : List Nat := [0]

/-- The length of characters in bytes. -/
def utf8Length (cs : List Char) : Nat :=
  cs.foldl (fun n c => n + c.utf8Size) 0

/-- The farthest token that could not be used. -/
structure Stall where
  /-- Its offset. -/
  offset : Nat := 0
  /-- The offset after the token before it. -/
  stop : Nat := 0
  deriving Inhabited

namespace Cursor

/-- The place before the next token, and the comments on the way. -/
def skip (lex : Lexicon) (c : Cursor) : List Node × Cursor × Gap :=
  let g := lex.gap c.rest
  let comments := g.comments.map fun (kind, start, size) =>
    ({ kind, start := c.offset + start, stop := c.offset + start + size } : Node)
  (comments, { c with rest := g.rest, offset := c.offset + g.bytes }, g)

/-- The next token would stand on another line than it must. -/
def isBlocked (c : Cursor) (g : Gap) : Bool :=
  c.sameLine && c.depth == 0 && g.broken

/-- Takes a number of characters as a token. -/
def take (c : Cursor) (n : Nat) : Cursor :=
  let offset := c.offset + utf8Length (c.rest.take n)
  { c with rest := c.rest.drop n, offset, stop := offset, sameLine := false }

/-- The failure to use the token at a place. -/
def stall (c : Cursor) : Stall :=
  ⟨c.offset, c.stop⟩

end Cursor

/-- The farther of two stalls; of two at the same place, the first. -/
def Stall.max (a b : Stall) : Stall :=
  if a.offset < b.offset then b else a

end SourceOutline.Syntax
