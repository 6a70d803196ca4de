import SourceOutline.Syntax.Grammar

/-!
# Syntax trees of sources, in error or not

A source that does not fit its grammar is in error where the cheapest change is that makes it fit.
A change removes tokens before and after the place where the reading stalled, or puts in tokens
that are missing there.

* `Lexicon.pieces` cuts a source into tokens, each with what stands before it.
* `Change` is a change with its cost; `Grammar.changes` are those that are tried.
* `Grammar.parse` is the syntax tree of a source. If the source is in error, the root has one node
  of kind `ERROR`, where the error is.
-/

namespace SourceOutline.Syntax

/-- A token, with what stands before it. -/
structure Piece where
  gap : List Char
  text : List Char
  /-- The offset of the token. -/
  offset : Nat
  deriving Inhabited

/-- The length of the token at the front of a text, at least one character. -/
def Lexicon.tokenLength (lex : Lexicon) (cs : List Char) : Nat :=
  let signs := (lex.longSigns.filter fun s => s.toList.isPrefixOf cs).map String.length
  max 1 ((lex.scanners.findSome? fun scan => scan cs).getD (signs.foldl max 1))

/-- The tokens of a source. The first argument bounds their number. -/
def Lexicon.piecesFrom (lex : Lexicon) : Nat → Nat → List Char → List Piece
  | 0, _, _ => []
  | fuel + 1, offset, cs =>
    let g := lex.gap cs
    if g.rest.isEmpty then []
    else
      let n := lex.tokenLength g.rest
      let text := g.rest.take n
      let start := offset + g.bytes
      { gap := cs.take (cs.length - g.rest.length), text, offset := start }
        :: lex.piecesFrom fuel (start + utf8Length text) (g.rest.drop n)

/-- The tokens of a source. -/
def Lexicon.pieces (lex : Lexicon) (cs : List Char) : List Piece :=
  lex.piecesFrom (cs.length + 1) 0 cs

/-- Pieces as a source again; the last line ends. -/
def Piece.source (ps : List Piece) : List Char :=
  ps.flatMap (fun p => p.gap ++ p.text) ++ ['\n']

/-- A change of a source. -/
structure Change where
  cost : Nat
  /-- The place where it is made. -/
  offset : Nat
  /-- The changed source. -/
  source : List Char

/-- Every bracket that closes among the tokens is open among those before it. -/
def closesOwn (depth : Nat) : List Piece → Bool
  | [] => true
  | p :: ps =>
    match p.text with
    | ['('] | ['['] | ['\x7b'] => closesOwn (depth + 1) ps
    | [')'] | [']'] | ['\x7d'] => depth ≠ 0 && closesOwn (depth - 1) ps
    | _ => closesOwn depth ps

/-- Removes tokens around a place. The token that then comes next stands where the first of them
stood. -/
def removal? (kept removed rest : List Piece) : Option Change :=
  match removed with
  | [] => none
  | first :: more =>
    let span := first.text ++ Piece.source more
    let next := match rest with
      | [] => []
      | p :: ps => { p with gap := first.gap } :: ps
    some {
      cost := 500 + 100 * removed.length + (span.length - 1) + 30 * (span.count '\n' - 1)
      offset := first.offset
      source := Piece.source (kept ++ next) }

/-- Removes the last tokens before a place and the first ones after it. -/
def removalAround? (before after : List Piece) (back forth : Nat) : Option Change :=
  let kept := before.take (before.length - back)
  let gone := before.drop (before.length - back)
  if back ≤ before.length ∧ forth ≤ after.length ∧ closesOwn 0 gone then
    removal? kept (gone ++ after.take forth) (after.drop forth)
  else none

/-- Puts in missing tokens at a place. -/
def filling (before after : List Piece) (stop : Nat) (texts : List String) : Change where
  cost := 610 * texts.length
  offset := stop
  source :=
    Piece.source (before ++ texts.map (fun t => ⟨[' '], t.toList, stop⟩) ++ after)

/-- The fillers that may be missing in front of the tokens that follow. -/
def Lexicon.fillersFor (lex : Lexicon) (after : List Piece) : List String :=
  let lineEnds := match after with
    | [] => true
    | p :: _ => p.gap.contains '\n'
  (lex.fillers.filter fun f => f.endsLine || !lineEnds).map Filler.text

namespace Grammar

variable {R : Type} (G : Grammar R)

/-- The changes that are tried, cheap ones first. -/
def changes (cs : List Char) (st : Stall) : List Change :=
  let pieces := G.lexicon.pieces cs
  let before := pieces.filter fun p => p.offset < st.offset
  let after := pieces.filter fun p => st.offset ≤ p.offset
  let near := (List.range 4).flatMap fun forth => (List.range 4).filterMap fun back =>
    removalAround? before after back forth
  let far := (List.range 40).filterMap (fun n => removalAround? before after (n + 4) 0)
    ++ (List.range 6).filterMap fun n => removalAround? before after 0 (n + 4)
  let texts := G.lexicon.fillersFor after
  let twice := if after.isEmpty then texts.map fun t => [t, t] else []
  let fillings := (texts.map ([·]) ++ twice).map (filling before after st.stop)
  (near ++ far ++ fillings).mergeSort fun a b => a.cost ≤ b.cost

/-- The source fits. -/
def fits (cs : List Char) : Bool :=
  match G.read cs with
  | .ok _ => true
  | .error _ => false

/-- Where a source that stalls is in error: at the cheapest change that makes it fit, or else after
the last token that could be used. -/
def errorOffset (cs : List Char) (st : Stall) : Nat :=
  (((G.changes cs st).find? fun c => G.fits c.source).map Change.offset).getD st.stop

/-- The syntax tree of a source. -/
def parse (source : String) : Node :=
  let cs := source.toList
  let size := utf8Length cs
  let children :=
    match G.read cs with
    | .ok ns => ns
    | .error st => [{ kind := "ERROR", start := G.errorOffset cs st, stop := size }]
  { kind := G.rootKind, start := 0, stop := size, children }

end Grammar

end SourceOutline.Syntax
