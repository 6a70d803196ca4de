import SourceOutline.Syntax.Cursor

/-!
# Grammars

A grammar is a value: rules with names of some type `R`, each a parsing expression over tokens.
Choices are ordered, and repetition takes as much as it can.

* `Gram` are the parsing expressions: tokens, sequences, choices and repetitions, nodes and fields
  of the tree, left recursion as growth of a node, and the layout of blocks by indents.
* `Grammar.read` reads a source, or tells how far it fits.
-/

namespace SourceOutline.Syntax

/-- How a node that is already there may grow. -/
structure Form (γ : Type) where
  /-- The kind of the grown node. -/
  kind : String
  /-- The field name under which the first node stands in it. -/
  base : Option String := none
  /-- The kinds that may grow this way; none are listed if all may. -/
  baseKinds : List String := []
  /-- The kinds that may not. -/
  barredKinds : List String := []
  /-- What follows the first node. -/
  body : γ

/-- Parsing expressions over rules named by `R`. -/
inductive Gram (R : Type) where
  /-- A fixed word. -/
  | word (w : String)
  /-- A fixed sign, unless a longer sign stands there. -/
  | sign (s : String)
  /-- A leaf: the characters that `scan` counts off after a gap. -/
  | lexeme (kind : String) (scan : List Char → Option Nat)
  /-- A leaf that follows at once, without a gap. -/
  | piece (kind : String) (scan : List Char → Option Nat)
  /-- The expression of a rule. -/
  | rule (r : R)
  /-- One after another. -/
  | all (gs : List (Gram R))
  /-- The first that fits. -/
  | first (gs : List (Gram R))
  /-- Once or not at all. -/
  | maybe (g : Gram R)
  /-- As often as it fits. -/
  | many (g : Gram R)
  /-- Items of a list or statements of a block, as long as the block lasts. -/
  | items (g : Gram R)
  /-- Fits here, but is not taken. -/
  | ahead (g : Gram R)
  /-- Does not fit here. -/
  | absent (g : Gram R)
  /-- A node around what is parsed. -/
  | node (kind : String) (g : Gram R)
  /-- What is parsed stands under a field name. -/
  | field (name : String) (g : Gram R)
  /-- The one node that is parsed, under another kind. -/
  | renamed (kind : String) (g : Gram R)
  /-- A single node of one of these kinds. -/
  | ofKind (kinds : List String) (g : Gram R)
  /-- Grows what is parsed by one form, or by as many as fit. -/
  | grow (repeated : Bool) (g : Gram R) (forms : List (Form (Gram R)))
  /-- The first token must stand on the current line. -/
  | sameLine (g : Gram R)
  /-- Inside brackets, where line ends do not count. -/
  | nested (g : Gram R)
  /-- The end of a line or of the source. -/
  | lineEnd
  /-- A new block begins: the next line stands deeper. -/
  | indent
  /-- The block ends: the next line does not stand as deep. -/
  | dedent
  /-- A clause that belongs to the current block. -/
  | aligned (g : Gram R)

namespace Gram

variable {R : Type}

/-- What is parsed in round brackets. -/
def round (g : Gram R) : Gram R :=
  all [sign "(", nested (all [g, sign ")"])]

/-- What is parsed in square brackets. -/
def square (g : Gram R) : Gram R :=
  all [sign "[", nested (all [g, sign "]"])]

/-- What is parsed in braces. -/
def braces (g : Gram R) : Gram R :=
  all [sign "\x7b", nested (all [g, sign "\x7d"])]

/-- At least once. -/
def atLeastOnce (g : Gram R) : Gram R :=
  all [g, many g]

/-- At least one, with separators between. -/
def sepBy (separator g : Gram R) : Gram R :=
  all [g, many (all [separator, g])]

/-- Any number, with commas between. -/
def commaSep (g : Gram R) : Gram R :=
  maybe (sepBy (sign ",") g)

/-- One of some words. -/
def words (ws : List String) : Gram R :=
  first (ws.map word)

/-- One of some signs. -/
def signs (ss : List String) : Gram R :=
  first (ss.map sign)

end Gram

/-- A grammar: the rules, the first of them, and the tokens. -/
structure Grammar (R : Type) where
  lexicon : Lexicon
  rules : R → Gram R
  start : R
  /-- The kind of the root. -/
  rootKind : String
  /-- The kinds of comments; they may stand anywhere between tokens. -/
  commentKinds : List String

/-- Parsed nodes and the place after them, if the expression fits, and the farthest stall. -/
structure Parsed where
  found : Option (List Node × Cursor)
  stall : Stall

/-- Goes on with the result of a parse. -/
def Parsed.next (p : Parsed) (f : List Node → Cursor → Stall → Parsed) : Parsed :=
  match p.found with
  | none => p
  | some (ns, c) => f ns c p.stall

namespace Grammar

variable {R : Type} (G : Grammar R)

/-- A bare word or sign. -/
def token (s : String) (start stop : Nat) : Node :=
  { kind := s, start, stop, named := false }

/-- The sign stands here, and no longer sign does. -/
def signFits (s : String) (cs : List Char) : Bool :=
  s.toList.isPrefixOf cs && !G.lexicon.longSigns.any fun l =>
    s.length < l.length && s.toList.isPrefixOf l.toList && l.toList.isPrefixOf cs

/-- The word stands here, and ends here. -/
def wordFits (w : String) (cs : List Char) : Bool :=
  w.toList.isPrefixOf cs && !(cs.drop w.length).head?.any G.lexicon.isWordChar

/-- Takes a token of `scan`'s length after a gap. -/
def leaf (c : Cursor) (st : Stall) (scan : List Char → Option Nat) (make : Nat → Nat → Node) :
    Parsed :=
  let (comments, c', g) := c.skip G.lexicon
  if c.isBlocked g then ⟨none, st⟩
  else
    match scan c'.rest with
    | none => ⟨none, st.max c'.stall⟩
    | some n =>
      let after := c'.take n
      ⟨some (comments ++ [make c'.offset after.offset], after), st⟩

/-- Parsed nodes under a new node; comments in front stay outside. -/
def wrap (kind : String) (c : Cursor) (ns : List Node) : List Node :=
  let isComment (n : Node) : Bool := n.kind ∈ G.commentKinds
  let outside := ns.takeWhile isComment
  let inside := ns.dropWhile isComment
  let start := (inside.head?.map Node.start).getD c.stop
  let stop := (inside.getLast?.map Node.stop).getD c.stop
  outside ++ [{ kind, start, stop, children := inside }]

/-- Parsed nodes under a field name, comments and nodes with a name of their own left alone. -/
def label (name : String) (ns : List Node) : List Node :=
  ns.map fun n =>
    if n.kind ∈ G.commentKinds ∨ n.field.isSome then n else { n with field := some name }

/-- Parsed nodes with another kind for the one that is no comment. -/
def rename (kind : String) (ns : List Node) : List Node :=
  ns.map fun n => if n.kind ∈ G.commentKinds then n else { n with kind }

/-- Apart from comments, there is one node, and it is of one of these kinds. -/
def isOne (kinds : List String) (ns : List Node) : Bool :=
  match ns.filter fun n => n.kind ∉ G.commentKinds with
  | [n] => n.kind ∈ kinds
  | _ => false

/-- The next line stands outside of the current block. -/
def endsBlock (c : Cursor) : Bool :=
  let g := G.lexicon.gap c.rest
  g.broken && g.indent < c.indents.headD 0

mutual

/-- Parses an expression. The first argument bounds the depth of the recursion. -/
def run : Nat → Gram R → Cursor → Stall → Parsed
  | 0, _, _, st => ⟨none, st⟩
  | fuel + 1, g, c, st =>
    match g with
    | .word w =>
      G.leaf c st (fun cs => if G.wordFits w cs then some w.length else none) (token w)
    | .sign s =>
      G.leaf c st (fun cs => if G.signFits s cs then some s.length else none) (token s)
    | .lexeme kind scan => G.leaf c st scan fun start stop => { kind, start, stop }
    | .piece kind scan =>
      match scan c.rest with
      | none => ⟨none, st.max c.stall⟩
      | some n =>
        let after := c.take n
        ⟨some ([{ kind, start := c.offset, stop := after.offset }], after), st⟩
    | .rule r => run fuel (G.rules r) c st
    | .all gs => runAll fuel gs c st
    | .first gs => runFirst fuel gs c st
    | .maybe g =>
      match (runSameLine fuel g c st) with
      | ⟨none, st⟩ => ⟨some ([], c), st⟩
      | p => p
    | .many g => runMany fuel g c st
    | .items g => runItems fuel g c st
    | .ahead g =>
      let p := run fuel g c st
      ⟨p.found.map fun _ => ([], c), p.stall⟩
    | .absent g =>
      match (run fuel g c st).found with
      | none => ⟨some ([], c), st⟩
      | some _ => ⟨none, st.max (c.skip G.lexicon).2.1.stall⟩
    | .node kind g => (run fuel g c st).next fun ns c' st => ⟨some (G.wrap kind c ns, c'), st⟩
    | .field name g => (run fuel g c st).next fun ns c' st => ⟨some (G.label name ns, c'), st⟩
    | .renamed kind g => (run fuel g c st).next fun ns c' st => ⟨some (G.rename kind ns, c'), st⟩
    | .ofKind kinds g =>
      (run fuel g c st).next fun ns c' st =>
        if G.isOne kinds ns then ⟨some (ns, c'), st⟩ else ⟨none, st.max c'.stall⟩
    | .grow repeated g forms =>
      (run fuel g c st).next fun ns c' st => runGrow fuel repeated forms c ns c' st
    | .sameLine g => runSameLine fuel g c st
    | .nested g =>
      (run fuel g { c with depth := c.depth + 1 } st).next fun ns c' st =>
        ⟨some (ns, { c' with depth := c.depth }), st⟩
    | .lineEnd =>
      let (_, c', g) := c.skip G.lexicon
      if g.broken then ⟨some ([], { c with sameLine := false }), st⟩
      else ⟨none, st.max c'.stall⟩
    | .indent =>
      let (_, c', g) := c.skip G.lexicon
      if g.broken ∧ c.indents.headD 0 < g.indent then
        ⟨some ([], { c with indents := g.indent :: c.indents, sameLine := false }), st⟩
      else ⟨none, st.max c'.stall⟩
    | .dedent =>
      if G.endsBlock c then ⟨some ([], { c with indents := c.indents.tail }), st⟩
      else ⟨none, st.max (c.skip G.lexicon).2.1.stall⟩
    | .aligned g => if G.endsBlock c then ⟨none, st⟩ else run fuel g c st

/-- Parses expressions one after another. -/
def runAll : Nat → List (Gram R) → Cursor → Stall → Parsed
  | 0, _, _, st => ⟨none, st⟩
  | _ + 1, [], c, st => ⟨some ([], c), st⟩
  | fuel + 1, g :: gs, c, st =>
    (run fuel g c st).next fun ns c st =>
      (runAll fuel gs c st).next fun ns' c st => ⟨some (ns ++ ns', c), st⟩

/-- Parses the first expression that fits. -/
def runFirst : Nat → List (Gram R) → Cursor → Stall → Parsed
  | 0, _, _, st => ⟨none, st⟩
  | _ + 1, [], _, st => ⟨none, st⟩
  | fuel + 1, g :: gs, c, st =>
    match run fuel g c st with
    | ⟨none, st⟩ => runFirst fuel gs c st
    | p => p

/-- Parses an expression whose first token must stand on the current line. -/
def runSameLine : Nat → Gram R → Cursor → Stall → Parsed
  | 0, _, _, st => ⟨none, st⟩
  | fuel + 1, g, c, st =>
    (run fuel g { c with sameLine := true } st).next fun ns c' st =>
      ⟨some (ns, { c' with sameLine := c.sameLine && c'.offset == c.offset }), st⟩

/-- Parses an expression as often as it fits. -/
def runMany : Nat → Gram R → Cursor → Stall → Parsed
  | 0, _, c, st => ⟨some ([], c), st⟩
  | fuel + 1, g, c, st =>
    match runSameLine fuel g c st with
    | ⟨none, st⟩ => ⟨some ([], c), st⟩
    | ⟨some (ns, c'), st⟩ =>
      if c'.offset = c.offset then ⟨some ([], c), st⟩
      else (runMany fuel g c' st).next fun ns' c st => ⟨some (ns ++ ns', c), st⟩

/-- Parses items until one does not fit or the block ends. -/
def runItems : Nat → Gram R → Cursor → Stall → Parsed
  | 0, _, c, st => ⟨some ([], c), st⟩
  | fuel + 1, g, c, st =>
    if G.endsBlock c then ⟨some ([], c), st⟩
    else
      match run fuel g { c with sameLine := false } st with
      | ⟨none, st⟩ => ⟨some ([], c), st⟩
      | ⟨some (ns, c'), st⟩ =>
        if c'.offset = c.offset then ⟨some ([], c), st⟩
        else (runItems fuel g c' st).next fun ns' c st => ⟨some (ns ++ ns', c), st⟩

/-- Grows parsed nodes by the forms that fit. -/
def runGrow : Nat → Bool → List (Form (Gram R)) → Cursor → List Node → Cursor →
    Stall → Parsed
  | 0, _, _, _, ns, c, st => ⟨some (ns, c), st⟩
  | fuel + 1, repeated, forms, start, ns, c, st =>
    match runForms fuel forms start ns c st with
    | ⟨none, st⟩ => ⟨some (ns, c), st⟩
    | ⟨some (ns', c'), st⟩ =>
      if repeated ∧ c'.offset ≠ c.offset then runGrow fuel repeated forms start ns' c' st
      else ⟨some (ns', c'), st⟩

/-- Grows parsed nodes by the first form that fits. -/
def runForms : Nat → List (Form (Gram R)) → Cursor → List Node → Cursor →
    Stall → Parsed
  | 0, _, _, _, _, st => ⟨none, st⟩
  | _ + 1, [], _, _, _, st => ⟨none, st⟩
  | fuel + 1, form :: forms, start, ns, c, st =>
    let bars := ns.any fun n => n.kind ∈ form.barredKinds
    let fits := form.baseKinds = [] ∨ ns.any fun n => n.kind ∈ form.baseKinds
    if bars ∨ ¬ fits then runForms fuel forms start ns c st
    else
      match runSameLine fuel form.body c st with
      | ⟨none, st⟩ => runForms fuel forms start ns c st
      | ⟨some (ns', c'), st⟩ =>
        let base := match form.base with
          | none => ns
          | some name => G.label name ns
        ⟨some (G.wrap form.kind start (base ++ ns'), c'), st⟩

end

/-- The nodes below the root, or the farthest place that was reached. Every step either takes a
character or goes down in the grammar, so that the length of the source bounds their number. -/
def read (cs : List Char) : Except Stall (List Node) :=
  let p := G.run (400 * (cs.length + 4)) (G.rules G.start) { rest := cs } {}
  match p.found with
  | none => .error p.stall
  | some (ns, c) =>
    let (comments, c', _) := c.skip G.lexicon
    if c'.rest.isEmpty then .ok (ns ++ comments) else .error (p.stall.max c'.stall)

end Grammar

end SourceOutline.Syntax
