import SourceOutline.Yaml.Token

/-!
# YAML nodes

The tree of nodes that the tokens of a text describe. Uses of anchors are replaced by the nodes
that they stand for.

* `YamlNode.ofTokens?` gives the node of the one document of a text; nothing at all is the empty
  document, and two documents are a fault.
-/

namespace SourceOutline

/-- A node with its tag, if it has one. -/
inductive YamlNode where
  | scalar (tag : Option String) (isPlain : Bool) (text : String)
  | sequence (tag : Option String) (items : List YamlNode)
  | mapping (tag : Option String) (entries : List (YamlNode × YamlNode))
  deriving Inhabited

namespace YamlNode

open Yaml

/-- What remains to be read: tokens, named nodes and the handles of tags. -/
structure Reading where
  tokens : List Token
  anchors : Table String YamlNode := []
  handles : Table String String := []

namespace Reading

/-- The next token. -/
def head? (r : Reading) : Option Token :=
  r.tokens.head?

/-- Everything after the next token. -/
def tail (r : Reading) : Reading :=
  { r with tokens := r.tokens.tail }

/-- The next token is among some, or there is none. -/
def stopsAt (r : Reading) (ts : List Token) : Bool :=
  match r.head? with
  | none => true
  | some t => t ∈ ts

/-- Takes a token that must come next. -/
def expect? (r : Reading) (t : Token) : Option Reading :=
  if r.head? = some t then some r.tail else none

end Reading

/-- The node that stands where nothing is written. -/
def empty : YamlNode := .scalar none true ""

/-- The full text of a tag. -/
def tagText? (handles : Table String String) (handle : Option String) (rest : String) :
    Option String :=
  match handle with
  | none => some rest
  | some h =>
    match handles.get? h with
    | some start => some (start ++ rest)
    | none =>
      if h = "!" then some ("!" ++ rest)
      else if h = "!!" then some ("tag:yaml.org,2002:" ++ rest)
      else none

/-- The anchor and the tag in front of a node, in either order. -/
def properties? (r : Reading) : Option (Option String × Option String × Reading) :=
  let tagOf? (h : Option String) (rest : String) := tagText? r.handles h rest
  match r.tokens with
  | .anchor a :: .tag h t :: ts => (tagOf? h t).map fun t => (some a, some t, { r with tokens := ts })
  | .anchor a :: ts => some (some a, none, { r with tokens := ts })
  | .tag h t :: .anchor a :: ts => (tagOf? h t).map fun t => (some a, some t, { r with tokens := ts })
  | .tag h t :: ts => (tagOf? h t).map fun t => (none, some t, { r with tokens := ts })
  | _ => some (none, none, r)

/-- Where a node may stand. -/
inductive Place where
  /-- Inside brackets. -/
  | flow
  /-- In a block. -/
  | block
  /-- After a key, where the items of a list need no deeper indent. -/
  | afterKey
  deriving DecidableEq

/-- Names a node by its anchor. An anchor may name one node only. -/
def name? (anchor : Option String) (n : YamlNode) (r : Reading) : Option (YamlNode × Reading) :=
  match anchor with
  | none => some (n, r)
  | some a => if r.anchors.has a then none else some (n, { r with anchors := r.anchors.set a n })

mutual

/-- Reads a node. -/
def read? : Nat → Place → Reading → Option (YamlNode × Reading)
  | 0, _, _ => none
  | fuel + 1, place, r =>
    match r.head? with
    | some (.alias a) => (r.anchors.get? a).map fun n => (n, r.tail)
    | _ => do
      let (anchor, tag, r) ← properties? r
      let inBlock := place ≠ .flow
      match r.head? with
      | some (.scalar isPlain text) => name? anchor (.scalar tag isPlain text) r.tail
      | some .flowSequenceStart => do
        let (items, r) ← readFlowItems? fuel true r.tail
        name? anchor (.sequence tag items) r
      | some .flowMappingStart => do
        let (entries, r) ← readFlowEntries? fuel true r.tail
        name? anchor (.mapping tag entries) r
      | some .blockSequenceStart =>
        if inBlock then do
          let (items, r) ← readItems? fuel [.blockEntry, .blockEnd] r.tail
          name? anchor (.sequence tag items) (← r.expect? .blockEnd)
        else none
      | some .blockMappingStart =>
        if inBlock then do
          let (entries, r) ← readEntries? fuel r.tail
          name? anchor (.mapping tag entries) (← r.expect? .blockEnd)
        else none
      | some .blockEntry =>
        if place = .afterKey then do
          let (items, r) ← readItems? fuel [.blockEntry, .key, .value, .blockEnd] r
          name? anchor (.sequence tag items) r
        else if anchor.isSome ∨ tag.isSome then name? anchor (.scalar tag true "") r
        else none
      | _ =>
        if anchor.isSome ∨ tag.isSome then name? anchor (.scalar tag true "") r else none

/-- Reads a node, or the empty one before some tokens. -/
def readUnless? : Nat → List Token → Place → Reading → Option (YamlNode × Reading)
  | 0, _, _, _ => none
  | fuel + 1, stops, place, r =>
    if r.stopsAt stops then some (empty, r) else read? fuel place r

/-- Reads items after dashes. An item is empty before one of some tokens. -/
def readItems? : Nat → List Token → Reading → Option (List YamlNode × Reading)
  | 0, _, _ => none
  | fuel + 1, stops, r =>
    if r.head? = some .blockEntry then do
      let (n, r) ← readUnless? fuel stops .block r.tail
      let (ns, r) ← readItems? fuel stops r
      return (n :: ns, r)
    else some ([], r)

/-- Reads the entries of a mapping in a block. -/
def readEntries? : Nat → Reading → Option (List (YamlNode × YamlNode) × Reading)
  | 0, _ => none
  | fuel + 1, r =>
    if r.head? = some .key then do
      let stops : List Token := [.key, .value, .blockEnd]
      let (k, r) ← readUnless? fuel stops .afterKey r.tail
      let (v, r) ← readValue? fuel stops .afterKey r
      let (es, r) ← readEntries? fuel r
      return ((k, v) :: es, r)
    else some ([], r)

/-- Reads what stands after a colon, or the empty node if there is no colon. -/
def readValue? : Nat → List Token → Place → Reading → Option (YamlNode × Reading)
  | 0, _, _, _ => none
  | fuel + 1, stops, place, r =>
    if r.head? = some .value then readUnless? fuel stops place r.tail else some (empty, r)

/-- Reads the items of a list in brackets. -/
def readFlowItems? : Nat → Bool → Reading → Option (List YamlNode × Reading)
  | 0, _, _ => none
  | fuel + 1, isFirst, r =>
    if r.head? = some .flowSequenceEnd then some ([], r.tail)
    else do
      let r ← if isFirst then some r else r.expect? .flowEntry
      if r.head? = some .flowSequenceEnd then return ([], r.tail)
      else
        let (n, r) ← readFlowItem? fuel r
        let (ns, r) ← readFlowItems? fuel false r
        return (n :: ns, r)

/-- Reads an item in brackets; a key with a value is a mapping of its own. -/
def readFlowItem? : Nat → Reading → Option (YamlNode × Reading)
  | 0, _ => none
  | fuel + 1, r =>
    if r.head? = some .key then do
      let (k, r) ← readUnless? fuel [.value, .flowEntry, .flowSequenceEnd] .flow r.tail
      let (v, r) ← readValue? fuel [.flowEntry, .flowSequenceEnd] .flow r
      return (.mapping none [(k, v)], r)
    else read? fuel .flow r

/-- Reads the entries of a mapping in braces. -/
def readFlowEntries? : Nat → Bool → Reading → Option (List (YamlNode × YamlNode) × Reading)
  | 0, _, _ => none
  | fuel + 1, isFirst, r =>
    if r.head? = some .flowMappingEnd then some ([], r.tail)
    else do
      let r ← if isFirst then some r else r.expect? .flowEntry
      if r.head? = some .flowMappingEnd then return ([], r.tail)
      else
        let (e, r) ← readFlowEntry? fuel r
        let (es, r) ← readFlowEntries? fuel false r
        return (e :: es, r)

/-- Reads an entry in braces; a node that is no key has an empty value. -/
def readFlowEntry? : Nat → Reading → Option ((YamlNode × YamlNode) × Reading)
  | 0, _ => none
  | fuel + 1, r =>
    if r.head? = some .key then do
      let (k, r) ← readUnless? fuel [.value, .flowEntry, .flowMappingEnd] .flow r.tail
      let (v, r) ← readValue? fuel [.flowEntry, .flowMappingEnd] .flow r
      return ((k, v), r)
    else do
      let (k, r) ← read? fuel .flow r
      return ((k, empty), r)

end

/-- The lines for programs in front of a document. The main number of the version must be 1. -/
def directives? (handles : Table String String) (seen : Bool) :
    List Token → Option (Table String String × List Token)
  | .version n :: ts => if seen ∨ n ≠ 1 then none else directives? handles true ts
  | .tagHandle h t :: ts =>
    if handles.has h then none else directives? (handles.set h t) seen ts
  | .otherDirective :: ts => directives? handles seen ts
  | ts => some (handles, ts)

/-- A token is a line for programs. -/
def isDirective : Token → Bool
  | .version _ => true
  | .tagHandle _ _ => true
  | .otherDirective => true
  | _ => false

/-- The node of a document, and the tokens after it. -/
def document? (ts : List Token) : Option (YamlNode × List Token) := do
  let explicit : Bool := ts.head?.any fun t => isDirective t || t = .documentStart
  let (handles, ts) ← if explicit then directives? [] false ts else some ([], ts)
  let ts ← if explicit then (if ts.head? = some .documentStart then some ts.tail else none) else some ts
  let endsHere : Bool := match ts.head? with
    | none => true
    | some t => isDirective t || t = .documentStart || t = .documentEnd
  if explicit ∧ endsHere then return (empty, ts)
  else
    let (n, r) ← read? (4 * ts.length + 4) .block { tokens := ts, handles }
    return (n, r.tokens)

/-- The node of a text with one document, or with none. -/
def ofTokens? (ts : List Token) : Option YamlNode :=
  if ts = [] then some empty
  else do
    let (n, ts) ← document? ts
    if ts.dropWhile (· = .documentEnd) = [] then return n else none

end YamlNode

end SourceOutline
