import SourceOutline.Text.Utf8

/-!
# Syntax trees

A node has a kind, a range of bytes, perhaps a field name in its parent, and children. Trees of
sources with syntax errors hold nodes of kind `ERROR` and nodes that are missing.

* `Node.hasError` tells whether there are such nodes below; `Node.firstBad?` finds the first.
* `Node.child?`, `Node.childrenBy`, `Node.namedChildren` pick children.
* `Source.text` is the text of a node.
-/

namespace SourceOutline

/-- A node of a syntax tree. -/
structure Node where
  kind : String
  /-- Offset of the first byte. -/
  start : Nat
  /-- Offset after the last byte. -/
  stop : Nat
  /-- The name of this child in its parent. -/
  field : Option String := none
  /-- Not a bare keyword or sign. -/
  named : Bool := true
  /-- Not in the source, but needed there. -/
  missing : Bool := false
  /-- Counts as erroneous whatever is below it. -/
  flagged : Bool := false
  children : List Node := []
  deriving Inhabited, Repr

namespace Node

/-- The node itself stands for a syntax error. -/
def isBad (n : Node) : Bool :=
  n.kind == "ERROR" || n.missing

mutual

/-- The node is bad or flagged, or something below it is. -/
def hasError : Node → Bool
  | ⟨kind, _, _, _, _, missing, flagged, children⟩ =>
    flagged || kind == "ERROR" || missing || anyError children

/-- Some node of a list has an error. -/
def anyError : List Node → Bool
  | [] => false
  | n :: ns => n.hasError || anyError ns

end

mutual

/-- The first bad node, looked for below nodes with errors only. -/
def firstBad? : Node → Option Node
  | ⟨kind, start, stop, field, named, missing, flagged, children⟩ =>
    if kind == "ERROR" || missing then
      some ⟨kind, start, stop, field, named, missing, flagged, children⟩
    else firstBadIn? children

/-- The first bad node of a list. -/
def firstBadIn? : List Node → Option Node
  | [] => none
  | n :: ns => (if n.hasError then firstBad? n else none).or (firstBadIn? ns)

end

/-- The first child under a field name. -/
def child? (n : Node) (field : String) : Option Node :=
  n.children.find? fun c => c.field == some field

/-- All children under a field name. -/
def childrenBy (n : Node) (field : String) : List Node :=
  n.children.filter fun c => c.field == some field

/-- The first child of a kind. -/
def childOfKind? (n : Node) (kind : String) : Option Node :=
  n.children.find? fun c => c.kind == kind

/-- The children that are not bare keywords or signs. -/
def namedChildren (n : Node) : List Node :=
  n.children.filter Node.named

theorem mem_of_child? {n c : Node} {field : String} (h : n.child? field = some c) :
    c ∈ n.children :=
  List.mem_of_find?_eq_some h

theorem sizeOf_lt_of_mem_children {n c : Node} (h : c ∈ n.children) : sizeOf c < sizeOf n := by
  have := List.sizeOf_lt_of_mem h
  cases n
  simp only [Node.mk.sizeOf_spec]
  simp only at this
  omega

end Node

/-- A source as bytes. -/
structure Source where
  bytes : List UInt8

namespace Source

/-- The source with the given text. -/
def ofString (s : String) : Source :=
  ⟨Utf8.encode s.toList⟩

/-- The text between two offsets, cut off at the end of the source. -/
def slice (src : Source) (start stop : Nat) : String :=
  String.ofList (Utf8.decodeLossy ((src.bytes.drop start).take (stop - start)))

/-- The text of a node. -/
def text (src : Source) (n : Node) : String :=
  src.slice n.start n.stop

/-- The text of the child under a field name. -/
def fieldText? (src : Source) (n : Node) (field : String) : Option String :=
  (n.child? field).map src.text

/-- The line on which an offset lies, from 1. -/
def lineAt (src : Source) (offset : Nat) : Nat :=
  (src.bytes.take offset).count 0x0A + 1

end Source

end SourceOutline
