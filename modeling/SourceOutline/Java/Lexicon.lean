import SourceOutline.Syntax.Cursor
import SourceOutline.Text.Blank
import SourceOutline.Text.Word

/-!
# Tokens of Java

Blanks and comments between tokens, names, numbers, characters and strings. Each scanner tells how
many characters its token takes at the front of a text.
-/

namespace SourceOutline.Java

open Syntax

/-! ## Between tokens -/

/-- A blank between tokens. -/
def isSpace (c : Char) : Bool :=
  Text.isBlank c && !(0x1C ≤ c.toNat && c.toNat ≤ 0x1F)

/-- The number of characters up to and with the end of a block comment. -/
def blockCommentEnd? : List Char → Option Nat
  | '*' :: '/' :: _ => some 2
  | _ :: r => (blockCommentEnd? r).map (· + 1)
  | [] => none

/-- The comment at the front: its kind and the number of its characters. -/
def comment? : List Char → Option (String × Nat)
  | '/' :: '/' :: r => some ("line_comment", (r.takeWhile (· ≠ '\n')).length + 2)
  | '/' :: '*' :: r => (blockCommentEnd? r).map fun n => ("block_comment", n + 2)
  | _ => none

theorem comment?_pos {cs : List Char} {kind : String} {n : Nat} (h : comment? cs = some (kind, n)) :
    0 < n := by
  unfold comment? at h
  split at h
  · simp only [Option.some.injEq, Prod.mk.injEq] at h
    omega
  · simp only [Option.map_eq_some_iff, Prod.mk.injEq] at h
    obtain ⟨m, -, -, rfl⟩ := h
    omega
  · simp at h

/-- Blanks and comments at the front, `before` bytes of them passed already. -/
def gapFrom (comments : List (String × Nat × Nat)) (before : Nat) (cs : List Char) : Gap :=
  match _h : comment? cs with
  | some (kind, n) =>
    let size := utf8Length (cs.take n)
    gapFrom (comments ++ [(kind, before, size)]) (before + size) (cs.drop n)
  | none =>
    match cs with
    | [] => { comments, rest := [], bytes := before, broken := true }
    | c :: r =>
      if isSpace c then gapFrom comments (before + c.utf8Size) r
      else { comments, rest := c :: r, bytes := before }
termination_by cs.length
decreasing_by
  · have hn := comment?_pos _h
    have hc : 0 < cs.length := by
      cases cs with
      | nil => simp [comment?] at _h
      | cons => simp
    rw [List.length_drop]
    omega
  · simp

/-! ## Words -/

/-- May begin a name. -/
def startsName (c : Char) : Bool :=
  Text.isNameStart c || c = '_' || c = '$'

/-- May stand inside a name. -/
def continuesName (c : Char) : Bool :=
  Text.isNameContinue c || c = '$' || c = '\u00A2'

/-- Any word. -/
def scanWord : List Char → Option Nat
  | [] => none
  | c :: r => if startsName c then some ((r.takeWhile continuesName).length + 1) else none

/-- The words that are no names. -/
def reserved : List String :=
  ["abstract", "assert", "boolean", "break", "byte", "case", "catch", "char", "class", "continue",
    "default", "do", "double", "else", "enum", "extends", "false", "final", "finally", "float",
    "for", "if", "implements", "import", "instanceof", "int", "interface", "long", "native", "new",
    "null", "package", "private", "protected", "public", "return", "short", "static", "strictfp",
    "super", "switch", "synchronized", "this", "throw", "throws", "transient", "true", "try",
    "void", "volatile", "while"]

/-- A word that is not reserved. -/
def scanName (cs : List Char) : Option Nat :=
  (scanWord cs).filter fun n => String.ofList (cs.take n) ∉ reserved

/-! ## Numbers -/

/-- The number of characters that a class of digits takes, underscores among them. -/
def digitRun (isDigit : Char → Bool) (cs : List Char) : Nat :=
  match cs with
  | [] => 0
  | c :: _ => if isDigit c then (cs.takeWhile fun c => isDigit c || c = '_').length else 0

/-- A hexadecimal digit. -/
def isHexDigit (c : Char) : Bool :=
  c.isDigit || ('a' ≤ c && c ≤ 'f') || ('A' ≤ c && c ≤ 'F')

/-- One more if the next character is among some. -/
def plusOne (cs : List Char) (n : Nat) (among : List Char) : Nat :=
  if (cs.drop n).head?.any (· ∈ among) then n + 1 else n

/-- The characters of an exponent, or none. -/
def exponentRun (marks cs : List Char) : Nat :=
  match cs with
  | c :: r =>
    if c ∈ marks then
      let sign := plusOne r 0 ['+', '-']
      let digits := digitRun Char.isDigit (r.drop sign)
      if digits = 0 then 0 else 1 + sign + digits
    else 0
  | [] => 0

/-- A floating point number. -/
def scanFloat (cs : List Char) : Option Nat :=
  let whole := digitRun Char.isDigit cs
  let point := (cs.drop whole).head? = some '.'
  let fraction := if point then digitRun Char.isDigit (cs.drop (whole + 1)) else 0
  if whole = 0 ∧ fraction = 0 then none
  else
    let n := if point then whole + 1 + fraction else whole
    let e := exponentRun ['e', 'E'] (cs.drop n)
    let suffixed := plusOne cs (n + e) ['f', 'F', 'd', 'D']
    if point ∨ e ≠ 0 ∨ suffixed ≠ n + e then some suffixed else none

/-- A hexadecimal floating point number, with a binary exponent. -/
def scanHexFloat : List Char → Option Nat
  | '0' :: m :: r =>
    let whole := digitRun isHexDigit r
    let point := (r.drop whole).head? = some '.'
    let fraction := if point then digitRun isHexDigit (r.drop (whole + 1)) else 0
    let n := if point then whole + 1 + fraction else whole
    let e := exponentRun ['p', 'P'] (r.drop n)
    if m ∉ ['x', 'X'] ∨ whole + fraction = 0 ∨ e = 0 then none
    else some (plusOne r (n + e) ['f', 'F', 'd', 'D'] + 2)
  | _ => none

/-- An integer after a mark such as `0x`. -/
def scanMarked (marks : List Char) (isDigit : Char → Bool) : List Char → Option Nat
  | '0' :: m :: r =>
    if m ∈ marks then
      let n := digitRun isDigit r
      if n = 0 then none else some (plusOne ('0' :: m :: r) (n + 2) ['l', 'L'])
    else none
  | _ => none

/-- A hexadecimal integer. -/
def scanHex : List Char → Option Nat :=
  scanMarked ['x', 'X'] isHexDigit

/-- A binary integer. -/
def scanBinary : List Char → Option Nat :=
  scanMarked ['b', 'B'] fun c => c = '0' || c = '1'

/-- A decimal or octal integer. -/
def scanInteger (cs : List Char) : Option Nat :=
  let n := digitRun Char.isDigit cs
  if n = 0 then none else some (plusOne cs n ['l', 'L'])

/-! ## Characters and strings -/

/-- The number of characters up to and with a closing mark that no backslash escapes. -/
def closing? (mark : List Char) (lines : Bool) : List Char → Option Nat
  | [] => none
  | c :: r =>
    if mark.isPrefixOf (c :: r) then some mark.length
    else if c = '\n' ∧ !lines then none
    else if c = '\\' then
      match r with
      | [] => none
      | _ :: r => (closing? mark lines r).map (· + 2)
    else (closing? mark lines r).map (· + 1)

/-- A character between single quotes. -/
def scanCharacter : List Char → Option Nat
  | '\'' :: '\'' :: _ => none
  | '\'' :: r => (closing? ['\''] false r).map (· + 1)
  | _ => none

/-- A text block. -/
def scanTextBlock : List Char → Option Nat
  | '"' :: '"' :: '"' :: r => (closing? ['"', '"', '"'] true r).map (· + 3)
  | _ => none

/-- A string. -/
def scanString : List Char → Option Nat
  | '"' :: r => (closing? ['"'] true r).map (· + 1)
  | _ => none

/-- The tokens of Java. A closing angle bracket never joins the sign after it, since it may close
type arguments. -/
def lexicon : Lexicon where
  gap := gapFrom [] 0
  scanners := [scanWord, scanHexFloat, scanFloat, scanHex, scanBinary, scanInteger, scanCharacter,
    scanTextBlock, scanString]
  longSigns := ["==", "!=", "<=", "&&", "||", "++", "--", "+=", "-=", "*=", "/=", "%=", "&=", "|=",
    "^=", "<<", "<<=", "->", "::", "..."]
  isWordChar := continuesName
  fillers := [⟨";", true⟩, ⟨")", true⟩, ⟨"]", true⟩, ⟨"\x7d", true⟩, ⟨">", true⟩, ⟨":", true⟩,
    ⟨"x", true⟩]

end SourceOutline.Java
