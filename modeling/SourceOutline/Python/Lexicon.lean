import SourceOutline.Syntax.Cursor
import SourceOutline.Text.Blank
import SourceOutline.Text.Word

/-!
# Tokens of Python

Blanks, comments and line ends between tokens, names, numbers and the parts of strings. Each
scanner tells how many characters its token takes at the front of a text.
-/

namespace SourceOutline.Python

open Syntax

/-! ## Between tokens -/

/-- A blank between tokens. -/
def isSpace (c : Char) : Bool :=
  (Text.isBlank c && !(0x1C ≤ c.toNat && c.toNat ≤ 0x1F))
    || c = '\uFEFF' || c = '\u2060' || c = '\u200B'

/-- The indent after one more character of a line. -/
def indentAfter (indent : Nat) (c : Char) : Nat :=
  if c = ' ' then indent + 1
  else if c = '\t' then indent + 8
  else if c = '\n' ∨ c = '\r' ∨ c = '\x0c' then 0
  else indent

/-- Blanks and comments at the front, given what has been passed already: comments, bytes, whether
a line ended, and the indent. A backslash joins two lines. -/
def gapFrom (passed : Gap) (cs : List Char) : Gap :=
  match cs with
  | [] => { passed with rest := [], broken := true, indent := 0 }
  | c :: r =>
    if c = '#' then
      let size := utf8Length (cs.takeWhile (· ≠ '\n'))
      gapFrom
        { passed with
          comments := passed.comments ++ [("comment", passed.bytes, size)]
          bytes := passed.bytes + size
          indent := 0 }
        (r.dropWhile (· ≠ '\n'))
    else if c = '\\' then
      match r with
      | '\r' :: '\n' :: r' => gapFrom { passed with bytes := passed.bytes + 3 } r'
      | '\n' :: r' => gapFrom { passed with bytes := passed.bytes + 2 } r'
      | _ => { passed with rest := cs }
    else if isSpace c then
      gapFrom
        { passed with
          bytes := passed.bytes + c.utf8Size
          broken := passed.broken || c = '\n'
          indent := indentAfter passed.indent c }
        r
    else { passed with rest := cs }
termination_by cs.length
decreasing_by
  · have := (List.dropWhile_sublist (fun c => decide (c ≠ '\n')) (l := r)).length_le
    simp only [List.length_cons]
    omega
  all_goals simp_all <;> omega

/-! ## Words -/

/-- May begin a name. -/
def startsName (c : Char) : Bool :=
  Text.isNameStart c || c = '_'

/-- Any word. -/
def scanWord : List Char → Option Nat
  | [] => none
  | c :: r => if startsName c then some ((r.takeWhile Text.isNameContinue).length + 1) else none

/-- The words that are no names. -/
def reserved : List String :=
  ["False", "None", "True", "and", "as", "assert", "break", "class", "continue", "def", "del",
    "elif", "else", "except", "finally", "for", "from", "global", "if", "import", "in", "is",
    "lambda", "nonlocal", "not", "or", "pass", "raise", "return", "try", "while", "with", "yield"]

/-- The length of a word, if it is this one. -/
def scanFixed (w : String) (cs : List Char) : Option Nat :=
  (scanWord cs).filter fun n => String.ofList (cs.take n) = w

/-- Any word that is not reserved. -/
def scanName (cs : List Char) : Option Nat :=
  (scanWord cs).filter fun n => String.ofList (cs.take n) ∉ reserved

/-! ## Numbers -/

/-- The number of characters that a class of digits takes, underscores among them. -/
def digitRun (isDigit : Char → Bool) (cs : List Char) : Nat :=
  match cs with
  | [] => 0
  | c :: _ => if isDigit c then (cs.takeWhile fun c => isDigit c || c = '_').length else 0

/-- One more if the next character is among some. -/
def plusOne (cs : List Char) (n : Nat) (among : List Char) : Nat :=
  if (cs.drop n).head?.any (· ∈ among) then n + 1 else n

/-- The characters of an exponent, or none. -/
def exponentRun : List Char → Nat
  | c :: r =>
    if c = 'e' ∨ c = 'E' then
      let sign := plusOne r 0 ['+', '-']
      let digits := digitRun Char.isDigit (r.drop sign)
      if digits = 0 then 0 else 1 + sign + digits
    else 0
  | [] => 0

/-- A number with a point or an exponent. -/
def scanFloat (cs : List Char) : Option Nat :=
  let whole := digitRun Char.isDigit cs
  let point := (cs.drop whole).head? = some '.'
  let fraction := if point then digitRun Char.isDigit (cs.drop (whole + 1)) else 0
  if whole = 0 ∧ fraction = 0 then none
  else
    let n := if point then whole + 1 + fraction else whole
    let e := exponentRun (cs.drop n)
    if point ∨ e ≠ 0 then some (plusOne cs (n + e) ['j', 'J', 'l', 'L']) else none

/-- The digits that a mark after a zero announces. -/
def markedDigits? (c : Char) : Option (Char → Bool) :=
  if c = 'x' ∨ c = 'X' then
    some fun d => d.isDigit || ('a' ≤ d && d ≤ 'f') || ('A' ≤ d && d ≤ 'F')
  else if c = 'o' ∨ c = 'O' then some fun d => '0' ≤ d && d ≤ '7'
  else if c = 'b' ∨ c = 'B' then some fun d => d = '0' || d = '1'
  else none

/-- A decimal integer. -/
def scanDecimal (cs : List Char) : Option Nat :=
  let n := digitRun Char.isDigit cs
  if n = 0 then none else some (plusOne cs n ['j', 'J', 'l', 'L'])

/-- An integer. -/
def scanInteger (cs : List Char) : Option Nat :=
  match cs with
  | '0' :: m :: r =>
    match markedDigits? m with
    | none => scanDecimal cs
    | some isDigit =>
      let n := digitRun isDigit (if r.head? = some '_' then r.drop 1 else r)
      let n := if r.head? = some '_' ∧ n ≠ 0 then n + 1 else n
      if n = 0 then scanDecimal cs else some (plusOne cs (n + 2) ['l', 'L'])
  | _ => scanDecimal cs

/-! ## Strings -/

/-- How a string is closed, and whether it holds expressions. -/
structure Quotes where
  mark : List Char
  /-- Line ends may stand inside. -/
  lines : Bool
  /-- Expressions may stand inside, in braces. -/
  expressions : Bool

/-- All kinds of strings, longer marks first. -/
def Quotes.all : List Quotes :=
  [false, true].flatMap fun expressions =>
    [⟨['"', '"', '"'], true, expressions⟩, ⟨['\'', '\'', '\''], true, expressions⟩,
      ⟨['"'], false, expressions⟩, ⟨['\''], false, expressions⟩]

/-- A letter that may stand before a string. -/
def isStringLetter (c : Char) : Bool :=
  c ∈ ['f', 'F', 'r', 'R', 'b', 'B', 'u', 'U']

/-- The letters and the mark that begin a string of this kind. -/
def Quotes.scanStart (q : Quotes) (cs : List Char) : Option Nat :=
  let letters := cs.takeWhile isStringLetter
  let rest := cs.dropWhile isStringLetter
  let tripled := !q.lines && (q.mark ++ q.mark ++ q.mark).isPrefixOf rest
  if q.mark.isPrefixOf rest ∧ !tripled ∧ q.expressions = letters.any fun c => c = 'f' || c = 'F' then
    some (letters.length + q.mark.length)
  else none

/-- The mark that ends a string of this kind. -/
def Quotes.scanEnd (q : Quotes) (cs : List Char) : Option Nat :=
  if q.mark.isPrefixOf cs then some q.mark.length else none

/-- The length of the name of a character in braces, braces included, or 0. -/
def characterName (cs : List Char) : Nat :=
  let name := cs.tail.takeWhile fun c => c.isAlphanum || c = ' ' || c = '-'
  if cs.head? = some '\x7b' ∧ name ≠ [] ∧ (cs.drop (name.length + 1)).head? = some '\x7d' then
    name.length + 2
  else 0

/-- The characters of an escape, with its backslash. In a string with expressions only what stands
for a character is an escape, so that a brace after a backslash still opens an expression. -/
def Quotes.escapeLength (q : Quotes) : List Char → Nat
  | [] => 1
  | c :: r =>
    if c = 'N' then 2 + characterName r
    else if q.expressions ∧ (c = '\x7b' ∨ c = '\x7d') then 1
    else 2

/-- The number of characters before the end of a string or the next expression in it. -/
def Quotes.contentRun (q : Quotes) (cs : List Char) : Nat :=
  match cs with
  | [] => 0
  | c :: r =>
    if q.mark.isPrefixOf cs then 0
    else if c = '\n' ∧ !q.lines then 0
    else if c = '\\' then
      let n := q.escapeLength r
      n + q.contentRun (r.drop (n - 1))
    else if q.expressions ∧ (c = '\x7b' ∨ c = '\x7d') then
      if r.head? = some c then 2 + q.contentRun (r.drop 1) else 0
    else 1 + q.contentRun r
termination_by cs.length
decreasing_by
  all_goals
    simp only [List.length_drop, List.length_cons]
    omega

/-- Text inside a string. -/
def Quotes.scanContent (q : Quotes) (cs : List Char) : Option Nat :=
  let n := q.contentRun cs
  if n = 0 then none else some (min n cs.length)

/-- A whole string without expressions. -/
def Quotes.scanPlain (q : Quotes) (cs : List Char) : Option Nat := do
  let start ← q.scanStart cs
  let content := min (q.contentRun (cs.drop start)) (cs.length - start)
  let stop ← q.scanEnd (cs.drop (start + content))
  return start + content + stop

/-- Text inside a format. -/
def scanFormat (cs : List Char) : Option Nat :=
  let n := (cs.takeWhile fun c => c ≠ '\x7b' && c ≠ '\x7d' && c ≠ '\n').length
  if n = 0 then none else some n

/-- An exclamation mark and a letter. -/
def scanConversion : List Char → Option Nat
  | '!' :: c :: _ => if c.isLower then some 2 else none
  | _ => none

/-- A brace that opens an expression in a string. -/
def scanBrace : List Char → Option Nat
  | '\x7b' :: _ => some 1
  | _ => none

/-- The tokens of Python. -/
def lexicon : Lexicon where
  gap cs := gapFrom { rest := cs } cs
  scanners := Quotes.all.map Quotes.scanPlain ++ [scanWord, scanFloat, scanInteger]
  longSigns := ["==", "!=", "<=", ">=", "<>", "**", "//", "<<", ">>", "->", ":=", "+=", "-=", "*=",
    "/=", "//=", "%=", "@=", "&=", "|=", "^=", "<<=", ">>=", "**="]
  isWordChar := Text.isNameContinue
  fillers := [⟨")", false⟩, ⟨"]", false⟩, ⟨"\x7d", false⟩, ⟨"x", true⟩]

end SourceOutline.Python
