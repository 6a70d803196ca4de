/-!
# Blanks

The blank characters of Unicode together with the ASCII separators, and what is done with them:

* `trim` drops the blanks at both ends, `trimStart` those at the front;
* `squeeze` drops all blanks.
-/

namespace SourceOutline.Text

/-- White space of Unicode, or one of the ASCII separators U+001C to U+001F. -/
def isBlank (c : Char) : Bool :=
  let n := c.toNat
  (0x09 ≤ n && n ≤ 0x0D) || (0x1C ≤ n && n ≤ 0x20) || n == 0x85 || n == 0xA0 || n == 0x1680
    || (0x2000 ≤ n && n ≤ 0x200A) || n == 0x2028 || n == 0x2029 || n == 0x202F || n == 0x205F
    || n == 0x3000

theorem isBlank_of_isWhitespace {c : Char} (h : c.isWhitespace) : isBlank c := by
  simp only [Char.isWhitespace, Bool.or_eq_true, decide_eq_true_eq] at h
  rcases h with ((rfl | rfl) | rfl) | rfl <;> decide

/-- The text without blanks at the front. -/
def trimStart (cs : List Char) : List Char :=
  cs.dropWhile isBlank

/-- The text without blanks at the end. -/
def trimEnd (cs : List Char) : List Char :=
  (cs.reverse.dropWhile isBlank).reverse

/-- The text without blanks at either end. -/
def trim (cs : List Char) : List Char :=
  trimEnd (trimStart cs)

/-- The text without any blank. -/
def squeeze (cs : List Char) : List Char :=
  cs.filter fun c => !isBlank c

@[simp] theorem squeeze_nil : squeeze [] = [] := rfl

@[simp] theorem squeeze_append (a b : List Char) : squeeze (a ++ b) = squeeze a ++ squeeze b := by
  simp [squeeze]

@[simp] theorem squeeze_squeeze (a : List Char) : squeeze (squeeze a) = squeeze a := by
  simp [squeeze]

theorem not_isBlank_of_mem_squeeze {c : Char} {a : List Char} (h : c ∈ squeeze a) :
    isBlank c = false := by
  simpa using (List.mem_filter.1 h).2

end SourceOutline.Text
