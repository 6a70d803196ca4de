/-!
# Dotted names

A dotted name is split at its last dot (`splitLast`), at its first dot (`splitFirst`), or at every
dot (`parts`). `join` puts a package and a name together again; an empty package leaves the name
alone.
-/

namespace SourceOutline.Dotted

/-- Splits at the last dot; a text without a dot has nothing before it. -/
def splitLastChars : List Char → List Char × List Char
  | [] => ([], [])
  | c :: r =>
    if '.' ∈ r then (c :: (splitLastChars r).1, (splitLastChars r).2)
    else if c = '.' then ([], r)
    else ([], c :: r)

/-- Splits at the first dot, if there is one. -/
def splitFirstChars : List Char → Option (List Char × List Char)
  | [] => none
  | c :: r =>
    if c = '.' then some ([], r)
    else (splitFirstChars r).map fun p => (c :: p.1, p.2)

/-- The text before the last dot and the text after it. -/
def splitLast (s : String) : String × String :=
  let p := splitLastChars s.toList
  (String.ofList p.1, String.ofList p.2)

/-- The text before the first dot and the text after it, if there is a dot. -/
def splitFirst (s : String) : Option (String × String) :=
  (splitFirstChars s.toList).map fun p => (String.ofList p.1, String.ofList p.2)

/-- The text after the last dot. -/
def last (s : String) : String :=
  (splitLast s).2

/-- The text before the first dot, or the whole text. -/
def head (s : String) : String :=
  match splitFirst s with
  | some p => p.1
  | none => s

/-- The components between dots. -/
def partsChars : List Char → List (List Char)
  | [] => [[]]
  | c :: r =>
    if c = '.' then [] :: partsChars r
    else
      match partsChars r with
      | [] => [[c]]
      | p :: ps => (c :: p) :: ps

/-- The components between dots. -/
def parts (s : String) : List String :=
  (partsChars s.toList).map String.ofList

/-- A name inside a package; the empty package adds nothing. -/
def join (package name : String) : String :=
  if package = "" then name else package ++ "." ++ name

theorem splitLastChars_of_not_mem {cs : List Char} (h : '.' ∉ cs) :
    splitLastChars cs = ([], cs) := by
  cases cs with
  | nil => rfl
  | cons c r =>
    simp only [List.mem_cons, not_or] at h
    simp [splitLastChars, h.2, Ne.symm h.1]

theorem splitLastChars_append_dot {a b : List Char} (h : '.' ∉ b) :
    splitLastChars (a ++ '.' :: b) = (a, b) := by
  induction a with
  | nil => simp [splitLastChars, h]
  | cons c a ih => simp [splitLastChars, ih]

theorem splitFirstChars_eq_none_iff {cs : List Char} : splitFirstChars cs = none ↔ '.' ∉ cs := by
  induction cs with
  | nil => simp [splitFirstChars]
  | cons c r ih =>
    by_cases h : c = '.'
    · simp [splitFirstChars, h]
    · simp [splitFirstChars, h, ih, Ne.symm h]

end SourceOutline.Dotted
