import SourceOutline.Json.Basic

/-!
# Reading JSON

`Json.parse?` reads a whole text. Blanks are the space, the tab and the two line ends; a control
character inside a string must be escaped; an escaped surrogate must be one half of a pair; `NaN`
and the infinities are numbers; of a key given twice the last value counts.
-/

namespace SourceOutline.Json

/-- A blank of the format. -/
def isGap (c : Char) : Bool :=
  c = ' ' || c = '\t' || c = '\n' || c = '\r'

/-- Drops the blanks at the front. -/
def skipGaps (cs : List Char) : List Char :=
  cs.dropWhile isGap

/-- The value of a hexadecimal digit. -/
def hexDigit? (c : Char) : Option Nat :=
  if c.isDigit then some (c.toNat - '0'.toNat)
  else if 'a' ≤ c ∧ c ≤ 'f' then some (c.toNat - 'a'.toNat + 10)
  else if 'A' ≤ c ∧ c ≤ 'F' then some (c.toNat - 'A'.toNat + 10)
  else none

/-- The value of four hexadecimal digits, and what follows them. -/
def readUnit? : List Char → Option (Nat × List Char)
  | a :: b :: c :: d :: r => do
    let a ← hexDigit? a
    let b ← hexDigit? b
    let c ← hexDigit? c
    let d ← hexDigit? d
    some (((a * 16 + b) * 16 + c) * 16 + d, r)
  | _ => none

/-- The character that a unit stands for, alone or with the unit after it. -/
def readUnicode? (cs : List Char) : Option (Char × List Char) :=
  match readUnit? cs with
  | none => none
  | some (u, r) =>
    if u < 0xD800 ∨ 0xE000 ≤ u then some (Char.ofNat u, r)
    else if 0xDC00 ≤ u then none
    else
      match r with
      | '\\' :: 'u' :: r' =>
        match readUnit? r' with
        | none => none
        | some (v, r'') =>
          if 0xDC00 ≤ v ∧ v < 0xE000 then
            some (Char.ofNat (0x10000 + (u - 0xD800) * 0x400 + (v - 0xDC00)), r'')
          else none
      | _ => none

/-- The character written by an escape, and what follows it. -/
def readEscape? : List Char → Option (Char × List Char)
  | [] => none
  | c :: r =>
    if c = 'u' then readUnicode? r
    else if c = '"' ∨ c = '\\' ∨ c = '/' then some (c, r)
    else if c = 'b' then some ('\x08', r)
    else if c = 'f' then some ('\x0c', r)
    else if c = 'n' then some ('\n', r)
    else if c = 'r' then some ('\r', r)
    else if c = 't' then some ('\t', r)
    else none

theorem readUnit?_length {cs r : List Char} {u : Nat} (h : readUnit? cs = some (u, r)) :
    r.length < cs.length := by
  unfold readUnit? at h
  split at h
  · simp only [Option.bind_eq_bind, Option.bind_eq_some_iff, Option.some.injEq, Prod.mk.injEq] at h
    obtain ⟨_, _, _, _, _, _, _, _, _, rfl⟩ := h
    simp only [List.length_cons]
    omega
  · simp at h

theorem readUnicode?_length {cs r : List Char} {c : Char} (h : readUnicode? cs = some (c, r)) :
    r.length < cs.length := by
  unfold readUnicode? at h
  split at h
  · simp at h
  · rename_i u r₁ h₁
    have hlt := readUnit?_length h₁
    split at h
    · simp only [Option.some.injEq, Prod.mk.injEq] at h
      exact h.2 ▸ hlt
    · split at h
      · simp at h
      · split at h
        · split at h
          · simp at h
          · rename_i h₂
            have hlt₂ := readUnit?_length h₂
            split at h
            · simp only [Option.some.injEq, Prod.mk.injEq] at h
              obtain ⟨_, rfl⟩ := h
              simp only [List.length_cons] at hlt
              omega
            · simp at h
        · simp at h

theorem readEscape?_length {cs r : List Char} {c : Char} (h : readEscape? cs = some (c, r)) :
    r.length < cs.length := by
  cases cs with
  | nil => simp [readEscape?] at h
  | cons d s =>
    rw [List.length_cons]
    simp only [readEscape?] at h
    by_cases hu : d = 'u'
    · rw [if_pos hu] at h
      have := readUnicode?_length h
      omega
    · rw [if_neg hu] at h
      have hr : r = s := by grind
      simp [hr]

/-- Reads a string after its opening quote, up to and with the closing one. -/
def readString? : List Char → Option (List Char × List Char)
  | [] => none
  | c :: r =>
    if c = '"' then some ([], r)
    else if c = '\\' then
      match _h : readEscape? r with
      | none => none
      | some (d, r') => (readString? r').map fun p => (d :: p.1, p.2)
    else if c.toNat < 0x20 then none
    else (readString? r).map fun p => (c :: p.1, p.2)
termination_by cs => cs.length
decreasing_by
  · have := readEscape?_length _h
    simp only [List.length_cons]
    omega
  · simp

/-- The digits at the front, and what follows them. -/
def readDigits (cs : List Char) : List Char × List Char :=
  (cs.takeWhile Char.isDigit, cs.dropWhile Char.isDigit)

/-- The value of decimal digits. -/
def digitsValue (ds : List Char) : Nat :=
  ds.foldl (fun n d => n * 10 + (d.toNat - '0'.toNat)) 0

/-- The fraction digits after a number's whole part: none if no point follows. -/
def readFraction? : List Char → Option (List Char × List Char)
  | '.' :: r =>
    match readDigits r with
    | ([], _) => none
    | p => some p
  | r => some ([], r)

/-- The exponent of a number, if one follows. -/
def readExponent? (cs : List Char) : Option (Option Int × List Char) :=
  match cs with
  | c :: r =>
    if c = 'e' ∨ c = 'E' then
      let negative := r.head? = some '-'
      let r := if negative ∨ r.head? = some '+' then r.drop 1 else r
      match readDigits r with
      | ([], _) => none
      | (ds, r') => some (some (if negative then -(digitsValue ds : Int) else digitsValue ds), r')
    else some (none, cs)
  | [] => some (none, cs)

/-- Reads a number without its sign. A number with a fraction or an exponent is a binary64
number. -/
def readNumber? (negative : Bool) (cs : List Char) : Option (Json × List Char) :=
  match readDigits cs with
  | ([], _) => none
  | (ds, r) =>
    if ds.length > 1 ∧ ds.head? = some '0' then none
    else do
      let (fraction, r) ← readFraction? r
      let (exponent, r) ← readExponent? r
      if fraction.isEmpty ∧ exponent.isNone then
        some (.int (if negative then -(digitsValue ds : Int) else digitsValue ds), r)
      else
        let m := digitsValue (ds ++ fraction)
        some (.float (Binary64.ofDecimal negative m (exponent.getD 0 - fraction.length)), r)

/-- Takes a fixed word from the front. -/
def dropWord? (word : String) (cs : List Char) : Option (List Char) :=
  if word.toList.isPrefixOf cs then some (cs.drop word.length) else none

/-- Reads a word or a number. -/
def readScalar? (cs : List Char) : Option (Json × List Char) :=
  match cs with
  | [] => none
  | c :: r =>
    if c = '"' then (readString? r).map fun p => (.str (String.ofList p.1), p.2)
    else if c = 't' then (dropWord? "true" cs).map fun r => (.bool true, r)
    else if c = 'f' then (dropWord? "false" cs).map fun r => (.bool false, r)
    else if c = 'n' then (dropWord? "null" cs).map fun r => (.null, r)
    else if c = 'N' then (dropWord? "NaN" cs).map fun r => (.float Binary64.nan, r)
    else if c = 'I' then
      (dropWord? "Infinity" cs).map fun r => (.float (Binary64.infinity false), r)
    else if c = '-' then
      if r.head? = some 'I' then
        (dropWord? "Infinity" r).map fun r => (.float (Binary64.infinity true), r)
      else readNumber? true r
    else readNumber? false cs

mutual

/-- Reads one value that starts at the front. -/
def readValue? : Nat → List Char → Option (Json × List Char)
  | 0, _ => none
  | fuel + 1, cs =>
    match cs with
    | '[' :: r =>
      match skipGaps r with
      | ']' :: r => some (.arr [], r)
      | r => (readItems? fuel r).map fun p => (.arr p.1, p.2)
    | '{' :: r =>
      match skipGaps r with
      | '}' :: r => some (.obj [], r)
      | r => (readFields? fuel r).map fun p => (.obj (Table.ofPairs p.1), p.2)
    | cs => readScalar? cs

/-- Reads the items of an array up to and with its bracket. -/
def readItems? : Nat → List Char → Option (List Json × List Char)
  | 0, _ => none
  | fuel + 1, cs =>
    match readValue? fuel cs with
    | none => none
    | some (v, r) =>
      match skipGaps r with
      | ']' :: r => some ([v], r)
      | ',' :: r => (readItems? fuel (skipGaps r)).map fun p => (v :: p.1, p.2)
      | _ => none

/-- Reads the fields of an object up to and with its brace. -/
def readFields? : Nat → List Char → Option (List (String × Json) × List Char)
  | 0, _ => none
  | fuel + 1, cs =>
    match cs with
    | '"' :: r =>
      match readString? r with
      | none => none
      | some (key, r) =>
        match skipGaps r with
        | ':' :: r =>
          match readValue? fuel (skipGaps r) with
          | none => none
          | some (v, r) =>
            match skipGaps r with
            | '}' :: r => some ([(String.ofList key, v)], r)
            | ',' :: r =>
              (readFields? fuel (skipGaps r)).map fun p => ((String.ofList key, v) :: p.1, p.2)
            | _ => none
        | _ => none
    | _ => none

end

/-- Reads a whole text. Each step takes at least one character, so the length of the text bounds
their number. -/
def parse? (s : String) : Option Json :=
  let cs := skipGaps s.toList
  match readValue? (cs.length + 1) cs with
  | none => none
  | some (v, r) => if skipGaps r = [] then some v else none

end SourceOutline.Json
