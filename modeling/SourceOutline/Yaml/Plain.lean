import SourceOutline.Config.Value

/-!
# What plain scalars mean

A scalar without quotes stands for the first of these that fits: a truth value, a float, an
integer, the merge sign, null, a time, the value sign, and else a text.

* `Meaning` says which; `Plain.meaning` finds it for a text.
* `Plain.intValue?` and `Plain.floatValue` read numbers: underscores do not count, integers may be
  binary, octal or hexadecimal, and both may be counted in sixties.
-/

namespace SourceOutline.Yaml

/-- What a plain scalar is. -/
inductive Meaning where
  | bool
  | float
  | int
  /-- The sign that merges another mapping in. -/
  | merge
  | null
  | time
  /-- The sign for the value of a mapping. -/
  | self
  | text
  deriving DecidableEq

namespace Plain

/-- The words for the truth values. -/
def boolWords : List (String × Bool) :=
  ["yes", "Yes", "YES", "true", "True", "TRUE", "on", "On", "ON"].map (·, true)
    ++ ["no", "No", "NO", "false", "False", "FALSE", "off", "Off", "OFF"].map (·, false)

/-- A digit or an underscore. -/
def isDigitOrLine (c : Char) : Bool :=
  c.isDigit || c = '_'

/-- The characters after a sign. -/
def unsigned : List Char → List Char
  | '+' :: r => r
  | '-' :: r => r
  | cs => cs

/-- A minus sign comes first. -/
def isNegative (cs : List Char) : Bool :=
  cs.head? = some '-'

/-- Splits at every colon. -/
def groups (cs : List Char) : List (List Char) :=
  match cs with
  | [] => [[]]
  | c :: r =>
    if c = ':' then [] :: groups r
    else
      match groups r with
      | [] => [[c]]
      | g :: gs => (c :: g) :: gs

/-- A group of sixties: one digit, or two below 60. -/
def isSixties : List Char → Bool
  | [a] => a.isDigit
  | [a, b] => '0' ≤ a && a ≤ '5' && b.isDigit
  | _ => false

/-- An exponent with its sign. -/
def isExponent : List Char → Bool
  | c :: s :: r => (c = 'e' || c = 'E') && (s = '+' || s = '-') && r ≠ [] && r.all Char.isDigit
  | _ => false

/-- Digits, underscores, and then nothing or an exponent. -/
def isFraction (cs : List Char) : Bool :=
  let rest := cs.dropWhile isDigitOrLine
  rest = [] || isExponent rest

/-- A float. -/
def isFloat (cs : List Char) : Bool :=
  let body := unsigned cs
  let isWord (w : String) : Bool := body = w.toList
  if isWord ".inf" || isWord ".Inf" || isWord ".INF" then true
  else if cs = body && (isWord ".nan" || isWord ".NaN" || isWord ".NAN") then true
  else
    match body with
    | '.' :: d :: r => cs = body && d.isDigit && isFraction (d :: r)
    | d :: r =>
      let whole := (d :: r).takeWhile isDigitOrLine
      match (d :: r).dropWhile isDigitOrLine with
      | '.' :: fraction => d.isDigit && isFraction fraction
      | ':' :: _ =>
        match (groups (body.takeWhile (· ≠ '.'))).drop 1, body.dropWhile (· ≠ '.') with
        | g :: gs, '.' :: fraction =>
          d.isDigit && whole ≠ [] && (g :: gs).all isSixties && fraction.all isDigitOrLine
        | _, _ => false
      | _ => false
    | [] => false

/-- An integer. -/
def isInt (cs : List Char) : Bool :=
  match unsigned cs with
  | ['0'] => true
  | '0' :: 'b' :: r => r ≠ [] && r.all (· ∈ ['0', '1', '_'])
  | '0' :: 'x' :: r =>
    r ≠ [] && r.all fun c =>
      isDigitOrLine c || ('a' ≤ c && c ≤ 'f') || ('A' ≤ c && c ≤ 'F')
  | '0' :: r => r.all fun c => ('0' ≤ c && c ≤ '7') || c = '_'
  | d :: r =>
    d.isDigit && (r.dropWhile isDigitOrLine = []
      || (match groups (d :: r) with
        | first :: g :: gs => first.all isDigitOrLine && (g :: gs).all isSixties
        | _ => false))
  | [] => false

/-- The digits of a piece of a time: at least `least`, at most `most`. -/
def digits? (least most : Nat) (cs : List Char) : Option (Nat × List Char) :=
  let ds := (cs.take most).takeWhile Char.isDigit
  if ds.length < least then none
  else some (ds.foldl (fun n d => n * 10 + (d.toNat - '0'.toNat)) 0, cs.drop ds.length)

/-- The text without a character that must come first. -/
def drop? (c : Char) : List Char → Option (List Char)
  | d :: r => if c = d then some r else none
  | [] => none

/-- The numbers of a day. -/
def day? (least : Nat) (cs : List Char) : Option ((Nat × Nat × Nat) × List Char) := do
  let (y, r) ← digits? 4 4 cs
  let (m, r) ← digits? least 2 (← drop? '-' r)
  let (d, r) ← digits? least 2 (← drop? '-' r)
  return ((y, m, d), r)

/-- A time zone at the end. -/
def isZone (cs : List Char) : Bool :=
  match cs.dropWhile fun c => c = ' ' || c = '\t' with
  | [] => cs = []
  | ['Z'] => true
  | s :: r =>
    (s = '+' || s = '-') &&
      match digits? 1 2 r with
      | some (_, []) => true
      | some (_, ':' :: r) => (digits? 2 2 r).any (·.2 = [])
      | _ => false

/-- The numbers of a clock. -/
def clock? (cs : List Char) : Option (Nat × Nat × Nat) := do
  let (h, r) ← digits? 1 2 cs
  let (m, r) ← digits? 2 2 (← drop? ':' r)
  let (s, r) ← digits? 2 2 (← drop? ':' r)
  let r := match r with
    | '.' :: r => r.dropWhile Char.isDigit
    | r => r
  if isZone r then return (h, m, s) else none

/-- The numbers of a day alone, or of a day and a clock. -/
def time? (cs : List Char) : Option ((Nat × Nat × Nat) × Option (Nat × Nat × Nat)) :=
  match day? 2 cs with
  | some (d, []) => some (d, none)
  | _ => do
    let (d, r) ← day? 1 cs
    let isSpace (c : Char) : Bool := c = ' ' || c = '\t'
    let rest ← match r with
      | c :: r' =>
        if c = 'T' ∨ c = 't' then some r'
        else if isSpace c then some (r'.dropWhile isSpace)
        else none
      | [] => none
    let c ← clock? rest
    return (d, some c)

/-- The number of days of a month. -/
def monthDays (y m : Nat) : Nat :=
  if m = 2 then if y % 4 = 0 ∧ (y % 100 ≠ 0 ∨ y % 400 = 0) then 29 else 28
  else if m ∈ [4, 6, 9, 11] then 30
  else 31

/-- There is such a time. -/
def isTime (t : (Nat × Nat × Nat) × Option (Nat × Nat × Nat)) : Bool :=
  let ((y, m, d), clock) := t
  1 ≤ y && 1 ≤ m && m ≤ 12 && 1 ≤ d && d ≤ monthDays y m
    && clock.all fun (h, mi, s) => h < 24 && mi < 60 && s < 60

/-- What a plain scalar is. -/
def meaning (s : String) : Meaning :=
  let cs := s.toList
  if boolWords.any (·.1 = s) then .bool
  else if isFloat cs then .float
  else if isInt cs then .int
  else if s = "<<" then .merge
  else if s ∈ ["", "~", "null", "Null", "NULL"] then .null
  else if (time? cs).isSome then .time
  else if s = "=" then .self
  else .text

/-! ## Numbers -/

/-- The value of a digit. -/
def digitValue (c : Char) : Nat :=
  if c.isDigit then c.toNat - '0'.toNat
  else if 'a' ≤ c ∧ c ≤ 'f' then c.toNat - 'a'.toNat + 10
  else c.toNat - 'A'.toNat + 10

/-- The number that digits stand for, if there are any. -/
def natValue? (base : Nat) (ds : List Char) : Option Nat :=
  if ds = [] ∨ ds.any fun d => base ≤ digitValue d then none
  else some (ds.foldl (fun n d => n * base + digitValue d) 0)

/-- The value of an integer. -/
def intValue? (s : String) : Option Int := do
  let cs := s.toList.filter (· ≠ '_')
  let n ← match unsigned cs with
    | '0' :: 'b' :: r => natValue? 2 r
    | '0' :: 'x' :: r => natValue? 16 r
    | '0' :: d :: r => natValue? 8 (d :: r)
    | body =>
      (groups body).foldlM (fun n g => (natValue? 10 g).map (n * 60 + ·)) 0
  return if isNegative cs then -(n : Int) else n

/-- The value of a decimal float: its digits, and the exponent after them. -/
def decimalValue (negative : Bool) (cs : List Char) : Binary64 :=
  let whole := cs.takeWhile Char.isDigit
  let rest := cs.dropWhile Char.isDigit
  let fraction := (rest.drop 1).takeWhile Char.isDigit
  let exponent := (rest.drop 1).dropWhile Char.isDigit
  let e : Int := match exponent with
    | _ :: s :: r =>
      let n := (r.foldl (fun n d => n * 10 + digitValue d) 0 : Nat)
      if s = '-' then -(n : Int) else n
    | _ => 0
  let m := (whole ++ fraction).foldl (fun n d => n * 10 + digitValue d) 0
  Binary64.ofDecimal negative m (e - fraction.length)

/-- The value of a float that is counted in sixties: as a decimal number of the last group. -/
def sixtiesValue (negative : Bool) (cs : List Char) : Binary64 :=
  let fraction := (cs.dropWhile (· ≠ '.')).drop 1
  let whole := (groups (cs.takeWhile (· ≠ '.'))).foldl
    (fun n g => n * 60 + g.foldl (fun n d => n * 10 + digitValue d) 0) 0
  let m := fraction.foldl (fun n d => n * 10 + digitValue d) whole
  Binary64.ofDecimal negative m (-(fraction.length : Int))

/-- The value of a float. -/
def floatValue (s : String) : Binary64 :=
  let cs := s.toList.filter (· ≠ '_')
  let body := unsigned cs
  if body.any fun c => c = 'n' || c = 'N' then
    if body.any fun c => c = 'i' || c = 'I' then .infinity (isNegative cs) else .nan
  else if ':' ∈ body then sixtiesValue (isNegative cs) body
  else decimalValue (isNegative cs) body

end Plain

end SourceOutline.Yaml
