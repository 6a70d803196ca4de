import SourceOutline.Log.Record
import SourceOutline.Text.Word

/-!
# Formats of log lines

A format is a text with fields: a percent sign, a name in round brackets, and how the value is
shown. Two percent signs stand for one.

* `Format.hasField` is the test for a format that shows anything of a record.
* `Format.line?` is the line for a record, if the format asks only for what a record has.
-/

namespace SourceOutline.Log

/-- A report with a level by number. -/
structure Event where
  channel : String
  level : Nat
  message : String
  deriving DecidableEq, Repr

/-- The level numbers that have a word. -/
def levelWords : List (Nat × String) :=
  [(0, "NOTSET"), (10, "DEBUG"), (20, "INFO"), (30, "WARNING"), (40, "ERROR"), (50, "CRITICAL")]

/-- The word for a level number. -/
def levelWord (n : Nat) : String :=
  match levelWords.find? (·.1 = n) with
  | some (_, w) => w
  | none => s!"Level {n}"

/-- A record as an event. -/
def Record.event (r : Record) : Event :=
  ⟨r.channel, r.level.rank, r.message⟩

namespace Format

/-- How a value is shown. -/
structure Spec where
  flags : List Char := []
  width : Nat := 0
  precision : Option Nat := none
  conversion : Char

/-- A digit run as a number. -/
def number (ds : List Char) : Nat :=
  ds.foldl (fun n d => n * 10 + (d.toNat - '0'.toNat)) 0

/-- A flag before the width. -/
def isFlag (c : Char) : Bool :=
  c ∈ ['#', '0', '+', ' ', '-']

/-- The letters that end a field. -/
def isConversion (c : Char) : Bool :=
  c.toLower ∈ ['d', 'i', 'o', 'u', 'x', 'e', 'f', 'g', 'c', 'r', 's', 'a'] || c = '%'

/-- Reads how a value is shown, and gives what follows. -/
def readSpec? (cs : List Char) : Option (Spec × List Char) :=
  let flags := cs.takeWhile isFlag
  let r := cs.dropWhile isFlag
  let width := r.takeWhile Char.isDigit
  let r := r.dropWhile Char.isDigit
  let (precision, r) := match r with
    | '.' :: r => (some (number (r.takeWhile Char.isDigit)), r.dropWhile Char.isDigit)
    | r => (none, r)
  match r with
  | c :: r =>
    if isConversion c then some ({ flags, width := number width, precision, conversion := c }, r)
    else none
  | [] => none

/-- Reads a field after its percent sign: its name, how it is shown, and what follows. -/
def readField? (cs : List Char) : Option (String × Spec × List Char) :=
  match cs with
  | '(' :: r =>
    let name := r.takeWhile (· ≠ ')')
    match r.drop name.length with
    | ')' :: r =>
      (readSpec? r).map fun (spec, r) => (String.ofList name, spec, r)
    | _ => none
  | _ => none

/-- What follows a number or a star, if one stands at the front. -/
def afterAmount? : List Char → Option (List Char)
  | '*' :: r => some r
  | cs => if (cs.head?.map Text.isDecimal).getD false then some (cs.dropWhile Text.isDecimal) else none

/-- A field stands at the front, after its percent sign: a word in brackets, and how it is shown,
where stars may take the place of numbers. -/
def startsField (cs : List Char) : Bool :=
  match cs with
  | '(' :: r =>
    let name := r.takeWhile Text.isWord
    match name, r.drop name.length with
    | _ :: _, ')' :: r =>
      let r := r.dropWhile isFlag
      let r := (afterAmount? r).getD r
      match r with
      | '.' :: r =>
        match afterAmount? r with
        | some (c :: _) => isConversion c
        | _ => false
      | c :: _ => isConversion c
      | [] => false
    | _, _ => false
  | _ => false

/-- There is a field whose name is a word. -/
def hasFieldChars : List Char → Bool
  | [] => false
  | c :: r => (c = '%' && startsField r) || hasFieldChars r

/-- The format shows something of a record. -/
def hasField (format : String) : Bool :=
  hasFieldChars format.toList

/-- A value: a text or a number. -/
inductive Shown where
  | text (s : String)
  | number (n : Nat)

/-- The value of a field. -/
def fieldOf? (e : Event) : String → Option Shown
  | "name" => some (.text e.channel)
  | "levelname" => some (.text (levelWord e.level))
  | "levelno" => some (.number e.level)
  | "message" => some (.text e.message)
  | "msg" => some (.text e.message)
  | _ => none

/-- Fills up to the width. -/
def pad (spec : Spec) (isNumber : Bool) (cs : List Char) : List Char :=
  let filling := spec.width - cs.length
  if '-' ∈ spec.flags then cs ++ List.replicate filling ' '
  else if isNumber ∧ '0' ∈ spec.flags then List.replicate filling '0' ++ cs
  else List.replicate filling ' ' ++ cs

/-- A value as it is shown, if it can be shown so. -/
def show? (spec : Spec) : Shown → Option (List Char)
  | .text s =>
    if spec.conversion = 's' then
      some (pad spec false (match spec.precision with
        | some n => s.toList.take n
        | none => s.toList))
    else none
  | .number n =>
    if spec.conversion ∈ ['d', 'i', 'u'] then some (pad spec true (toString n).toList)
    else if spec.conversion = 's' then some (pad spec false (toString n).toList)
    else none

/-- The characters of a line. The first argument bounds the number of fields. -/
def lineChars? (e : Event) : Nat → List Char → Option (List Char)
  | 0, _ => none
  | _ + 1, [] => some []
  | fuel + 1, '%' :: r =>
    match r with
    | '%' :: r => (lineChars? e fuel r).map ('%' :: ·)
    | r => do
      let (name, spec, r) ← readField? r
      let shown ← show? spec (← fieldOf? e name)
      return shown ++ (← lineChars? e fuel r)
  | fuel + 1, c :: r => (lineChars? e fuel r).map (c :: ·)

/-- The line for a record. -/
def line? (format : String) (e : Event) : Option String :=
  (lineChars? e (format.length + 1) format.toList).map String.ofList

end Format

end SourceOutline.Log
