/-!
# UTF-8

Texts as bytes and back.

* `encode` writes each character with one to four bytes.
* `readOne` reads one character or meets one fault; a fault covers the longest start of a
  character that the bytes hold.
* `decodeLossy` puts U+FFFD for each fault; `decode?` stops at the first fault and tells what and
  where it is.
-/

namespace SourceOutline.Utf8

/-- The bytes of one character. -/
def encodeChar (c : Char) : List UInt8 :=
  let n := c.toNat
  if n < 0x80 then [n.toUInt8]
  else if n < 0x800 then [(0xC0 + n / 64).toUInt8, (0x80 + n % 64).toUInt8]
  else if n < 0x10000 then
    [(0xE0 + n / 4096).toUInt8, (0x80 + n / 64 % 64).toUInt8, (0x80 + n % 64).toUInt8]
  else
    [(0xF0 + n / 262144).toUInt8, (0x80 + n / 4096 % 64).toUInt8, (0x80 + n / 64 % 64).toUInt8,
      (0x80 + n % 64).toUInt8]

/-- The bytes of a text. -/
def encode (cs : List Char) : List UInt8 :=
  cs.flatMap encodeChar

/-- What is wrong with a sequence of bytes. -/
inductive Fault where
  /-- The byte starts no character. -/
  | badStart
  /-- A byte does not continue the character that was started. -/
  | badContinuation
  /-- The bytes end inside a character. -/
  | cutShort
  deriving DecidableEq, Repr

/-- The wording of a fault. -/
def Fault.reason : Fault → String
  | .badStart => "invalid start byte"
  | .badContinuation => "invalid continuation byte"
  | .cutShort => "unexpected end of data"

/-- How a first byte goes on: the bytes that follow, the range of the next one, the value so far. -/
structure Lead where
  following : Nat
  low : UInt8 := 0x80
  high : UInt8 := 0xBF
  value : Nat

/-- What a first byte announces. Overlong forms, surrogates and values past U+10FFFF are ruled
out by the range of the second byte. -/
def lead? (b : UInt8) : Option Lead :=
  if b < 0x80 then some { following := 0, value := b.toNat }
  else if b < 0xC2 then none
  else if b < 0xE0 then some { following := 1, value := b.toNat - 0xC0 }
  else if b = 0xE0 then some { following := 2, low := 0xA0, value := 0 }
  else if b = 0xED then some { following := 2, high := 0x9F, value := 0xD }
  else if b < 0xF0 then some { following := 2, value := b.toNat - 0xE0 }
  else if b = 0xF0 then some { following := 3, low := 0x90, value := 0 }
  else if b < 0xF4 then some { following := 3, value := b.toNat - 0xF0 }
  else if b = 0xF4 then some { following := 3, high := 0x8F, value := 4 }
  else none

/-- Reads `n` continuation bytes, the first of them from `low` to `high`. -/
def readRest : Nat → UInt8 → UInt8 → Nat → List UInt8 → Except Fault Char × List UInt8
  | 0, _, _, value, bs => (.ok (Char.ofNat value), bs)
  | _ + 1, _, _, _, [] => (.error .cutShort, [])
  | n + 1, low, high, value, b :: bs =>
    if low ≤ b ∧ b ≤ high then readRest n 0x80 0xBF (value * 64 + (b.toNat - 0x80)) bs
    else (.error .badContinuation, b :: bs)

/-- Reads one character or one fault, and gives the bytes after it. -/
def readOne (b : UInt8) (bs : List UInt8) : Except Fault Char × List UInt8 :=
  match lead? b with
  | none => (.error .badStart, bs)
  | some l => readRest l.following l.low l.high l.value bs

theorem readRest_length_le (n : Nat) (low high : UInt8) (value : Nat) (bs : List UInt8) :
    (readRest n low high value bs).2.length ≤ bs.length := by
  induction n generalizing low high value bs with
  | zero => simp [readRest]
  | succ n ih =>
    cases bs with
    | nil => simp [readRest]
    | cons b bs =>
      rw [readRest]
      split
      · exact Nat.le_succ_of_le (ih ..)
      · simp

theorem readOne_length_le (b : UInt8) (bs : List UInt8) :
    (readOne b bs).2.length ≤ bs.length := by
  unfold readOne
  split
  · exact Nat.le_refl _
  · exact readRest_length_le ..

/-- Reads a text, with U+FFFD for each fault. -/
def decodeLossy : List UInt8 → List Char
  | [] => []
  | b :: bs =>
    let r := readOne b bs
    (match r.1 with
      | .ok c => c
      | .error _ => '\uFFFD') :: decodeLossy r.2
termination_by bs => bs.length
decreasing_by
  have := readOne_length_le b bs
  simp only [List.length_cons]
  omega

/-- Where a text is not UTF-8. -/
structure Misfit where
  fault : Fault
  /-- Offset of the first byte of the fault. -/
  start : Nat
  /-- Offset after its last byte. -/
  stop : Nat
  /-- The first byte. -/
  byte : UInt8
  deriving DecidableEq, Repr

/-- Reads a text that starts at offset `at_`, up to the first fault. -/
def decodeFrom (at_ : Nat) : List UInt8 → Except Misfit (List Char)
  | [] => .ok []
  | b :: bs =>
    let r := readOne b bs
    let next := at_ + 1 + (bs.length - r.2.length)
    match r.1 with
    | .error f => .error ⟨f, at_, next, b⟩
    | .ok c => (decodeFrom next r.2).map (c :: ·)
termination_by bs => bs.length
decreasing_by
  have := readOne_length_le b bs
  simp only [List.length_cons]
  omega

/-- Reads a text, or tells where it is not UTF-8. -/
def decode? (bs : List UInt8) : Except Misfit (List Char) :=
  decodeFrom 0 bs

/-- Two lower-case hexadecimal digits. -/
def hexByte (b : UInt8) : String :=
  String.ofList [Nat.digitChar (b.toNat / 16), Nat.digitChar (b.toNat % 16)]

/-- The wording of a misfit. -/
def Misfit.message (m : Misfit) : String :=
  if m.stop = m.start + 1 then
    s!"'utf-8' codec can't decode byte 0x{hexByte m.byte} in position {m.start}: {m.fault.reason}"
  else
    s!"'utf-8' codec can't decode bytes in position {m.start}-{m.stop - 1}: {m.fault.reason}"

end SourceOutline.Utf8
