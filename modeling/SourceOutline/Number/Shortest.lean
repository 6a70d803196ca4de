import SourceOutline.Number.Binary64

/-!
# Shortest decimals

The decimal with the fewest digits that reads back as a given binary64 number, and its text.

* `digits` finds the decimal: for each number of digits it tests the two neighbours of the number
  on that decimal grid, and of two that read back it takes the nearer.
* `text` writes it: positional for exponents from -4 to 15, always with a decimal point, and
  otherwise with an exponent of at least two digits.
-/

namespace SourceOutline.Shortest

open Binary64

/-- The decimal point position: the `p` with `10^(p-1) ≤ m · 2^q < 10^p`, found from `start`
upwards. -/
def pointFrom (num den : Nat) : Nat → Int → Int
  | 0, p => p
  | fuel + 1, p =>
    let below : Bool :=
      if 0 ≤ p then num < den * Nat.pow 10 p.toNat else num * Nat.pow 10 (-p).toNat < den
    if below then p else pointFrom num den fuel (p + 1)

/-- Of the two neighbours of `num / den` among the multiples of `10^e`, the nearer one that reads
back as `bits`. -/
def onGrid? (bits num den : Nat) (e : Int) : Option Nat :=
  let n := if 0 ≤ e then num else num * Nat.pow 10 (-e).toNat
  let d := if 0 ≤ e then den * Nat.pow 10 e.toNat else den
  let low := n / d
  let back (m : Nat) : Bool := (ofDecimal false m e).bits == bits
  let nearerLow : Bool := 2 * (n % d) < d || (2 * (n % d) == d && low % 2 == 0)
  let first := if nearerLow then low else low + 1
  let second := if nearerLow then low + 1 else low
  if back first then some first
  else if back second then some second
  else none

/-- Tries 1, 2, … digits; seventeen always suffice. -/
def search (bits num den : Nat) (p : Int) : Nat → Nat → Nat × Int
  | 0, k => (num / den, k)
  | fuel + 1, k =>
    let e := p - (k : Int)
    match onGrid? bits num den e with
    | some m => (m, e)
    | none => search bits num den p fuel (k + 1)

/-- The decimal `m · 10^e` with the fewest digits that reads back as the positive number
`m · 2^q` with these bits. -/
def digits (bits m : Nat) (q : Int) : Nat × Int :=
  let num := if 0 ≤ q then m * Nat.pow 2 q.toNat else m
  let den := if 0 ≤ q then 1 else Nat.pow 2 (-q).toNat
  search bits num den (pointFrom num den 700 (-330)) 17 1

/-- Digits with the point after the first `p` of them, filled up with zeros. -/
def positional (ds : List Char) (p : Int) : List Char :=
  if p ≤ 0 then '0' :: '.' :: List.replicate (-p).toNat '0' ++ ds
  else if ds.length ≤ p.toNat then
    ds ++ List.replicate (p.toNat - ds.length) '0' ++ ['.', '0']
  else ds.take p.toNat ++ '.' :: ds.drop p.toNat

/-- Digits with the point after the first one, and an exponent. -/
def scientific (ds : List Char) (exponent : Int) : List Char :=
  let mantissa :=
    match ds with
    | d :: r@(_ :: _) => d :: '.' :: r
    | _ => ds
  let size := Nat.toDigits 10 exponent.natAbs
  mantissa ++ ['e', if exponent < 0 then '-' else '+']
    ++ (if size.length < 2 then '0' :: size else size)

/-- The text of a positive decimal `m · 10^e`. -/
def decimalText (m : Nat) (e : Int) : List Char :=
  let all := Nat.toDigits 10 m
  let ds := (all.reverse.dropWhile (· = '0')).reverse
  let p : Int := all.length + e
  if -4 < p ∧ p ≤ 16 then positional ds p else scientific ds (p - 1)

/-- The text of a number. -/
def text (x : Binary64) : String :=
  let sign := if x.isNegative then "-" else ""
  match x.magnitude? with
  | none => if x.unsigned = infinityBits then sign ++ "inf" else "nan"
  | some (0, _) => sign ++ "0.0"
  | some (m, q) =>
    let d := digits x.unsigned m q
    sign ++ String.ofList (decimalText d.1 d.2)

end SourceOutline.Shortest
