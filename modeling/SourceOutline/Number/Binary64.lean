/-!
# Binary64 numbers

A binary64 number as its 64 bits, so that equality is decidable and `-0.0` differs from `0.0`.

* `ofRatio` rounds a quotient of natural numbers to the nearest number, a tie to the even one;
  `ofDecimal` does so for `m · 10^e`.
* `magnitude?` gives a finite number back as `m · 2^q`, `toInt?` as an integer if it is one.
-/

namespace SourceOutline

/-- A binary64 number, by its bits. -/
structure Binary64 where
  bits : Nat
  deriving DecidableEq, Repr

namespace Binary64

/-- The bits of positive infinity; larger patterns below the sign bit are not numbers. -/
def infinityBits : Nat := 0x7FF * Nat.pow 2 52

/-- The sign bit. -/
def signBit : Nat := Nat.pow 2 63

/-- A pattern that is not a number. -/
def nan : Binary64 := ⟨infinityBits + Nat.pow 2 51⟩

/-- Adds the sign to a pattern without one. -/
def withSign (negative : Bool) (bits : Nat) : Binary64 :=
  ⟨if negative then bits + signBit else bits⟩

/-- Infinity of either sign. -/
def infinity (negative : Bool) : Binary64 :=
  withSign negative infinityBits

/-- The sign bit is set. -/
def isNegative (x : Binary64) : Bool :=
  signBit ≤ x.bits

/-- The bits without the sign. -/
def unsigned (x : Binary64) : Nat :=
  x.bits % signBit

/-- A quotient rounded to the nearest integer, a tie to the even one. -/
def roundDiv (num den : Nat) : Nat :=
  let q := num / den
  let r := num % den
  if 2 * r > den ∨ (2 * r = den ∧ q % 2 = 1) then q + 1 else q

/-- The exponent `q ≥ -1074` at which `num / den` has 53 binary digits before the point, or fewer
at `-1074`. -/
def scale (num den : Nat) : Int :=
  let guess : Int := (Nat.log2 num : Int) - (Nat.log2 den : Int) - 52
  let small : Bool :=
    if 0 ≤ guess then num < den * Nat.pow 2 (guess.toNat + 52)
    else num * Nat.pow 2 (-guess).toNat < den * Nat.pow 2 52
  max (-1074) (if small then guess - 1 else guess)

/-- The unsigned bits of the number nearest to `num / den`. -/
def ratioBits (num den : Nat) : Nat :=
  if num = 0 then 0
  else
    let q := scale num den
    let m :=
      if 0 ≤ q then roundDiv num (den * Nat.pow 2 q.toNat) else roundDiv (num * Nat.pow 2 (-q).toNat) den
    min infinityBits ((q + 1074).toNat * Nat.pow 2 52 + m)

/-- The number nearest to a quotient. -/
def ofRatio (negative : Bool) (num den : Nat) : Binary64 :=
  withSign negative (ratioBits num den)

/-- The number nearest to `m · 10^e`. Exponents far out of range are not computed. -/
def ofDecimal (negative : Bool) (m : Nat) (e : Int) : Binary64 :=
  if m = 0 then withSign negative 0
  else if 0 ≤ e then
    if e > 400 then infinity negative else ofRatio negative (m * Nat.pow 10 e.toNat) 1
  else if -e > 400 + (Nat.log2 m : Int) then withSign negative 0
  else ofRatio negative m (Nat.pow 10 (-e).toNat)

/-- A finite number is `m · 2^q`, up to its sign. -/
def magnitude? (x : Binary64) : Option (Nat × Int) :=
  let u := x.unsigned
  if infinityBits ≤ u then none
  else if u < Nat.pow 2 52 then some (u, -1074)
  else some (Nat.pow 2 52 + u % Nat.pow 2 52, (u / Nat.pow 2 52 : Nat) - 1075)

/-- The integer that a number is equal to, if any. -/
def toInt? (x : Binary64) : Option Int :=
  match x.magnitude? with
  | none => none
  | some (m, q) =>
    let n? : Option Nat :=
      if 0 ≤ q then some (m * Nat.pow 2 q.toNat)
      else if m % Nat.pow 2 (-q).toNat = 0 then some (m / Nat.pow 2 (-q).toNat)
      else none
    n?.map fun n => if x.isNegative then -(n : Int) else n

example : ofDecimal false 1 (-1) = ⟨0x3FB999999999999A⟩ := by decide +kernel
example : ofDecimal false 5 (-324) = ⟨1⟩ := by decide +kernel
example : ofDecimal true 3 0 = ⟨0xC008000000000000⟩ := by decide +kernel
example : (ofDecimal false 25 1).toInt? = some 250 := by decide +kernel
example : (ofDecimal false 25 (-1)).toInt? = none := by decide +kernel

end Binary64

end SourceOutline
