/-!
# Character ranges

A class of characters given as a list of inclusive code point ranges, or of strided runs in which
every `step`-th code point belongs.
-/

namespace SourceOutline.Text

/-- Inclusive code point ranges. -/
abbrev Ranges := List (Nat × Nat)

/-- Some range holds the character. -/
def Ranges.holds (rs : Ranges) (c : Char) : Bool :=
  rs.any fun r => r.1 ≤ c.toNat && c.toNat ≤ r.2

theorem Ranges.holds_iff {rs : Ranges} {c : Char} :
    rs.holds c ↔ ∃ r ∈ rs, r.1 ≤ c.toNat ∧ c.toNat ≤ r.2 := by
  simp [Ranges.holds]

/-- The code points `first`, `first + step`, … up to `last`. -/
structure Run where
  first : Nat
  last : Nat
  step : Nat

/-- The run holds the character. -/
def Run.holds (r : Run) (c : Char) : Bool :=
  r.first ≤ c.toNat && c.toNat ≤ r.last && (c.toNat - r.first) % r.step == 0

end SourceOutline.Text
