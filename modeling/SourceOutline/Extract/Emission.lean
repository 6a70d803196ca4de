/-!
# Emissions

A pass that emits values one after another and may stop at a failure. What was emitted before the
failure is kept.
-/

namespace SourceOutline

/-- Emitted values, and the failure that ended the pass, if any. -/
structure Emission (ε α : Type) where
  emitted : List α := []
  failure : Option ε := none

namespace Emission

variable {ε α : Type}

/-- One value, or one failure. -/
def ofExcept : Except ε α → Emission ε α
  | .ok a => { emitted := [a] }
  | .error e => { failure := some e }

/-- One pass after another; the second does not begin if the first one fails. -/
def append (p q : Emission ε α) : Emission ε α :=
  match p.failure with
  | some _ => p
  | none => ⟨p.emitted ++ q.emitted, q.failure⟩

/-- All emitted values, or the failure. -/
def result (p : Emission ε α) : Except ε (List α) :=
  match p.failure with
  | some e => .error e
  | none => .ok p.emitted

theorem result_append (p q : Emission ε α) :
    (p.append q).result = p.result >>= fun a => q.result.map (a ++ ·) := by
  cases h : p.failure with
  | some e => simp [append, result, h, bind, Except.bind]
  | none => cases h' : q.failure <;> simp [append, result, h, h', bind, Except.bind, Except.map]

end Emission

end SourceOutline
