import SourceOutline.Proofs.Json.Values

/-!
# JSON in ASCII

A writer that keeps to ASCII gives printable characters and line feeds only, whatever stands in the
strings of the value: every other character is escaped.

Main statement: `printed_render`.
-/

namespace SourceOutline.Json

/-- Printable characters of ASCII, and line feeds. -/
def Printed (cs : List Char) : Prop :=
  ∀ c ∈ cs, c = '\n' ∨ (0x20 ≤ c.toNat ∧ c.toNat < 0x7F)

instance (cs : List Char) : Decidable (Printed cs) :=
  List.decidableBAll _ cs

theorem printed_nil : Printed [] := by simp [Printed]

theorem printed_cons {c : Char} {cs : List Char} :
    Printed (c :: cs) ↔ (c = '\n' ∨ (0x20 ≤ c.toNat ∧ c.toNat < 0x7F)) ∧ Printed cs :=
  List.forall_mem_cons

theorem printed_append {cs ds : List Char} : Printed (cs ++ ds) ↔ Printed cs ∧ Printed ds :=
  List.forall_mem_append

/-- The writer keeps to ASCII, and its separators do. -/
structure Style.Ascii (st : Style) : Prop where
  asciiOnly : st.asciiOnly = true
  comma : Printed st.comma.toList
  colon : Printed st.colon.toList

/-! ## Strings -/

section Strings

theorem printed_escapeUnit (n : Nat) : Printed (escapeUnit n) := by
  have hdigit : ∀ d < 16, 0x20 ≤ (Nat.digitChar d).toNat ∧ (Nat.digitChar d).toNat < 0x7F := by decide
  have hmod : ∀ m, 0x20 ≤ (Nat.digitChar (m % 16)).toNat ∧ (Nat.digitChar (m % 16)).toNat < 0x7F :=
    fun m => hdigit _ (Nat.mod_lt _ (by decide))
  intro c hc
  right
  simp only [escapeUnit, hex4, List.mem_cons, List.not_mem_nil, or_false] at hc
  rcases hc with rfl | rfl | rfl | rfl | rfl | rfl
  · decide
  · decide
  all_goals exact hmod _

/-- The characters with an escape of their own. -/
def shortEscaped : List Char :=
  ['"', '\\', '\x08', '\x0c', '\n', '\r', '\t']

theorem printed_escapeChar (c : Char) : Printed (escapeChar true c) := by
  by_cases hshort : c ∈ shortEscaped
  · have hall : (shortEscaped.all fun c => Printed (escapeChar true c)) = true := by decide
    exact of_decide_eq_true (List.all_eq_true.mp hall c hshort)
  · simp only [shortEscaped, List.mem_cons, List.not_mem_nil, or_false, not_or] at hshort
    obtain ⟨h1, h2, h3, h4, h5, h6, h7⟩ := hshort
    rw [escapeChar, if_neg h1, if_neg h2, if_neg h3, if_neg h4, if_neg h5, if_neg h6, if_neg h7]
    by_cases hlow : c.toNat < 0x20
    · rw [if_pos hlow]
      exact printed_escapeUnit _
    rw [if_neg hlow]
    by_cases hhigh : 0x7F ≤ c.toNat
    · rw [if_pos (by simpa using hhigh)]
      by_cases hbmp : c.toNat < 0x10000
      · rw [if_pos hbmp]
        exact printed_escapeUnit _
      · rw [if_neg hbmp]
        exact printed_append.mpr ⟨printed_escapeUnit _, printed_escapeUnit _⟩
    · rw [if_neg (by simpa using hhigh)]
      exact printed_cons.mpr ⟨.inr ⟨by omega, by omega⟩, printed_nil⟩

theorem printed_quote (s : String) : Printed (quote true s) := by
  have hinner : Printed (s.toList.flatMap (escapeChar true)) := fun d hd => by
    obtain ⟨c, -, hc⟩ := List.mem_flatMap.mp hd
    exact printed_escapeChar c d hc
  have hmark : Printed ['"'] := printed_cons.mpr ⟨.inr (by decide), printed_nil⟩
  exact printed_cons.mpr ⟨.inr (by decide), printed_append.mpr ⟨hinner, hmark⟩⟩

end Strings

/-! ## Values -/

section Values

theorem printed_break (st : Style) (depth : Nat) : Printed (st.break depth) := by
  unfold Style.break
  cases st.indent with
  | none => exact printed_nil
  | some n =>
    refine printed_cons.mpr ⟨.inl rfl, fun c hc => ?_⟩
    rw [(List.mem_replicate.mp hc).2]
    decide

variable {st : Style} (hst : st.Ascii)
include hst

theorem Style.Ascii.printed_between (depth : Nat) : Printed (st.between depth) := by
  unfold Style.between
  cases st.indent with
  | none => exact hst.comma
  | some n => exact printed_cons.mpr ⟨.inr (by decide), printed_break st depth⟩

theorem Style.Ascii.printed_key (k : String) : Printed (quote st.asciiOnly k ++ st.colon.toList) := by
  rw [hst.asciiOnly]
  exact printed_append.mpr ⟨printed_quote k, hst.colon⟩

mutual

theorem printed_renderAt : ∀ (depth : Nat) (v : Json), Plain v → Printed (renderAt st depth v)
  | _, .null, _ | _, .bool true, _ | _, .bool false, _ | _, .arr [], _ | _, .obj [], _ => by
    unfold renderAt
    decide
  | _, .str s, _ => by
    rw [renderAt, hst.asciiOnly]
    exact printed_quote s
  | depth, .arr (v :: vs), h => by
    have hv := printed_renderAt (depth + 1) v h.1
    have hvs := printed_renderItems (depth + 1) vs h.2
    have hclose : Printed [']'] := printed_cons.mpr ⟨.inr (by decide), printed_nil⟩
    rw [renderAt, printed_cons]
    refine ⟨.inr (by decide), ?_⟩
    simp only [printed_append, printed_break, hv, hvs, hclose, and_self]
  | depth, .obj ((k, v) :: fs), h => by
    have hkey := printed_append.mp (hst.printed_key k)
    have hv := printed_renderAt (depth + 1) v h.2.1
    have hfs := printed_renderFields (depth + 1) fs h.2.2
    have hclose : Printed ['\x7d'] := printed_cons.mpr ⟨.inr (by decide), printed_nil⟩
    rw [renderAt, printed_cons]
    refine ⟨.inr (by decide), ?_⟩
    simp only [printed_append, printed_break, hkey, hv, hfs, hclose, and_self]

theorem printed_renderItems : ∀ (depth : Nat) (vs : List Json), PlainItems vs →
    Printed (renderItems st depth vs)
  | _, [], _ => printed_nil
  | depth, v :: vs, h => by
    rw [renderItems, printed_append, printed_append]
    exact ⟨⟨hst.printed_between depth, printed_renderAt depth v h.1⟩, printed_renderItems depth vs h.2⟩

theorem printed_renderFields : ∀ (depth : Nat) (fs : List (String × Json)), PlainFields fs →
    Printed (renderFields st depth fs)
  | _, [], _ => printed_nil
  | depth, (k, v) :: fs, h => by
    have hkey := printed_append.mp (hst.printed_key k)
    rw [renderFields, printed_append, printed_append, printed_append, printed_append]
    exact ⟨⟨⟨⟨hst.printed_between depth, hkey.1⟩, hkey.2⟩, printed_renderAt depth v h.1⟩,
      printed_renderFields depth fs h.2⟩

end

/-- **The text of a plain value is printed in ASCII**, on one line or on several. -/
theorem printed_render {v : Json} (hv : Plain v) : Printed (render st v).toList := by
  rw [render, String.toList_ofList]
  exact printed_renderAt hst 0 v hv

end Values

theorem Printed.lt {cs : List Char} (h : Printed cs) : ∀ c ∈ cs, c.toNat < 0x80 := by
  intro c hc
  rcases h c hc with rfl | hc
  · decide
  · omega

end SourceOutline.Json
