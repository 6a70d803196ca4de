import Mathlib.Data.List.Basic
import SourceOutline.Text.Case

/-!
# Lower case

Lower case is reached in one step.

* `IsCapital`: a character that has another lower case, by the table of runs `capitals`.
* `not_isCapital_of_mem_lowerChar`: what `lowerChar` gives is no capital.
* `lower_lower`: **lower case of a text in lower case is that text.**
* `dot_mem_lowerAfter`, `dot_isPrefixOf_lowerAfter`: lower case makes no dots, and puts none at the front.

The characters of one run move by one distance, so it is enough to compare the runs with each other:
`Run.moved` is a run at its new place, and `Run.clears` says that it has no point in common with another one.
-/

namespace SourceOutline.Text

/-! ## Capitals -/

section Capitals

/-- Runs of characters with the distance to their lower case, those of ASCII included. -/
def letterShifts : List (Run × Int) :=
  (⟨0x41, 0x5A, 1⟩, 32) :: lowerShifts

/-- The characters that have another lower case; the dotted I is the only one with a longer one. -/
def capitals : List Run :=
  ⟨0x130, 0x130, 1⟩ :: letterShifts.map Prod.fst

/-- The character has another lower case. -/
def IsCapital (c : Char) : Prop :=
  ∃ r ∈ capitals, r.holds c

theorem Run.holds_iff {r : Run} {c : Char} :
    r.holds c ↔ r.first ≤ c.toNat ∧ c.toNat ≤ r.last ∧ (c.toNat - r.first) % r.step = 0 := by
  simp [Run.holds, and_assoc]

theorem not_isCapital_iff {c : Char} :
    ¬ IsCapital c ↔ c ≠ '\u0130' ∧ ∀ e ∈ letterShifts, e.1.holds c = false := by
  have hdot : Run.holds ⟨0x130, 0x130, 1⟩ c = false ↔ c ≠ '\u0130' := by
    have : c = '\u0130' ↔ c.toNat = 0x130 := Char.toNat_inj.symm
    rw [ne_eq, this, ← Bool.not_eq_true, Run.holds_iff]
    dsimp only
    omega
  simp [IsCapital, capitals, hdot]

/-- Beyond ASCII the runs are those of the table. -/
theorem shiftBy_letterShifts_of_le {c : Char} (h : 0x80 ≤ c.toNat) :
    shiftBy letterShifts c = shiftBy lowerShifts c := by
  have hc : Run.holds ⟨0x41, 0x5A, 1⟩ c = false := by
    rw [← Bool.not_eq_true, Run.holds_iff]
    dsimp only
    omega
  simp [shiftBy, letterShifts, hc]

theorem shiftBy_letterShifts_of_lt {c : Char} (h : c.toNat < 0x80) :
    shiftBy letterShifts c = c.toLower := by
  have hbeyond : ∀ e ∈ lowerShifts, 0x80 ≤ e.1.first := by decide +kernel
  have hnone : (lowerShifts.find? fun e => e.1.holds c) = none := by
    refine List.find?_eq_none.2 fun e he hc => ?_
    have hfirst := (Run.holds_iff.1 hc).1
    have := hbeyond e he
    omega
  have hascii : ∀ n : Fin 0x80, shiftBy [(⟨0x41, 0x5A, 1⟩, 32)] (Char.ofNat n)
      = (Char.ofNat n).toLower := by decide +kernel
  have hc := hascii ⟨c.toNat, h⟩
  rw [Char.ofNat_toNat] at hc
  rw [← hc]
  simp [shiftBy, letterShifts, List.find?_cons, hnone]

theorem lowerChar_of_ne {c : Char} (h : c ≠ '\u0130') : lowerChar c = [shiftBy letterShifts c] := by
  have hval : c.val < 0x80 ↔ c.toNat < 0x80 := Iff.rfl
  rw [lowerChar, if_neg h]
  split
  · rename_i hlt
    rw [shiftBy_letterShifts_of_lt (hval.1 hlt)]
  · rename_i hle
    rw [shiftBy_letterShifts_of_le (Nat.le_of_not_lt (mt hval.2 hle))]

theorem shiftBy_of_not_isCapital {c : Char} (h : ¬ IsCapital c) : shiftBy letterShifts c = c := by
  have hnone : (letterShifts.find? fun e => e.1.holds c) = none :=
    List.find?_eq_none.2 fun e he => by simp [(not_isCapital_iff.1 h).2 e he]
  rw [shiftBy, hnone]

/-- What is no capital is its own lower case. -/
theorem lowerChar_of_not_isCapital {c : Char} (h : ¬ IsCapital c) : lowerChar c = [c] := by
  rw [lowerChar_of_ne (not_isCapital_iff.1 h).1, shiftBy_of_not_isCapital h]

end Capitals

/-! ## Runs that move -/

section Clear

/-- The run with all its points moved by a distance. -/
def Run.moved (r : Run) (distance : Int) : Run :=
  ⟨(r.first + distance).toNat, (r.last + distance).toNat, r.step⟩

/-- Two runs do not meet: one ends before the other begins, or both go in steps of two and
alternate. -/
def Run.clears (r s : Run) : Bool :=
  Nat.blt r.last s.first || Nat.blt s.last r.first
    || s.step.beq 2 && (r.step.beq 2 || r.first.beq r.last) && ((r.first + s.first) % 2).beq 1

theorem Run.holds_moved {r : Run} {distance : Int} {c d : Char} (hpos : 0 ≤ r.first + distance)
    (hc : r.holds c) (hd : (d.toNat : Int) = c.toNat + distance) : (r.moved distance).holds d := by
  obtain ⟨hfirst, hlast, hstep⟩ := Run.holds_iff.1 hc
  have hsub : d.toNat - (r.first + distance).toNat = c.toNat - r.first := by omega
  refine Run.holds_iff.2 ⟨?_, ?_, ?_⟩ <;> dsimp only [Run.moved]
  · omega
  · omega
  · rw [hsub, hstep]

theorem Run.not_holds_of_clears {r s : Run} {c : Char} (h : r.clears s) (hr : r.holds c) :
    s.holds c = false := by
  obtain ⟨hfirst, hlast, hstep⟩ := Run.holds_iff.1 hr
  rw [← Bool.not_eq_true, Run.holds_iff]
  rintro ⟨hfirst', hlast', hstep'⟩
  simp only [Run.clears, Bool.or_eq_true, Bool.and_eq_true, Nat.blt_eq, Nat.beq_eq] at h
  rcases h with (h | h) | ⟨⟨h2, h | h⟩, hodd⟩
  · omega
  · omega
  · rw [h2] at hstep'
    rw [h] at hstep
    omega
  · rw [h2] at hstep'
    omega

/-- No capital moves to a capital. -/
theorem clears_capitals :
    (letterShifts.all fun e =>
      decide (0 ≤ e.1.first + e.2) && capitals.all (e.1.moved e.2).clears) = true := by
  decide +kernel

/-- The character with the number zero, which stands for those that do not exist, is no capital. -/
theorem first_capitals : ∀ r ∈ capitals, 0 < r.first := by
  decide +kernel

/-- A character stays, comes to the number zero because the new one does not exist, or moves along with
its run. -/
theorem shiftBy_cases (c : Char) :
    ((∀ e ∈ letterShifts, e.1.holds c = false) ∧ shiftBy letterShifts c = c) ∨
      (shiftBy letterShifts c).toNat = 0 ∨
      ∃ e ∈ letterShifts, (e.1.moved e.2).holds (shiftBy letterShifts c) := by
  unfold shiftBy
  split
  · rename_i e he
    have hmem := List.mem_of_find?_eq_some he
    have hholds : e.1.holds c := by simpa using List.find?_some he
    by_cases hvalid : Nat.isValidChar (c.toNat + e.2).toNat
    · have hpos := List.all_eq_true.1 clears_capitals e hmem
      rw [Bool.and_eq_true, decide_eq_true_eq] at hpos
      have hle := (Run.holds_iff.1 hholds).1
      have hnat : (Char.ofNat (c.toNat + e.2).toNat).toNat = (c.toNat + e.2).toNat := by
        rw [Char.ofNat, dif_pos hvalid]
        rfl
      exact .inr (.inr ⟨e, hmem, Run.holds_moved hpos.1 hholds (by rw [hnat]; omega)⟩)
    · refine .inr (.inl ?_)
      simp [Char.ofNat, hvalid]
  · rename_i hnone
    rw [List.find?_eq_none] at hnone
    exact .inl ⟨fun e he => by simpa using hnone e he, rfl⟩

theorem not_isCapital_shiftBy {c : Char} (h : c ≠ '\u0130') :
    ¬ IsCapital (shiftBy letterShifts c) := by
  rcases shiftBy_cases c with ⟨hnone, hsame⟩ | hzero | ⟨e, hmem, himage⟩
  · rw [hsame]
    exact not_isCapital_iff.2 ⟨h, hnone⟩
  · rintro ⟨s, hs, hd⟩
    have hfirst := (Run.holds_iff.1 hd).1
    rw [hzero] at hfirst
    exact absurd (first_capitals s hs) (by omega)
  · have hclear := List.all_eq_true.1 clears_capitals e hmem
    rw [Bool.and_eq_true, List.all_eq_true] at hclear
    rintro ⟨s, hs, hd⟩
    rw [Run.not_holds_of_clears (hclear.2 s hs) himage] at hd
    exact Bool.false_ne_true hd

end Clear

/-! ## Whole texts -/

section Texts

theorem not_isCapital_of_all {c : Char} (h : (capitals.all fun r => !r.holds c) = true) : ¬ IsCapital c := by
  rintro ⟨r, hr, hc⟩
  simpa [hc] using List.all_eq_true.mp h r hr

theorem not_isCapital_of_mem_lowerChar {c d : Char} (h : d ∈ lowerChar c) : ¬ IsCapital d := by
  by_cases hc : c = '\u0130'
  · rw [hc] at h
    have hdot : ((lowerChar '\u0130').all fun d => capitals.all fun r => !r.holds d) = true := by decide +kernel
    exact not_isCapital_of_all (List.all_eq_true.mp hdot d h)
  · rw [lowerChar_of_ne hc, List.mem_singleton] at h
    rw [h]
    exact not_isCapital_shiftBy hc

theorem not_isCapital_of_mem_lowerAfter {d : Char} :
    ∀ {cs before : List Char}, d ∈ lowerAfter before cs → ¬ IsCapital d
  | c :: cs, before, h => by
    have hsigma : ¬ IsCapital 'σ' ∧ ¬ IsCapital 'ς' :=
      ⟨not_isCapital_of_all (by decide +kernel), not_isCapital_of_all (by decide +kernel)⟩
    rw [lowerAfter, List.mem_append] at h
    rcases h with h | h
    · split at h
      · rw [List.mem_singleton] at h
        rw [h]
        split
        · exact hsigma.2
        · exact hsigma.1
      · exact not_isCapital_of_mem_lowerChar h
    · exact not_isCapital_of_mem_lowerAfter h

/-- A text without capitals is its own lower case, whatever precedes it. -/
theorem lowerAfter_of_not_isCapital :
    ∀ {cs before : List Char}, (∀ c ∈ cs, ¬ IsCapital c) → lowerAfter before cs = cs
  | [], _, _ => rfl
  | c :: cs, before, h => by
    have hc := h c List.mem_cons_self
    have hsigma : c ≠ 'Σ' := by
      rintro rfl
      have : capitals.any (·.holds 'Σ') = true := by decide +kernel
      exact hc (List.any_eq_true.1 this)
    rw [lowerAfter, if_neg hsigma, lowerChar_of_not_isCapital hc,
      lowerAfter_of_not_isCapital fun d hd => h d (List.mem_cons_of_mem _ hd)]
    rfl

theorem lower_of_not_isCapital {s : String} (h : ∀ c ∈ s.toList, ¬ IsCapital c) : lower s = s := by
  rw [lower, lowerAfter_of_not_isCapital h, String.ofList_toList]

/-- **Lower case is idempotent.** -/
@[simp] theorem lower_lower (s : String) : lower (lower s) = lower s :=
  lower_of_not_isCapital fun c hc => by
    rw [lower, String.toList_ofList] at hc
    exact not_isCapital_of_mem_lowerAfter hc

end Texts

/-! ## Dots -/

section Dots

/-- No run moves to a dot. -/
theorem dot_not_moved : (letterShifts.all fun e => !(e.1.moved e.2).holds '.') = true := by
  decide +kernel

theorem shiftBy_eq_dot_iff {c : Char} : shiftBy letterShifts c = '.' ↔ c = '.' := by
  constructor
  · intro h
    rcases shiftBy_cases c with ⟨-, hsame⟩ | hzero | ⟨e, hmem, himage⟩
    · rwa [← hsame]
    · rw [h] at hzero
      exact absurd hzero (by decide)
    · rw [h] at himage
      simpa [himage] using List.all_eq_true.1 dot_not_moved e hmem
  · rintro rfl
    rw [shiftBy_letterShifts_of_lt (by decide)]
    decide

theorem dot_mem_lowerChar {c : Char} : '.' ∈ lowerChar c ↔ c = '.' := by
  by_cases hc : c = '\u0130'
  · rw [hc]
    decide
  · rw [lowerChar_of_ne hc, List.mem_singleton, eq_comm, shiftBy_eq_dot_iff]

/-- The lower case of a character is not empty, and has a dot only if the character is one. -/
theorem exists_lowerAfter_cons (before : List Char) (c : Char) (cs : List Char) :
    ∃ d ds, lowerAfter before (c :: cs) = (d :: ds) ++ lowerAfter (c :: before) cs ∧
      ('.' ∈ d :: ds ↔ c = '.') := by
  rw [lowerAfter]
  by_cases hsigma : c = 'Σ'
  · rw [if_pos hsigma, hsigma]
    refine ⟨_, [], rfl, ?_⟩
    split <;> decide
  · rw [if_neg hsigma]
    cases hlower : lowerChar c with
    | nil =>
      by_cases hc : c = '\u0130'
      · rw [hc] at hlower
        exact absurd hlower (by decide)
      · rw [lowerChar_of_ne hc] at hlower
        cases hlower
    | cons d ds => exact ⟨d, ds, rfl, hlower ▸ dot_mem_lowerChar⟩

/-- The dots of a text are those of its lower case, whatever precedes it. -/
theorem dot_mem_lowerAfter : ∀ {cs before : List Char}, '.' ∈ lowerAfter before cs ↔ '.' ∈ cs
  | [], _ => Iff.rfl
  | c :: cs, before => by
    obtain ⟨d, ds, hlower, hdot⟩ := exists_lowerAfter_cons before c cs
    rw [hlower, List.mem_append, hdot, dot_mem_lowerAfter, List.mem_cons, eq_comm]

theorem lowerAfter_eq_nil_iff {cs before : List Char} : lowerAfter before cs = [] ↔ cs = [] := by
  cases cs with
  | nil => simp [lowerAfter]
  | cons c cs =>
    obtain ⟨d, ds, hlower, -⟩ := exists_lowerAfter_cons before c cs
    simp [hlower]

theorem lowerAfter_dot (before cs : List Char) :
    lowerAfter before ('.' :: cs) = '.' :: lowerAfter ('.' :: before) cs := by
  have hdot : lowerChar '.' = ['.'] := by decide
  rw [lowerAfter, if_neg (by decide), hdot, List.singleton_append]

/-- Lower case puts no dot at the front of a text. -/
theorem dot_isPrefixOf_lowerAfter {cs before : List Char} (h : ['.'].isPrefixOf (lowerAfter before cs) = true) :
    ['.'].isPrefixOf cs = true := by
  cases cs with
  | nil => exact h
  | cons c cs =>
    obtain ⟨d, ds, hlower, hdot⟩ := exists_lowerAfter_cons before c cs
    rw [hlower] at h
    have hd : '.' = d := by simpa [List.isPrefixOf] using h
    simp [List.isPrefixOf, hdot.mp (hd ▸ List.mem_cons_self)]

end Dots

end SourceOutline.Text
