import Mathlib.Data.List.Forall2

/-!
# Lists with more items

`Gains R P as bs` says that `bs` has items related to those of `as` in the same order, and further items with a
property among them.

* `Gains.flatMap`, `Gains.map`, `Gains.filter`: what is made of the items of both lists.
* `Gains.forall₂_flatMap`, `Gains.flatMap_eq`, `Gains.any_eq`, `Gains.forall₂_filter`: if further items give
  nothing, the longer list gives what the other one does.
* `Gains.getLast?_cases`: the last item of the longer list.
-/

namespace SourceOutline.Node

/-- The longer list has more items, with a property, and related items for the others. -/
inductive Gains {α β : Type} (R : α → β → Prop) (P : β → Prop) : List α → List β → Prop
  | nil : Gains R P [] []
  | keep {a : α} {b : β} {as : List α} {bs : List β} : R a b → Gains R P as bs → Gains R P (a :: as) (b :: bs)
  | gain {b : β} {as : List α} {bs : List β} : P b → Gains R P as bs → Gains R P as (b :: bs)

namespace Gains

variable {α β : Type} {R : α → β → Prop} {P : β → Prop} {as as' : List α} {bs bs' : List β}

theorem of_forall₂ (h : List.Forall₂ R as bs) : Gains R P as bs := by
  induction h with
  | nil => exact .nil
  | cons hab _ ih => exact .keep hab ih

theorem append (h : Gains R P as bs) (h' : Gains R P as' bs') : Gains R P (as ++ as') (bs ++ bs') := by
  induction h with
  | nil => exact h'
  | keep hab _ ih => exact .keep hab ih
  | gain hb _ ih => exact .gain hb ih

theorem of_forall (h : ∀ b ∈ bs, P b) : Gains R P [] bs := by
  induction bs with
  | nil => exact .nil
  | cons b bs ih =>
    exact .gain (h b List.mem_cons_self) (ih fun x hx => h x (List.mem_cons_of_mem _ hx))

/-- Every further item gives further items only. -/
theorem flatMap {γ δ : Type} {S : γ → δ → Prop} {Q : δ → Prop} {f : α → List γ} {g : β → List δ}
    (h : Gains R P as bs) (hgain : ∀ b, P b → ∀ d ∈ g b, Q d)
    (hkeep : ∀ a ∈ as, ∀ b, R a b → Gains S Q (f a) (g b)) : Gains S Q (as.flatMap f) (bs.flatMap g) := by
  induction h with
  | nil => exact .nil
  | keep hab _ ih =>
    rw [List.flatMap_cons, List.flatMap_cons]
    exact (hkeep _ List.mem_cons_self _ hab).append (ih fun a ha => hkeep a (List.mem_cons_of_mem _ ha))
  | @gain b as bs hb _ ih =>
    rw [List.flatMap_cons]
    exact (of_forall (hgain b hb)).append (ih hkeep)

theorem any_eq {p : α → Bool} {q : β → Bool} (h : Gains R P as bs) (hgain : ∀ b, P b → q b = false)
    (hkeep : ∀ a ∈ as, ∀ b, R a b → p a = q b) : as.any p = bs.any q := by
  induction h with
  | nil => rfl
  | keep hab _ ih =>
    rw [List.any_cons, List.any_cons, hkeep _ List.mem_cons_self _ hab,
      ih fun a ha => hkeep a (List.mem_cons_of_mem _ ha)]
  | gain hb _ ih =>
    rw [List.any_cons, hgain _ hb, Bool.false_or]
    exact ih hkeep

theorem any_imp {p : α → Bool} {q : β → Bool} (h : Gains R P as bs) (hkeep : ∀ a b, R a b → q b = p a) :
    as.any p = true → bs.any q = true := by
  induction h with
  | nil => exact id
  | keep hab _ ih =>
    rw [List.any_cons, List.any_cons, hkeep _ _ hab, Bool.or_eq_true, Bool.or_eq_true]
    exact Or.imp_right ih
  | gain _ _ ih =>
    intro hany
    rw [List.any_cons, ih hany, Bool.or_true]

/-- If further items give nothing, and related ones related things, then so do the lists. -/
theorem forall₂_flatMap {γ δ : Type*} {S : γ → δ → Prop} {f : α → List γ} {g : β → List δ}
    (h : Gains R P as bs) (hgain : ∀ b, P b → g b = [])
    (hkeep : ∀ a ∈ as, ∀ b, R a b → List.Forall₂ S (f a) (g b)) :
    List.Forall₂ S (as.flatMap f) (bs.flatMap g) := by
  induction h with
  | nil => exact .nil
  | keep hab _ ih =>
    rw [List.flatMap_cons, List.flatMap_cons]
    exact List.rel_append (hkeep _ List.mem_cons_self _ hab) (ih fun a ha => hkeep a (List.mem_cons_of_mem _ ha))
  | gain hb _ ih =>
    rw [List.flatMap_cons, hgain _ hb, List.nil_append]
    exact ih hkeep

theorem flatMap_eq {γ : Type*} {f : α → List γ} {g : β → List γ} (h : Gains R P as bs)
    (hgain : ∀ b, P b → g b = []) (hkeep : ∀ a ∈ as, ∀ b, R a b → f a = g b) :
    as.flatMap f = bs.flatMap g := by
  rw [← List.forall₂_eq_eq_eq]
  exact h.forall₂_flatMap hgain fun a ha b hab => by rw [hkeep a ha b hab, List.forall₂_eq_eq_eq]

/-- What further items are filtered out of is the same. -/
theorem forall₂_filter {p : α → Bool} {q : β → Bool} (h : Gains R P as bs) (hgain : ∀ b, P b → q b = false)
    (hkeep : ∀ a b, R a b → p a = q b) : List.Forall₂ R (as.filter p) (bs.filter q) := by
  induction h with
  | nil => exact .nil
  | @keep a b _ _ hab _ ih =>
    rw [List.filter_cons, List.filter_cons, hkeep a b hab]
    split
    · exact .cons hab ih
    · exact ih
  | @gain b _ _ hb _ ih =>
    rw [List.filter_cons, hgain b hb]
    exact ih

theorem map {γ δ : Type} {S : γ → δ → Prop} {Q : δ → Prop} {f : α → γ} {g : β → δ}
    (h : Gains R P as bs) (hgain : ∀ b, P b → Q (g b)) (hkeep : ∀ a b, R a b → S (f a) (g b)) :
    Gains S Q (as.map f) (bs.map g) := by
  induction h with
  | nil => exact .nil
  | keep hab _ ih => exact .keep (hkeep _ _ hab) ih
  | gain hb _ ih => exact .gain (hgain _ hb) ih

theorem filter {P : α → Prop} {as bs : List α} (h : Gains (· = ·) P as bs) (p : α → Bool) :
    Gains (· = ·) P (as.filter p) (bs.filter p) := by
  induction h with
  | nil => exact .nil
  | keep hab _ ih =>
    subst hab
    rw [List.filter_cons, List.filter_cons]
    split
    · exact .keep rfl ih
    · exact ih
  | gain hb _ ih =>
    rw [List.filter_cons]
    split
    · exact .gain hb ih
    · exact ih

/-- The last item of the longer list is the last one of the other list, or one of the further items. -/
theorem getLast?_cases {P : α → Prop} {as bs : List α} (h : Gains (· = ·) P as bs) :
    bs.getLast? = as.getLast? ∨ ∃ b, bs.getLast? = some b ∧ P b := by
  induction h with
  | nil => exact .inl rfl
  | keep hab _ ih =>
    subst hab
    rw [List.getLast?_cons, List.getLast?_cons]
    rcases ih with ih | ⟨b, hb, hp⟩
    · exact .inl (by rw [ih])
    · exact .inr ⟨b, by rw [hb]; rfl, hp⟩
  | @gain b as bs hb _ ih =>
    rw [List.getLast?_cons]
    rcases ih with ih | ⟨b', hb', hp⟩
    -- a further item is the last one if nothing follows it
    · cases has : as.getLast? with
      | none => exact .inr ⟨b, by rw [ih, has]; rfl, hb⟩
      | some a => exact .inl (by rw [ih, has]; rfl)
    · exact .inr ⟨b', by rw [hb']; rfl, hp⟩

/-- Outcomes for the items of two lists are put together to the same, if further items add nothing. -/
theorem flatten_mapM_eq {ε γ : Type} {f : α → Except ε (List γ)} {g : β → Except ε (List γ)}
    (h : Gains R P as bs) (hgain : ∀ b, P b → g b = .ok []) (hkeep : ∀ a ∈ as, ∀ b, R a b → f a = g b) :
    (as.mapM f).map List.flatten = (bs.mapM g).map List.flatten := by
  have hcons : ∀ (x : Except ε (List γ)) (y : Except ε (List (List γ))),
      (x >>= fun l => y >>= fun ls => pure (l :: ls)).map List.flatten =
        x >>= fun l => y.map List.flatten >>= fun ls => pure (l ++ ls) := by
    intro x y
    cases x <;> cases y <;> rfl
  induction h with
  | nil => rfl
  | @keep a b as bs hab _ ih =>
    rw [List.mapM_cons, List.mapM_cons, hcons, hcons, hkeep a List.mem_cons_self b hab,
      ih fun a ha => hkeep a (List.mem_cons_of_mem _ ha)]
  | @gain b as bs hb _ ih =>
    rw [List.mapM_cons, hcons, hgain b hb, ← ih hkeep]
    cases (as.mapM f).map List.flatten <;> rfl

end Gains

end SourceOutline.Node
