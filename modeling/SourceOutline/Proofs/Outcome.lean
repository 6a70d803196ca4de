import Mathlib.Data.List.Forall2
import SourceOutline.Error.Run

/-!
# Outcomes

When an outcome that was put together from others is a success, and what the outcomes of the items of
a list say about the outcome for the list.
-/

namespace SourceOutline

theorem bind_eq_ok_iff {x : Except ε α} {f : α → Except ε β} {b : β} :
    (x >>= f) = .ok b ↔ ∃ a, x = .ok a ∧ f a = .ok b := by
  cases x <;> simp [bind, Except.bind]

theorem bind_eq_error_iff {x : Except ε α} {f : α → Except ε β} {e : ε} :
    (x >>= f) = .error e ↔ x = .error e ∨ ∃ a, x = .ok a ∧ f a = .error e := by
  cases x <;> simp [bind, Except.bind]

theorem map_eq_ok_iff {x : Except ε α} {f : α → β} {b : β} :
    x.map f = .ok b ↔ ∃ a, x = .ok a ∧ f a = b := by
  cases x <;> simp [Except.map]

theorem map_eq_error_iff {x : Except ε α} {f : α → β} {e : ε} : x.map f = .error e ↔ x = .error e := by
  cases x <;> simp [Except.map]

theorem mapError_eq_ok_iff {x : Except ε α} {f : ε → δ} {a : α} : x.mapError f = .ok a ↔ x = .ok a := by
  cases x <;> simp [Except.mapError]

theorem eq_ok_of_toOption {x : Except ε α} {a : α} (h : x.toOption = some a) : x = .ok a := by
  cases x with
  | error e => cases h
  | ok b => rw [Option.some.inj h]

theorem exists_eq_ok_of_any {x : Except ε α} {p : α → Bool} (h : x.toOption.any p = true) :
    ∃ a, x = .ok a ∧ p a = true := by
  cases x with
  | error e => cases h
  | ok a => exact ⟨a, rfl, h⟩

/-- The outcome is a failure of some kind. -/
def failsWith (p : ε → Bool) : Except ε α → Bool
  | .ok _ => false
  | .error e => p e

theorem exists_eq_error_of_failsWith {x : Except ε α} {p : ε → Bool} (h : failsWith p x = true) :
    ∃ e, x = .error e ∧ p e = true := by
  cases x with
  | error e => exact ⟨e, rfl, h⟩
  | ok a => cases h

/-- What each item shares with its outcome, a list shares with its outcomes. -/
theorem map_eq_map_of_mapM_eq_ok {f : α → Except ε β} {g : α → γ} {g' : β → γ} :
    ∀ {as : List α} {bs : List β}, (∀ a ∈ as, ∀ b, f a = .ok b → g' b = g a) →
      as.mapM f = .ok bs → bs.map g' = as.map g
  | [], bs, _, hbs => by
    obtain rfl : [] = bs := by simpa [pure, Except.pure] using hbs
    rfl
  | a :: as, bs, h, hbs => by
    rw [List.mapM_cons] at hbs
    obtain ⟨b, hb, hbs⟩ := bind_eq_ok_iff.mp hbs
    obtain ⟨bs', hbs', heq⟩ := bind_eq_ok_iff.mp hbs
    obtain rfl : b :: bs' = bs := by simpa [pure, Except.pure] using heq
    have htail := map_eq_map_of_mapM_eq_ok (fun a' ha' => h a' (List.mem_cons_of_mem _ ha')) hbs'
    rw [List.map_cons, List.map_cons, h a List.mem_cons_self b hb, htail]

/-- What each item shows of its outcome in two ways of reading it, a list shows of its outcomes. -/
theorem map_mapM_congr {f f' : α → Except ε β} {g : β → γ} {as : List α}
    (h : ∀ a ∈ as, (f' a).map g = (f a).map g) :
    (as.mapM f').map (List.map g) = (as.mapM f).map (List.map g) := by
  have hcons : ∀ (x : Except ε β) (y : Except ε (List β)),
      (x >>= fun b => y >>= fun bs => pure (b :: bs)).map (List.map g) =
        x.map g >>= fun c => y.map (List.map g) >>= fun cs => pure (c :: cs) := by
    intro x y
    cases x <;> cases y <;> rfl
  induction as with
  | nil => rfl
  | cons a as ih =>
    rw [List.mapM_cons, List.mapM_cons, hcons, hcons, h a List.mem_cons_self,
      ih fun a' ha' => h a' (List.mem_cons_of_mem _ ha')]

theorem exists_of_mapM_eq_error {f : α → Except ε β} {e : ε} :
    ∀ {as : List α}, as.mapM f = .error e → ∃ a ∈ as, f a = .error e
  | [], h => by simp [pure, Except.pure] at h
  | a :: as, h => by
    rw [List.mapM_cons] at h
    cases ha : f a with
    | error e' =>
      obtain rfl : e' = e := by simpa [ha, bind, Except.bind] using h
      exact ⟨a, by simp, ha⟩
    | ok b =>
      cases has : as.mapM f with
      | error e' =>
        obtain rfl : e' = e := by simpa [ha, has, bind, Except.bind] using h
        obtain ⟨a', hmem, ha'⟩ := exists_of_mapM_eq_error has
        exact ⟨a', List.mem_cons_of_mem _ hmem, ha'⟩
      | ok bs => simp [ha, has, bind, Except.bind, pure, Except.pure] at h

/-- Every outcome for a list is that of one of its items. -/
theorem exists_of_mem_of_mapM_eq_ok {f : α → Except ε β} {b : β} :
    ∀ {as : List α} {bs : List β}, as.mapM f = .ok bs → b ∈ bs → ∃ a ∈ as, f a = .ok b
  | [], bs, h, hb => by
    obtain rfl : [] = bs := by simpa [pure, Except.pure] using h
    simp at hb
  | a :: as, bs, h, hb => by
    rw [List.mapM_cons] at h
    obtain ⟨c, hc, h⟩ := bind_eq_ok_iff.mp h
    obtain ⟨cs, hcs, heq⟩ := bind_eq_ok_iff.mp h
    obtain rfl : c :: cs = bs := by simpa [pure, Except.pure] using heq
    rcases List.mem_cons.mp hb with rfl | hb
    · exact ⟨a, List.mem_cons_self, hc⟩
    · obtain ⟨a', ha', hb⟩ := exists_of_mem_of_mapM_eq_ok hcs hb
      exact ⟨a', List.mem_cons_of_mem _ ha', hb⟩

/-- Every item of a list has its outcome among those for the list. -/
theorem exists_mem_of_mapM_eq_ok {f : α → Except ε β} {a : α} :
    ∀ {as : List α} {bs : List β}, as.mapM f = .ok bs → a ∈ as → ∃ b ∈ bs, f a = .ok b
  | [], _, _, ha => by simp at ha
  | a' :: as, bs, h, ha => by
    rw [List.mapM_cons] at h
    obtain ⟨c, hc, h⟩ := bind_eq_ok_iff.mp h
    obtain ⟨cs, hcs, heq⟩ := bind_eq_ok_iff.mp h
    obtain rfl : c :: cs = bs := by simpa [pure, Except.pure] using heq
    rcases List.mem_cons.mp ha with rfl | ha
    · exact ⟨c, List.mem_cons_self, hc⟩
    · obtain ⟨b, hb, hfa⟩ := exists_mem_of_mapM_eq_ok hcs ha
      exact ⟨b, List.mem_cons_of_mem _ hb, hfa⟩

/-- The items of a list and their outcomes, one for one. -/
theorem forall₂_of_mapM_eq_ok {f : α → Except ε β} :
    ∀ {as : List α} {bs : List β}, as.mapM f = .ok bs → List.Forall₂ (fun a b => f a = .ok b) as bs
  | [], bs, h => by
    obtain rfl : [] = bs := by simpa [pure, Except.pure] using h
    exact .nil
  | a :: as, bs, h => by
    rw [List.mapM_cons] at h
    obtain ⟨b, hb, h⟩ := bind_eq_ok_iff.mp h
    obtain ⟨bs', hbs, heq⟩ := bind_eq_ok_iff.mp h
    obtain rfl : b :: bs' = bs := by simpa [pure, Except.pure] using heq
    exact .cons hb (forall₂_of_mapM_eq_ok hbs)

theorem exists_map_eq_ok_iff {x : Except ε α} {f : α → β} : (∃ b, x.map f = .ok b) ↔ ∃ a, x = .ok a := by
  cases x <;> simp [Except.map]

/-- A list has an outcome if each of its items has one. -/
theorem exists_mapM_eq_ok_iff {f : α → Except ε β} {as : List α} :
    (∃ bs, as.mapM f = .ok bs) ↔ ∀ a ∈ as, ∃ b, f a = .ok b := by
  induction as with
  | nil => simp [pure, Except.pure]
  | cons a as ih =>
    rw [List.mapM_cons, List.forall_mem_cons, ← ih]
    simp only [bind_eq_ok_iff]
    constructor
    · rintro ⟨_, b, hb, bs, hbs, -⟩
      exact ⟨⟨b, hb⟩, bs, hbs⟩
    · rintro ⟨⟨b, hb⟩, bs, hbs⟩
      exact ⟨b :: bs, b, hb, bs, hbs, rfl⟩

/-! ## Related outcomes -/

/-- Both fail in the same way, or both succeed with related values. -/
inductive SameOutcome (R : α → β → Prop) : Except ε α → Except ε β → Prop
  | error (e : ε) : SameOutcome R (.error e) (.error e)
  | ok {a : α} {b : β} : R a b → SameOutcome R (.ok a) (.ok b)

namespace SameOutcome

variable {R : α → β → Prop} {S : γ → δ → Prop}

theorem map {x : Except ε α} {y : Except ε β} {f : α → γ} {g : β → δ} (h : SameOutcome R x y)
    (hrel : ∀ a b, R a b → S (f a) (g b)) : SameOutcome S (x.map f) (y.map g) := by
  cases h with
  | error e => exact .error e
  | ok hab => exact .ok (hrel _ _ hab)

/-- Related items with related outcomes give related lists of outcomes. -/
theorem mapM {f : α → Except ε γ} {g : β → Except ε δ} {as : List α} {bs : List β}
    (h : List.Forall₂ R as bs) (hrel : ∀ a ∈ as, ∀ b, R a b → SameOutcome S (f a) (g b)) :
    SameOutcome (List.Forall₂ S) (as.mapM f) (bs.mapM g) := by
  induction h with
  | nil => exact .ok .nil
  | @cons a b as bs hab _ ih =>
    have hhead := hrel a List.mem_cons_self b hab
    have htail := ih fun a' ha' => hrel a' (List.mem_cons_of_mem _ ha')
    rw [List.mapM_cons, List.mapM_cons]
    revert hhead htail
    generalize f a = x, g b = y, as.mapM f = xs, bs.mapM g = ys
    rintro (e | hcd) htail
    · exact .error e
    · cases htail with
      | error e => exact .error e
      | ok hlist => exact .ok (.cons hcd hlist)

end SameOutcome

theorem Run.result_bind_of_ok {r : Run α} {f : α → Run β} {a : α} (h : r.result = .ok a) :
    (r >>= f).result = (f a).result := by
  rw [Run.result_bind, h]
  rfl

theorem Run.result_bind_of_error {r : Run α} {f : α → Run β} {e : Failure} (h : r.result = .error e) :
    (r >>= f).result = .error e := by
  rw [Run.result_bind, h]
  rfl

theorem Run.result_map (f : α → β) (r : Run α) : (f <$> r).result = r.result.map f := by
  change (r >>= fun a => pure (f a)).result = _
  rw [Run.result_bind]
  cases r.result <;> rfl

end SourceOutline
