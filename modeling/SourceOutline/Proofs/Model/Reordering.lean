import SourceOutline.Proofs.Model.Registration

/-!
# Tables of types in any order

Whether a list of types can be registered, and what its table then answers, does not depend on the order
of the list, although the report on a conflict does: it is about the first type that meets another one of
its name.

* `Agreeing`: no two different types of a list have one name; `exists_ofTypes_eq_ok_iff` says that these
  lists are the ones with a table.
* `of_ofTypes_eq_error`: the conflict that is reported.
* `get?_eq_of_perm`, `size_eq_of_perm`: what a table holds in one order, it holds in another.

Main statement: `ofTypes_of_perm`.
-/

namespace SourceOutline.TypeTable

/-- Types of one name are the same. -/
def Agreeing (ds : List TypeDecl) : Prop :=
  ∀ a ∈ ds, ∀ b ∈ ds, a.qualifiedName = b.qualifiedName → a = b

variable {t t' u : TypeTable} {d : TypeDecl} {ds es : List TypeDecl}

theorem Agreeing.of_perm (h : Agreeing ds) (hperm : ds.Perm es) : Agreeing es :=
  fun a ha b hb => h a (hperm.mem_iff.mpr ha) b (hperm.mem_iff.mpr hb)

theorem not_agreeing_iff :
    ¬ Agreeing ds ↔ ∃ a ∈ ds, ∃ b ∈ ds, a.qualifiedName = b.qualifiedName ∧ a ≠ b := by
  unfold Agreeing
  constructor
  · intro h
    simp only [Classical.not_forall] at h
    obtain ⟨a, ha, b, hb, hname, hne⟩ := h
    exact ⟨a, ha, b, hb, hname, hne⟩
  · rintro ⟨a, ha, b, hb, hname, hne⟩ h
    exact hne (h a ha b hb hname)

/-! ## When there is a table -/

/-- Types are accepted if they agree with each other and with what the table holds. -/
theorem exists_registerAll_eq_ok_iff :
    (∃ t', t.registerAll ds = .ok t') ↔
      Agreeing ds ∧ ∀ d ∈ ds, ∀ o, t.get? d.qualifiedName = some o → o = d := by
  induction ds generalizing t with
  | nil => simp [registerAll, Agreeing, pure, Except.pure]
  | cons d ds ih =>
    have hstep : (∃ t', t.registerAll (d :: ds) = .ok t') ↔
        ∃ t₁, t.register d = .ok t₁ ∧ ∃ t', t₁.registerAll ds = .ok t' := by
      simp only [registerAll_cons_eq_ok_iff]
      constructor
      · rintro ⟨t', t₁, hd, hds⟩
        exact ⟨t₁, hd, t', hds⟩
      · rintro ⟨t₁, hd, t', hds⟩
        exact ⟨t', t₁, hd, hds⟩
    rw [hstep]
    simp only [register_eq_ok_iff, ih]
    constructor
    · rintro ⟨_, ⟨hd, rfl⟩, hds, hold⟩
      -- from here on the first type stands in the table
      have hfirst : ∀ e ∈ ds, d.qualifiedName = e.qualifiedName → d = e := fun e he hname =>
        hold e he d (by rw [get?_put, if_pos hname])
      refine ⟨?_, ?_⟩
      · intro a ha b hb hname
        rcases List.mem_cons.mp ha with ha | ha <;> rcases List.mem_cons.mp hb with hb | hb
        · rw [ha, hb]
        · rw [ha] at hname ⊢
          exact hfirst b hb hname
        · rw [hb] at hname ⊢
          exact (hfirst a ha hname.symm).symm
        · exact hds a ha b hb hname
      · intro e he o ho
        rcases List.mem_cons.mp he with rfl | he
        · exact hd o ho
        · by_cases hname : d.qualifiedName = e.qualifiedName
          · rw [← hfirst e he hname]
            exact hd o (hname ▸ ho)
          · exact hold e he o (by rw [get?_put, if_neg hname, ho])
    · rintro ⟨hall, hold⟩
      refine ⟨_, ⟨hold d List.mem_cons_self, rfl⟩, ?_, ?_⟩
      · intro a ha b hb hname
        exact hall a (List.mem_cons_of_mem _ ha) b (List.mem_cons_of_mem _ hb) hname
      · intro e he o ho
        rw [get?_put] at ho
        by_cases hname : d.qualifiedName = e.qualifiedName
        · rw [if_pos hname, Option.some.injEq] at ho
          rw [← ho]
          exact hall d List.mem_cons_self e (List.mem_cons_of_mem _ he) hname
        · rw [if_neg hname] at ho
          exact hold e (List.mem_cons_of_mem _ he) o ho

/-- A list has a table exactly if its types agree. -/
theorem exists_ofTypes_eq_ok_iff : (∃ t, ofTypes ds = .ok t) ↔ Agreeing ds := by
  have hempty : ∀ d ∈ ds, ∀ o, empty.get? d.qualifiedName = some o → o = d := fun _ _ _ h => by
    cases h
  rw [ofTypes, exists_registerAll_eq_ok_iff]
  exact and_iff_left hempty

theorem exists_ofTypes_eq_error_iff : (∃ r, ofTypes ds = .error r) ↔ ¬ Agreeing ds := by
  rw [← exists_ofTypes_eq_ok_iff]
  cases ofTypes ds <;> simp

/-- The types before the first refusal have a table, and the refused one is reported. -/
theorem of_registerAll_eq_error {r : Report} (h : t.registerAll ds = .error r) :
    ∃ before d after t', ds = before ++ d :: after ∧ t.registerAll before = .ok t' ∧
      t'.register d = .error r := by
  induction ds generalizing t with
  | nil => simp [registerAll, pure, Except.pure] at h
  | cons d ds ih =>
    rw [registerAll, List.foldlM_cons] at h
    cases hd : t.register d with
    | error r' =>
      obtain rfl : r' = r := by simpa [hd, bind, Except.bind] using h
      exact ⟨[], d, ds, t, rfl, rfl, hd⟩
    | ok t₁ =>
      have hrest : t₁.registerAll ds = .error r := by
        rw [hd] at h
        exact h
      obtain ⟨before, e, after, t', rfl, hbefore, he⟩ := ih hrest
      exact ⟨d :: before, e, after, t', rfl, registerAll_cons_eq_ok_iff.mpr ⟨t₁, hd, hbefore⟩, he⟩

/-- The conflict that is reported is the first one: a type with the name of another one before it. -/
theorem of_ofTypes_eq_error {r : Report} (h : ofTypes ds = .error r) :
    ∃ before d after, ds = before ++ d :: after ∧ Agreeing before ∧
      (∃ o ∈ before, o.qualifiedName = d.qualifiedName ∧ o ≠ d) ∧ r = conflict d.qualifiedName := by
  obtain ⟨before, d, after, t', rfl, hbefore, hd⟩ := of_registerAll_eq_error h
  obtain ⟨⟨o, ho, hne⟩, rfl⟩ := register_eq_error_iff.mp hd
  refine ⟨before, d, after, rfl, exists_ofTypes_eq_ok_iff.mp ⟨t', hbefore⟩, ⟨o, ?_, ?_, hne⟩, rfl⟩
  · rw [get?_registerAll hbefore] at ho
    exact List.mem_of_find?_eq_some ho
  · exact (t'.keyed _ (Table.mem_of_get? ho)).symm

/-! ## What the table holds -/

theorem get?_ofTypes (h : ofTypes ds = .ok t) (name : String) :
    t.get? name = ds.find? fun d => d.qualifiedName = name :=
  get?_registerAll h name

/-- In a table of types, a name stands for the type that bears it. -/
theorem get?_ofTypes_eq_some_iff (h : ofTypes ds = .ok t) {name : String} :
    t.get? name = some d ↔ d ∈ ds ∧ d.qualifiedName = name := by
  constructor
  · intro hget
    rw [get?_ofTypes h] at hget
    exact ⟨List.mem_of_find?_eq_some hget, by simpa using List.find?_some hget⟩
  · rintro ⟨hd, rfl⟩
    exact get?_of_mem h hd

theorem get?_eq_of_perm (hperm : ds.Perm es) (ht : ofTypes ds = .ok t) (hu : ofTypes es = .ok u)
    (name : String) : t.get? name = u.get? name := by
  ext d
  rw [get?_ofTypes_eq_some_iff ht, get?_ofTypes_eq_some_iff hu, hperm.mem_iff]

/-- Nothing is refused on the way to a table. -/
theorem attemptAll_of_registerAll (h : t.registerAll ds = .ok t') : t.attemptAll ds = t' := by
  induction ds generalizing t with
  | nil => exact Except.ok.inj h
  | cons d ds ih =>
    obtain ⟨t₁, hd, hds⟩ := registerAll_cons_eq_ok_iff.mp h
    have hattempt : t.attempt d = t₁ := by rw [attempt, hd]
    rw [attemptAll, List.foldl_cons, hattempt]
    exact ih hds

theorem size_ofTypes (h : ofTypes ds = .ok t) :
    t.size = (ds.map TypeDecl.qualifiedName).toFinset.card := by
  rw [← length_firsts, ← types_attemptAll, attemptAll_of_registerAll h]
  exact (List.length_map _).symm

theorem size_eq_of_perm (hperm : ds.Perm es) (ht : ofTypes ds = .ok t) (hu : ofTypes es = .ok u) :
    t.size = u.size := by
  rw [size_ofTypes ht, size_ofTypes hu,
    List.toFinset_eq_of_perm _ _ (hperm.map TypeDecl.qualifiedName)]

/-- Tables with the same lookups resolve alike. -/
theorem resolve_congr (h : ∀ name, t.get? name = u.get? name) (stub : TypeDecl) :
    t.resolve stub = u.resolve stub := by
  rw [resolve, resolve, h]

theorem supertypes_congr (h : ∀ name, t.get? name = u.get? name) (d : TypeDecl) :
    t.supertypes d = u.supertypes d := by
  rw [supertypes, supertypes, funext (resolve_congr h)]

/-- **The order of types does not matter**: a list of types is refused exactly if two different ones have
one name, with a report on the first such conflict; so one order is refused if another one is, and
otherwise the tables agree on lookups, resolving and size.  The types of several files are registered as
one list. -/
theorem ofTypes_of_perm (hperm : ds.Perm es) :
    ((∃ r, ofTypes ds = .error r) ↔ ∃ a ∈ ds, ∃ b ∈ ds, a.qualifiedName = b.qualifiedName ∧ a ≠ b) ∧
      (∀ r, ofTypes ds = .error r → r.subject = .duplicateType ∧
        ∃ before d after, ds = before ++ d :: after ∧ Agreeing before ∧
          (∃ o ∈ before, o.qualifiedName = d.qualifiedName ∧ o ≠ d) ∧ r = conflict d.qualifiedName) ∧
      ((∃ r, ofTypes ds = .error r) ↔ ∃ r, ofTypes es = .error r) ∧
      (∀ t u, ofTypes ds = .ok t → ofTypes es = .ok u →
        (∀ name, t.get? name = u.get? name ∧ t.has name = u.has name) ∧
          (∀ d, t.resolve d = u.resolve d ∧ t.supertypes d = u.supertypes d) ∧ t.size = u.size) ∧
      ∀ files : List ParsedFile, ofFiles files = ofTypes (files.flatMap ParsedFile.types) := by
  have hsame : Agreeing ds ↔ Agreeing es := ⟨fun h => h.of_perm hperm, fun h => h.of_perm hperm.symm⟩
  refine ⟨exists_ofTypes_eq_error_iff.trans not_agreeing_iff, fun r hr => ?_, ?_, fun t u ht hu => ?_,
    ofFiles_eq_ofTypes⟩
  · obtain ⟨before, d, after, heq, hbefore, ho, rfl⟩ := of_ofTypes_eq_error hr
    exact ⟨rfl, before, d, after, heq, hbefore, ho, rfl⟩
  · rw [exists_ofTypes_eq_error_iff, exists_ofTypes_eq_error_iff, hsame]
  · have hget := get?_eq_of_perm hperm ht hu
    refine ⟨fun name => ⟨hget name, ?_⟩, fun d => ⟨resolve_congr hget d, supertypes_congr hget d⟩,
      size_eq_of_perm hperm ht hu⟩
    exact congrArg Option.isSome (hget name)

/-- A nested type and a type of a package of the same name are refused in either order. -/
theorem conflict_in_either_order :
    let nested := TypeDecl.stub "a" "B.C"
    let plain := TypeDecl.stub "a.B" "C"
    [nested, plain].Perm [plain, nested] ∧
      (∃ r, ofTypes [nested, plain] = .error r) ∧ ∃ r, ofTypes [plain, nested] = .error r := by
  intro nested plain
  have hperm : [nested, plain].Perm [plain, nested] := .swap _ _ _
  obtain ⟨hconflict, -, hboth, -⟩ := ofTypes_of_perm hperm
  have hrefused : ∃ r, ofTypes [nested, plain] = .error r :=
    hconflict.mpr ⟨nested, by simp, plain, by simp, by decide, by decide⟩
  exact ⟨hperm, hrefused, hboth.mp hrefused⟩

end SourceOutline.TypeTable
