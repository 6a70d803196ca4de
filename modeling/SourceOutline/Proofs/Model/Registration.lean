import Mathlib.Data.Finset.Card
import SourceOutline.Proofs.Model.TypeTable
import SourceOutline.Proofs.Table

/-!
# Tables that refuse types and go on

A caller may go on after a refusal, with the table as it was.  What such a table holds does not depend
on where the refusals fell: for every name that was ever offered, the first type that bears it, in the
order in which these types came.

* `attempt_eq`: trying a type adds it last if its name is new, and changes nothing otherwise.
* `get?_attemptAll`, `types_attemptAll`: the lookups and the order of a table after any number of tries.
* `register_eq_error_iff`: a type is refused exactly if another one has its name.

Main statement: `attemptAll_keeps_firsts`.
-/

namespace SourceOutline.TypeTable

/-- The table after a type was tried: a refusal leaves it as it was. -/
def attempt (t : TypeTable) (d : TypeDecl) : TypeTable :=
  match t.register d with
  | .ok t' => t'
  | .error _ => t

/-- The table after types were tried one after another. -/
def attemptAll (t : TypeTable) (ds : List TypeDecl) : TypeTable :=
  ds.foldl attempt t

/-- Of all types with one qualified name, the first. -/
def firsts : List TypeDecl → List TypeDecl
  | [] => []
  | d :: ds => d :: (firsts ds).filter fun e => e.qualifiedName ≠ d.qualifiedName

variable {t t' : TypeTable} {d : TypeDecl} {ds : List TypeDecl}

/-! ## One type -/

/-- A type is refused exactly if another one has its name. -/
theorem register_eq_error_iff {r : Report} :
    t.register d = .error r ↔
      (∃ o, t.get? d.qualifiedName = some o ∧ o ≠ d) ∧ r = conflict d.qualifiedName := by
  unfold register
  cases hget : t.get? d.qualifiedName with
  | none => simp
  | some o =>
    by_cases hsame : o = d
    · simp [hsame]
    · have hother : ∃ o', some o = some o' ∧ o' ≠ d := ⟨o, rfl, hsame⟩
      simp only [hsame, if_false, Except.error.injEq, hother, true_and]
      exact eq_comm

/-- Entering the type that a name stands for already changes nothing. -/
theorem put_of_get? (h : t.get? d.qualifiedName = some d) : t.put d = t := by
  have hentries : (t.put d).entries = t.entries := Table.set_of_get? h
  cases t
  cases hput : TypeTable.put _ d
  rw [hput] at hentries
  subst hentries
  rfl

/-- Trying a type adds it if its name is new, and changes nothing otherwise. -/
theorem attempt_eq (t : TypeTable) (d : TypeDecl) :
    t.attempt d = if (t.get? d.qualifiedName).isSome then t else t.put d := by
  unfold attempt register
  cases hget : t.get? d.qualifiedName with
  | none => rfl
  | some o =>
    by_cases hsame : o = d
    · subst hsame
      rw [put_of_get? hget]
      simp
    · simp [hsame]

theorem get?_attempt (t : TypeTable) (d : TypeDecl) (name : String) :
    (t.attempt d).get? name =
      (t.get? name).or (if d.qualifiedName = name then some d else none) := by
  rw [attempt_eq]
  cases hget : t.get? d.qualifiedName with
  | none =>
    rw [if_neg (by simp), get?_put]
    by_cases hname : d.qualifiedName = name
    · rw [if_pos hname, if_pos hname, ← hname, hget, Option.none_or]
    · rw [if_neg hname, if_neg hname, Option.or_none]
  | some o =>
    rw [if_pos (by simp)]
    by_cases hname : d.qualifiedName = name
    · rw [← hname, hget, Option.some_or]
    · rw [if_neg hname, Option.or_none]

/-- A new type comes last. -/
theorem types_put_of_get?_eq_none (h : t.get? d.qualifiedName = none) :
    (t.put d).types = t.types ++ [d] := by
  have hkey : d.qualifiedName ∉ t.entries.keys := Table.get?_eq_none_iff.mp h
  show (t.entries.set d.qualifiedName d).values = _
  rw [Table.set_of_not_mem hkey, Table.values, List.map_append]
  rfl

/-! ## The first types -/

theorem firsts_concat (ds : List TypeDecl) (d : TypeDecl) :
    firsts (ds ++ [d]) =
      if ∃ e ∈ ds, e.qualifiedName = d.qualifiedName then firsts ds else firsts ds ++ [d] := by
  induction ds with
  | nil => simp [firsts]
  | cons e ds ih =>
    rw [List.cons_append, firsts, ih, firsts]
    by_cases hrest : ∃ e ∈ ds, e.qualifiedName = d.qualifiedName
    · obtain ⟨e', he', hname⟩ := hrest
      rw [if_pos ⟨e', he', hname⟩, if_pos ⟨e', List.mem_cons_of_mem _ he', hname⟩]
    · rw [if_neg hrest, List.filter_append]
      by_cases hhead : e.qualifiedName = d.qualifiedName
      · rw [if_pos ⟨e, List.mem_cons_self, hhead⟩]
        simp [hhead]
      · have hnew : ¬ ∃ e' ∈ e :: ds, e'.qualifiedName = d.qualifiedName := by
          rintro ⟨e', he', hname⟩
          rcases List.mem_cons.mp he' with rfl | he'
          · exact hhead hname
          · exact hrest ⟨e', he', hname⟩
        rw [if_neg hnew]
        simp [Ne.symm hhead]

theorem mem_names_firsts {name : String} :
    name ∈ (firsts ds).map TypeDecl.qualifiedName ↔ name ∈ ds.map TypeDecl.qualifiedName := by
  induction ds with
  | nil => rfl
  | cons d ds ih =>
    simp only [firsts, List.map_cons, List.mem_cons, ← ih, List.mem_map, List.mem_filter]
    by_cases hname : name = d.qualifiedName
    · simp [hname]
    · simp only [hname, false_or]
      constructor
      · rintro ⟨e, ⟨he, -⟩, rfl⟩
        exact ⟨e, he, rfl⟩
      · rintro ⟨e, he, rfl⟩
        exact ⟨e, ⟨he, by simpa using hname⟩, rfl⟩

theorem nodup_names_firsts (ds : List TypeDecl) : ((firsts ds).map TypeDecl.qualifiedName).Nodup := by
  induction ds with
  | nil => exact List.nodup_nil
  | cons d ds ih =>
    rw [firsts, List.map_cons, List.nodup_cons]
    refine ⟨?_, ih.sublist ((List.filter_sublist).map _)⟩
    rintro hmem
    obtain ⟨e, he, hname⟩ := List.mem_map.mp hmem
    simp [hname] at he

/-- There are as many first types as names. -/
theorem length_firsts (ds : List TypeDecl) :
    (firsts ds).length = (ds.map TypeDecl.qualifiedName).toFinset.card := by
  have hnames : (ds.map TypeDecl.qualifiedName).toFinset =
      ((firsts ds).map TypeDecl.qualifiedName).toFinset := by
    ext name
    rw [List.mem_toFinset, List.mem_toFinset, mem_names_firsts]
  rw [hnames, List.toFinset_card_of_nodup (nodup_names_firsts ds), List.length_map]

/-! ## Many types -/

theorem attemptAll_concat (t : TypeTable) (ds : List TypeDecl) (d : TypeDecl) :
    t.attemptAll (ds ++ [d]) = (t.attemptAll ds).attempt d := by
  simp [attemptAll, List.foldl_append]

/-- A name stands for the first type that was tried under it. -/
theorem get?_attemptAll (ds : List TypeDecl) (name : String) :
    (empty.attemptAll ds).get? name = ds.find? fun d => d.qualifiedName = name := by
  induction ds using List.reverseRecOn with
  | nil => rfl
  | append_singleton ds d ih =>
    rw [attemptAll_concat, get?_attempt, ih, List.find?_append]
    by_cases hname : d.qualifiedName = name <;> simp [hname]

/-- The types of the table are the first ones of their names, in the order in which they came. -/
theorem types_attemptAll (ds : List TypeDecl) : (empty.attemptAll ds).types = firsts ds := by
  induction ds using List.reverseRecOn with
  | nil => rfl
  | append_singleton ds d ih =>
    rw [attemptAll_concat, attempt_eq, firsts_concat]
    have hget := get?_attemptAll ds d.qualifiedName
    by_cases hknown : ∃ e ∈ ds, e.qualifiedName = d.qualifiedName
    · have hsome : ((empty.attemptAll ds).get? d.qualifiedName).isSome = true := by
        rw [hget, List.find?_isSome]
        simpa using hknown
      rw [if_pos hknown, if_pos hsome, ih]
    · have hnone : (empty.attemptAll ds).get? d.qualifiedName = none := by
        rw [hget, List.find?_eq_none]
        simpa using hknown
      rw [if_neg hknown, hnone, if_neg (by simp), types_put_of_get?_eq_none hnone, ih]

/-! ## Resolving -/

/-- A stub is resolved to something of its name: types are found under their own names only. -/
theorem qualifiedName_resolve (t : TypeTable) (stub : TypeDecl) :
    (t.resolve stub).qualifiedName = stub.qualifiedName := by
  rw [resolve]
  cases hget : t.get? stub.qualifiedName with
  | none => rfl
  | some o => exact (t.keyed _ (Table.mem_of_get? hget)).symm

theorem resolve_resolve (t : TypeTable) (stub : TypeDecl) :
    t.resolve (t.resolve stub) = t.resolve stub := by
  rw [resolve, qualifiedName_resolve]
  cases hget : t.get? stub.qualifiedName with
  | none => rfl
  | some o => rw [resolve, hget, Option.getD_some, Option.getD_some]

theorem names_supertypes (t : TypeTable) (d : TypeDecl) :
    (t.supertypes d).map TypeDecl.qualifiedName =
      (d.superClasses ++ d.interfaces).map TypeDecl.qualifiedName := by
  rw [supertypes, List.map_map]
  exact List.map_congr_left fun s _ => qualifiedName_resolve t s

/-- **A table keeps the first type of each name**, whatever is tried on it: lookups, size and order are
those of the first types; a type is refused exactly if another one has its name, which changes nothing;
and resolving keeps qualified names. -/
theorem attemptAll_keeps_firsts (ds : List TypeDecl) :
    let t := empty.attemptAll ds
    (∀ name, t.get? name = ds.find? fun d => d.qualifiedName = name) ∧
      (∀ d, (∃ r, t.register d = .error r) ↔ ∃ o, t.get? d.qualifiedName = some o ∧ o ≠ d) ∧
      (∀ d r, t.register d = .error r → r = conflict d.qualifiedName ∧ r.subject = .duplicateType ∧
        empty.attemptAll (ds ++ [d]) = t) ∧
      t.size = (ds.map TypeDecl.qualifiedName).toFinset.card ∧ t.types = firsts ds ∧
      (∀ stub, (t.resolve stub).qualifiedName = stub.qualifiedName ∧
        t.resolve (t.resolve stub) = t.resolve stub) ∧
      ∀ d, (t.supertypes d).map TypeDecl.qualifiedName =
        (d.superClasses ++ d.interfaces).map TypeDecl.qualifiedName := by
  intro t
  have htypes : t.types = firsts ds := types_attemptAll ds
  refine ⟨get?_attemptAll ds, fun d => ?_, fun d r hr => ?_, ?_, htypes, fun stub => ?_,
    names_supertypes t⟩
  · constructor
    · rintro ⟨r, hr⟩
      exact (register_eq_error_iff.mp hr).1
    · intro hother
      exact ⟨_, register_eq_error_iff.mpr ⟨hother, rfl⟩⟩
  · obtain ⟨-, rfl⟩ := register_eq_error_iff.mp hr
    refine ⟨rfl, rfl, ?_⟩
    rw [attemptAll_concat, attempt, hr]
  · have hsize : t.size = t.types.length := (List.length_map _).symm
    rw [hsize, htypes, length_firsts]
  · exact ⟨qualifiedName_resolve t stub, resolve_resolve t stub⟩

end SourceOutline.TypeTable
