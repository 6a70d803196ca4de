import SourceOutline.Model.TypeTable
import SourceOutline.Proofs.Outcome

/-!
# What tables of types hold

* `register_eq_ok_iff`: a type is accepted unless another one has its name.
* `get?_registerAll`: once types are accepted, a name stands for what it stood for before, or else
  for the first of them that bears it.
* `get?_of_mem`: an accepted type is found under its name.
* `resolve_of_mem_ofFiles`: a stub with the name of an accepted type is resolved to it.
-/

namespace SourceOutline.TypeTable

variable {t t' : TypeTable} {d : TypeDecl} {ds : List TypeDecl}

/-! ## One type -/

theorem get?_put (t : TypeTable) (d : TypeDecl) (name : String) :
    (t.put d).get? name = if d.qualifiedName = name then some d else t.get? name :=
  Table.get?_set _ _ _ _

/-- A type is accepted unless another one has its name. -/
theorem register_eq_ok_iff :
    t.register d = .ok t' ↔ (∀ o, t.get? d.qualifiedName = some o → o = d) ∧ t' = t.put d := by
  unfold register
  cases hget : t.get? d.qualifiedName with
  | none => simp [eq_comm]
  | some o =>
    by_cases heq : o = d
    · simp [heq, eq_comm]
    · simp [heq]

theorem get?_register (h : t.register d = .ok t') (name : String) :
    t'.get? name = (t.get? name).or (if d.qualifiedName = name then some d else none) := by
  obtain ⟨hsame, rfl⟩ := register_eq_ok_iff.mp h
  rw [get?_put]
  by_cases hname : d.qualifiedName = name
  · subst hname
    rw [if_pos rfl, if_pos rfl]
    cases hget : t.get? d.qualifiedName with
    | none => rfl
    | some o => rw [hsame o hget, Option.some_or]
  · rw [if_neg hname, if_neg hname, Option.or_none]

/-! ## Many types -/

theorem registerAll_cons_eq_ok_iff {t'' : TypeTable} :
    t.registerAll (d :: ds) = .ok t'' ↔ ∃ t', t.register d = .ok t' ∧ t'.registerAll ds = .ok t'' := by
  rw [registerAll, List.foldlM_cons]
  exact bind_eq_ok_iff

/-- Types that are accepted do not change what a name stands for; a new name stands for the first of
them that bears it. -/
theorem get?_registerAll (h : t.registerAll ds = .ok t') (name : String) :
    t'.get? name = (t.get? name).or (ds.find? fun d => d.qualifiedName = name) := by
  induction ds generalizing t with
  | nil =>
    obtain rfl : t = t' := by simpa [registerAll, pure, Except.pure] using h
    simp
  | cons d ds ih =>
    obtain ⟨t₁, hd, hds⟩ := registerAll_cons_eq_ok_iff.mp h
    rw [ih hds, get?_register hd, List.find?_cons]
    by_cases hname : d.qualifiedName = name
    · cases t.get? name <;> simp [hname]
    · simp [hname]

/-- An accepted type is found under its name. -/
theorem get?_of_mem (h : t.registerAll ds = .ok t') (hd : d ∈ ds) : t'.get? d.qualifiedName = some d := by
  induction ds generalizing t with
  | nil => simp at hd
  | cons e ds ih =>
    obtain ⟨t₁, he, hds⟩ := registerAll_cons_eq_ok_iff.mp h
    rcases List.mem_cons.mp hd with rfl | hd
    · have hput : t₁.get? d.qualifiedName = some d := by
        obtain ⟨-, rfl⟩ := register_eq_ok_iff.mp he
        rw [get?_put, if_pos rfl]
      rw [get?_registerAll hds, hput, Option.some_or]
    · exact ih hds hd

/-! ## Files -/

theorem registerAll_append (ds es : List TypeDecl) :
    t.registerAll (ds ++ es) = t.registerAll ds >>= fun t' => t'.registerAll es :=
  List.foldlM_append ..

/-- How types are spread over files does not matter. -/
theorem ofFiles_eq_ofTypes (files : List ParsedFile) :
    ofFiles files = ofTypes (files.flatMap ParsedFile.types) := by
  suffices h : ∀ t : TypeTable, files.foldlM (fun t f => t.registerAll f.types) t =
      t.registerAll (files.flatMap ParsedFile.types) from h empty
  intro t
  induction files generalizing t with
  | nil => rfl
  | cons f files ih => rw [List.foldlM_cons, List.flatMap_cons, registerAll_append, funext ih]

/-- **Stubs are resolved by name**: a stub with the qualified name of an accepted type is resolved to
that type. -/
theorem resolve_of_mem_ofFiles {files : List ParsedFile} {f : ParsedFile} {stub : TypeDecl}
    (h : ofFiles files = .ok t) (hf : f ∈ files) (hd : d ∈ f.types)
    (hname : stub.qualifiedName = d.qualifiedName) : t.resolve stub = d := by
  rw [ofFiles_eq_ofTypes] at h
  have hmem : d ∈ files.flatMap ParsedFile.types := List.mem_flatMap.mpr ⟨f, hf, hd⟩
  rw [resolve, hname, get?_of_mem h hmem]
  rfl

end SourceOutline.TypeTable
