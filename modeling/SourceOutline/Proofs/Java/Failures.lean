import SourceOutline.Proofs.Java.Walk

/-!
# Java declarations that contradict their kinds

The types of a file fail over one thing only: a collected declaration that extends a class without being
one, or an annotation with interfaces.

* `Collected`: the declarations that are collected, described without the walk through them;
  `collected_of_mem_places` and `exists_mem_places_of_collected` say that the walk visits just these.
* `exists_details_eq_ok_iff`, `exists_details_eq_error_iff`: when there are types, and when there is an
  error.
-/

namespace SourceOutline.Java

open Declaration

/-- The collected declarations with the scopes they stand in: named declarations at the top of a file,
and named ones in the bodies of others. -/
inductive Collected (src : Source) (root : Node) : Scope → Node → Prop
  | top {n : Node} :
    n ∈ root.children → (declaredKind? n).isSome → (declaredName? src n).isSome →
      Collected src root (fileScope src root) n
  | nested {scope : Scope} {m n : Node} :
    Collected src root scope m → n ∈ bodyMembers m → (declaredKind? n).isSome → (declaredName? src n).isSome →
      Collected src root (inside src m scope) n

/-- A declaration extends a class, going by the first child that may say so. -/
def Extends (n : Node) : Prop :=
  ∃ c, n.childOfKind? "superclass" = some c ∧ c.namedChildren ≠ []

/-- What a declaration must not be: something other than a class that extends one, or an annotation with
interfaces. -/
def ContradictsKind (src : Source) (scope : Scope) (n : Node) : Prop :=
  (declaredKind? n ≠ some .classType ∧ Extends n) ∨
    (declaredKind? n = some .annotationType ∧ interfaces src scope n ≠ [])

variable {src : Source} {root : Node}

/-! ## The declarations on the walk -/

section Places

theorem of_declaration?_eq_some {n : Node} {d : Declaration} (h : declaration? src n = some d) :
    d.node = n ∧ (declaredKind? n).isSome ∧ (declaredName? src n).isSome ∧
      d.nested = (bodyMembers n).filterMap (declaration? src) := by
  rw [declaration?_eq] at h
  split at h
  · rename_i kind name hkind hname
    obtain rfl := Option.some.inj h
    exact ⟨rfl, by rw [hkind]; rfl, by rw [hname]; rfl, rfl⟩
  · simp at h

theorem exists_declaration? {n : Node} (hkind : (declaredKind? n).isSome) (hname : (declaredName? src n).isSome) :
    ∃ d, declaration? src n = some d := by
  obtain ⟨kind, hkind⟩ := Option.isSome_iff_exists.mp hkind
  obtain ⟨name, hname⟩ := Option.isSome_iff_exists.mp hname
  rw [declaration?_eq, hkind, hname]
  exact ⟨_, rfl⟩

/-- The walk visits collected declarations only. -/
theorem collected_of_mem_places {e : Surroundings × Declaration} (h : e ∈ places src root) :
    Collected src root e.1.scope e.2.node ∧ declaration? src e.2.node = some e.2 := by
  refine mem_walkAll_induction
    (P := fun s d => Collected src root s.scope d.node ∧ declaration? src d.node = some d) ?_ ?_ e h
  · rintro ⟨s, d⟩ - ⟨hcollected, hd⟩ d' hd'
    obtain ⟨-, -, -, hnested⟩ := of_declaration?_eq_some hd
    rw [hnested] at hd'
    obtain ⟨n, hn, hdn⟩ := List.mem_filterMap.mp hd'
    obtain ⟨rfl, hkind, hname, -⟩ := of_declaration?_eq_some hdn
    exact ⟨.nested hcollected hn hkind hname, hdn⟩
  · intro d hd
    obtain ⟨n, hn, hdn⟩ := List.mem_filterMap.mp hd
    obtain ⟨rfl, hkind, hname, -⟩ := of_declaration?_eq_some hdn
    exact ⟨.top hn hkind hname, hdn⟩

/-- The walk visits every collected declaration. -/
theorem exists_mem_places_of_collected {scope : Scope} {n : Node} (h : Collected src root scope n) :
    ∃ e ∈ places src root, e.1.scope = scope ∧ e.2.node = n := by
  induction h with
  | @top n hn hkind hname =>
    obtain ⟨d, hd⟩ := exists_declaration? hkind hname
    have hmem : d ∈ declarations src root := List.mem_filterMap.mpr ⟨n, hn, hd⟩
    exact ⟨_, mem_walkAll_of_mem hmem, rfl, (of_declaration?_eq_some hd).1⟩
  | @nested scope m n _ hn hkind hname ih =>
    obtain ⟨e, he, rfl, rfl⟩ := ih
    obtain ⟨d, hd⟩ := exists_declaration? hkind hname
    obtain ⟨-, -, -, hnested⟩ := of_declaration?_eq_some (collected_of_mem_places he).2
    have hmem : d ∈ e.2.nested := hnested ▸ List.mem_filterMap.mpr ⟨n, hn, hd⟩
    exact ⟨_, mem_walkAll_nested e he d hmem, rfl, (of_declaration?_eq_some hd).1⟩

end Places

/-! ## Failures -/

section Failures

theorem superClasses_ne_nil_iff {scope : Scope} {n : Node} : superClasses src scope n ≠ [] ↔ Extends n := by
  unfold superClasses Extends
  cases n.childOfKind? "superclass" with
  | none => simp
  | some c => cases hc : c.namedChildren <;> simp [hc]

theorem violation?_headerAt_eq_none_iff {e : Surroundings × Declaration}
    (hkind : (declaredKind? e.2.node).isSome) :
    (headerAt src e).violation? = none ↔ ¬ ContradictsKind src e.1.scope e.2.node := by
  obtain ⟨kind, hkind⟩ := Option.isSome_iff_exists.mp hkind
  have hheader : headerAt src e = header src e.1.scope e.1.outer kind e.2 := by
    rw [headerAt, hkind, Option.getD_some]
  rw [TypeDecl.violation?_eq_none_iff, hheader, ContradictsKind, hkind, not_or]
  simp only [header, superClasses_ne_nil_iff, ne_eq, Option.some.injEq]

theorem exists_foundAt_eq_ok_iff {e : Surroundings × Declaration} (hkind : (declaredKind? e.2.node).isSome) :
    (∃ f, foundAt src e = .ok f) ↔ ¬ ContradictsKind src e.1.scope e.2.node := by
  rw [foundAt, exists_map_eq_ok_iff, ← violation?_headerAt_eq_none_iff hkind]
  simp [TypeDecl.make_eq_ok_iff]

/-- **There are types unless a collected declaration contradicts its kind.** -/
theorem exists_details_eq_ok_iff :
    (∃ ds, (details src root).result = .ok ds) ↔
      ∀ scope n, Collected src root scope n → ¬ ContradictsKind src scope n := by
  have hfound : (∃ ds, (details src root).result = .ok ds) ↔ ∃ fs, (found src root).result = .ok fs := by
    cases hfs : (found src root).result <;> simp [details, hfs]
  rw [hfound, result_found, exists_mapM_eq_ok_iff]
  constructor
  · intro hok scope n hn
    obtain ⟨e, he, rfl, rfl⟩ := exists_mem_places_of_collected hn
    have hkind := (of_declaration?_eq_some (collected_of_mem_places he).2).2.1
    exact (exists_foundAt_eq_ok_iff hkind).mp (hok e he)
  · intro hall e he
    obtain ⟨hn, hd⟩ := collected_of_mem_places he
    exact (exists_foundAt_eq_ok_iff (of_declaration?_eq_some hd).2.1).mpr (hall _ _ hn)

theorem exists_eq_failureOf {e : Failure} (h : (details src root).result = .error e) : ∃ v, e = failureOf v := by
  cases hfs : (found src root).result with
  | error v => exact ⟨v, by simpa [details, hfs, eq_comm] using h⟩
  | ok fs => simp [details, hfs] at h

/-- The only errors are over kinds. -/
theorem exists_details_eq_error_iff :
    (∃ v, (details src root).result = .error (failureOf v)) ↔
      ∃ scope n, Collected src root scope n ∧ ContradictsKind src scope n := by
  have hexcl : (∃ v, (details src root).result = .error (failureOf v)) ↔
      ¬ ∃ ds, (details src root).result = .ok ds := by
    cases hds : (details src root).result with
    | error e =>
      obtain ⟨v, rfl⟩ := exists_eq_failureOf hds
      exact iff_of_true ⟨v, rfl⟩ (by simp)
    | ok ds => simp
  rw [hexcl, exists_details_eq_ok_iff]
  simp only [Classical.not_forall, Classical.not_not, exists_prop]

end Failures

end SourceOutline.Java
