import SourceOutline.Proofs.Config.Merging

/-!
# Looking up paths in layered mappings

Where one mapping is layered over another, what stands at a path of keys comes from the upper one, from the
lower one or from both.

* `ConfigValue.at?`: the value at a path of keys; `Layers.value?_eq`: a dotted key is the path of its parts.
* `ConfigValue.Blocks`: a value on the way to a path is no mapping.
* `LayeredAt`: what stands at a path of one mapping over another.
* `ConfigValue.deepMerge_nil_left`, `ConfigValue.deepMerge_self`: the empty mapping and the same mapping twice.

Main statement: `Layers.get_of_layers`.
-/

namespace SourceOutline

/-! ## Paths -/

namespace ConfigValue

/-- The value at a path of keys, if there is a mapping at every step. -/
def at? : ConfigValue → List Scalar → Option ConfigValue
  | v, [] => some v
  | .mapping entries, k :: ks =>
    match Table.get? entries k with
    | some v => v.at? ks
    | none => none
  | _, _ :: _ => none

theorem at?_mapping_cons (entries : ConfigMap) (k : Scalar) (ks : List Scalar) :
    (mapping entries).at? (k :: ks) = (entries.get? k).bind fun v => v.at? ks := by
  rw [at?]
  cases entries.get? k <;> rfl

theorem at?_mapping_singleton (entries : ConfigMap) (k : Scalar) : (mapping entries).at? [k] = entries.get? k := by
  rw [at?_mapping_cons]
  cases entries.get? k <;> rfl

/-- There is nothing below a value that is no mapping. -/
theorem at?_cons_of_mapping?_eq_none {v : ConfigValue} (h : v.mapping? = none) (k : Scalar) (ks : List Scalar) :
    v.at? (k :: ks) = none := by
  cases v with
  | scalar s => rfl
  | list items => rfl
  | mapping entries => cases h

theorem lookUp?_eq (v : ConfigValue) (ks : List String) : v.lookUp? ks = v.at? (ks.map .text) := by
  induction ks generalizing v with
  | nil =>
    rw [List.map_nil]
    cases v <;> rfl
  | cons k ks ih =>
    cases v with
    | scalar s => rfl
    | list items => rfl
    | mapping entries =>
      rw [List.map_cons, at?_mapping_cons, lookUp?]
      cases Table.get? entries (.text k) with
      | none => rfl
      | some v => exact ih v

/-! ## Layers twice and empty layers -/

theorem layer_of_mapping?_eq_none {upper : ConfigValue} (h : upper.mapping? = none) (base : Option ConfigValue) :
    layer upper base = upper := by
  cases upper with
  | scalar s => simp [layer]
  | list items => simp [layer]
  | mapping entries => cases h

theorem layer_mapping (entries base : ConfigMap) :
    layer (.mapping entries) (some (.mapping base)) = .mapping (deepMerge base entries) := by
  rw [layer]

/-- Over anything but a mapping a mapping stands as it is. -/
theorem layer_mapping_of_ne (entries : ConfigMap) {base : Option ConfigValue}
    (h : ∀ b, base ≠ some (.mapping b)) : layer (.mapping entries) base = .mapping entries := by
  rcases base with _ | (s | items | b)
  · simp [layer]
  · simp [layer]
  · simp [layer]
  · exact absurd rfl (h b)

theorem layer_none (v : ConfigValue) : layer v none = v := by
  cases v with
  | scalar s => exact layer_of_mapping?_eq_none rfl none
  | list items => exact layer_of_mapping?_eq_none rfl none
  | mapping entries => exact layer_mapping_of_ne entries (by simp)

theorem deepMerge_of_disjoint {base entries : ConfigMap} (hnodup : entries.keys.Nodup)
    (h : ∀ k ∈ entries.keys, k ∉ base.keys) : deepMerge base entries = base ++ entries := by
  induction entries generalizing base with
  | nil => simp [deepMerge]
  | cons e es ih =>
    obtain ⟨k, v⟩ := e
    obtain ⟨hk, hes⟩ := List.nodup_cons.mp hnodup
    have hnew : k ∉ base.keys := h k List.mem_cons_self
    rw [deepMerge, Table.get?_eq_none_iff.mpr hnew, layer_none, Table.set_of_not_mem hnew, ih hes]
    · simp
    · intro key hkey hmem
      simp only [Table.keys, List.map_append, List.mem_append, List.map_cons, List.map_nil,
        List.mem_singleton] at hmem
      rcases hmem with hmem | rfl
      · exact h key (List.mem_cons_of_mem _ hkey) hmem
      · exact hk hkey

/-- A mapping over the empty one is itself. -/
theorem deepMerge_nil_left {entries : ConfigMap} (h : entries.keys.Nodup) : deepMerge [] entries = entries :=
  deepMerge_of_disjoint h fun _ _ => List.not_mem_nil

/-- Nothing changes where every entry is there already. -/
theorem deepMerge_of_settled {base : ConfigMap} {entries : List (Scalar × ConfigValue)}
    (h : ∀ e ∈ entries, ∃ v, base.get? e.1 = some v ∧ layer e.2 (some v) = v) :
    deepMerge base entries = base := by
  induction entries with
  | nil => rw [deepMerge]
  | cons e es ih =>
    obtain ⟨k, u⟩ := e
    obtain ⟨⟨v, hget, hlayer⟩, hes⟩ := List.forall_mem_cons.mp h
    rw [deepMerge, hget, hlayer, Table.set_of_get? hget]
    exact ih hes

/-- A value twice over another one is the value once over it. -/
theorem layer_layer {upper : ConfigValue} (h : upper.Distinct) (base : Option ConfigValue) :
    layer upper (some (layer upper base)) = layer upper base := by
  induction h generalizing base with
  | scalar s => rw [layer_of_mapping?_eq_none rfl, layer_of_mapping?_eq_none rfl]
  | list _ _ => rw [layer_of_mapping?_eq_none rfl, layer_of_mapping?_eq_none rfl]
  | @mapping entries hkeys _ ih =>
    have hget : ∀ e ∈ entries, entries.get? e.1 = some e.2 := fun e he => (Table.get?_eq_some_iff hkeys).mpr he
    by_cases hbase : ∃ b, base = some (.mapping b)
    · obtain ⟨b, rfl⟩ := hbase
      rw [layer_mapping, layer_mapping, deepMerge_of_settled]
      intro e he
      exact ⟨layer e.2 (Table.get? b e.1), by rw [get?_deepMerge b hkeys, hget e he], ih e he _⟩
    · rw [layer_mapping_of_ne entries (not_exists.mp hbase), layer_mapping, deepMerge_of_settled]
      intro e he
      have hself := ih e he none
      rw [layer_none] at hself
      exact ⟨e.2, hget e he, hself⟩

/-- **A mapping twice over another one is the mapping once over it.** -/
theorem deepMerge_self (base : ConfigMap) {entries : ConfigMap} (h : (mapping entries).Distinct) :
    deepMerge (deepMerge base entries) entries = deepMerge base entries := by
  have htwice := layer_layer h (some (.mapping base))
  rw [layer_mapping, layer_mapping] at htwice
  exact ConfigValue.mapping.inj htwice

/-! ## Paths in layers -/

/-- A value on the way to the path, before its end, is no mapping. -/
def Blocks (v : ConfigValue) (p : List Scalar) : Prop :=
  ∃ q u, q <+: p ∧ q ≠ p ∧ v.at? q = some u ∧ u.mapping? = none

section Paths

variable {upper u v : ConfigValue} {entries : ConfigMap} {k : Scalar} {ks p : List Scalar}

theorem not_blocks_nil (v : ConfigValue) : ¬ v.Blocks [] := by
  rintro ⟨q, u, hq, hne, -⟩
  exact hne (List.prefix_nil.mp hq)

theorem blocks_cons_of_mapping?_eq_none (h : v.mapping? = none) : v.Blocks (k :: ks) :=
  ⟨[], v, List.nil_prefix, by simp, by cases v <;> rfl, h⟩

/-- What is in the way from a mapping is in the way from its value at the first key. -/
theorem blocks_mapping_cons_iff :
    (mapping entries).Blocks (k :: ks) ↔ ∃ v, entries.get? k = some v ∧ v.Blocks ks := by
  constructor
  · rintro ⟨q, u, hq, hne, hat, hu⟩
    rcases List.prefix_cons_iff.mp hq with rfl | ⟨t, rfl, ht⟩
    · obtain rfl : mapping entries = u := Option.some.inj hat
      cases hu
    · rw [at?_mapping_cons] at hat
      obtain ⟨v, hv, hat⟩ := Option.bind_eq_some_iff.mp hat
      exact ⟨v, hv, t, u, ht, fun heq => hne (by rw [heq]), hat, hu⟩
  · rintro ⟨v, hv, t, u, ht, hne, hat, hu⟩
    refine ⟨k :: t, u, List.cons_prefix_cons.mpr ⟨rfl, ht⟩, fun heq => hne (List.cons.inj heq).2, ?_, hu⟩
    rw [at?_mapping_cons, hv]
    exact hat

/-- The first step into a mapping over a value. -/
theorem at?_layer_mapping_cons (hkeys : entries.keys.Nodup) (base : Option ConfigValue) :
    (layer (.mapping entries) base).at? (k :: ks) =
      match entries.get? k with
      | some v => (layer v (base.bind fun b => b.at? [k])).at? ks
      | none => base.bind fun b => b.at? (k :: ks) := by
  have hnothing : ∀ p : List Scalar, p ≠ [] → (∀ b, base ≠ some (.mapping b)) →
      (base.bind fun b => b.at? p) = none := by
    intro p hp hbase
    obtain ⟨j, js, rfl⟩ := List.exists_cons_of_ne_nil hp
    rcases base with _ | (s | items | b)
    · rfl
    · rfl
    · rfl
    · exact absurd rfl (hbase b)
  by_cases hbase : ∃ b, base = some (.mapping b)
  · obtain ⟨b, rfl⟩ := hbase
    rw [layer_mapping, at?_mapping_cons, get?_deepMerge b hkeys]
    cases entries.get? k with
    | none => exact (at?_mapping_cons b k ks).symm
    | some v => rw [Option.bind_some, Option.bind_some, at?_mapping_singleton]
  · have hne := not_exists.mp hbase
    rw [layer_mapping_of_ne entries hne, at?_mapping_cons]
    cases entries.get? k with
    | none => exact (hnothing _ (by simp) hne).symm
    | some v =>
      show v.at? ks = (layer v (base.bind fun b => b.at? [k])).at? ks
      rw [hnothing _ (by simp) hne, layer_none]

/-- A path goes on from the value at its first key. -/
theorem bind_at?_cons (base : Option ConfigValue) (k : Scalar) (ks : List Scalar) :
    (base.bind fun b => b.at? (k :: ks)) = (base.bind fun b => b.at? [k]).bind fun b => b.at? ks := by
  rcases base with _ | (s | items | b)
  · rfl
  · rfl
  · rfl
  · rw [Option.bind_some, Option.bind_some, at?_mapping_cons, at?_mapping_singleton]

/-- A value at a path of the upper value stands over what is there below it. -/
theorem at?_layer_of_at?_eq_some (h : upper.Distinct) (base : Option ConfigValue) (hat : upper.at? p = some u) :
    (layer upper base).at? p = some (layer u (base.bind fun b => b.at? p)) := by
  induction p generalizing upper base with
  | nil =>
    obtain rfl : upper = u := by cases upper <;> exact Option.some.inj hat
    have hself : ∀ v : ConfigValue, v.at? [] = some v := fun v => by cases v <;> rfl
    simp only [hself, Option.bind_fun_some]
  | cons k ks ih =>
    cases h with
    | scalar s => cases hat
    | list _ => cases hat
    | @mapping entries hkeys hvalues =>
      rw [at?_mapping_cons] at hat
      obtain ⟨v, hv, hat⟩ := Option.bind_eq_some_iff.mp hat
      have hnested := ih (hvalues _ (Table.mem_of_get? hv)) (base.bind fun b => b.at? [k]) hat
      rw [at?_layer_mapping_cons hkeys, hv, bind_at?_cons base k ks]
      exact hnested

/-- Nothing stands at a path on which a value of the upper value is in the way. -/
theorem at?_layer_of_blocks (h : upper.Distinct) (base : Option ConfigValue) (hblocks : upper.Blocks p) :
    (layer upper base).at? p = none := by
  induction p generalizing upper base with
  | nil => exact absurd hblocks (not_blocks_nil upper)
  | cons k ks ih =>
    cases h with
    | scalar s => rw [layer_of_mapping?_eq_none rfl, at?_cons_of_mapping?_eq_none rfl]
    | list _ => rw [layer_of_mapping?_eq_none rfl, at?_cons_of_mapping?_eq_none rfl]
    | @mapping entries hkeys hvalues =>
      obtain ⟨v, hv, hblocks⟩ := blocks_mapping_cons_iff.mp hblocks
      rw [at?_layer_mapping_cons hkeys, hv]
      exact ih (hvalues _ (Table.mem_of_get? hv)) _ hblocks

/-- Where the upper value has nothing at a path and nothing in the way, the lower one shows. -/
theorem at?_layer_of_not_blocks (h : upper.Distinct) (base : Option ConfigValue) (hat : upper.at? p = none)
    (hblocks : ¬ upper.Blocks p) : (layer upper base).at? p = base.bind fun b => b.at? p := by
  induction p generalizing upper base with
  | nil => cases upper <;> cases hat
  | cons k ks ih =>
    cases h with
    | scalar s => exact absurd (blocks_cons_of_mapping?_eq_none rfl) hblocks
    | list _ => exact absurd (blocks_cons_of_mapping?_eq_none rfl) hblocks
    | @mapping entries hkeys hvalues =>
      rw [at?_mapping_cons] at hat
      rw [at?_layer_mapping_cons hkeys]
      cases hv : entries.get? k with
      | none => rfl
      | some v =>
        rw [hv] at hat
        have hfree : ¬ v.Blocks ks := fun hv' => hblocks (blocks_mapping_cons_iff.mpr ⟨v, hv, hv'⟩)
        rw [bind_at?_cons base k ks]
        exact ih (hvalues _ (Table.mem_of_get? hv)) _ hat hfree

end Paths

/-- What stands at a path of one mapping over another. -/
structure LayeredAt (base upper : ConfigMap) (p : List Scalar) : Prop where
  /-- A value of the upper mapping that is no mapping stands. -/
  value : ∀ v, (mapping upper).at? p = some v → v.mapping? = none →
    (mapping (deepMerge base upper)).at? p = some v
  /-- Two mappings are layered. -/
  both : ∀ m m', (mapping upper).at? p = some (.mapping m) → (mapping base).at? p = some (.mapping m') →
    (mapping (deepMerge base upper)).at? p = some (.mapping (deepMerge m' m))
  /-- A mapping of the upper one stands as it is where there is none in the lower one. -/
  alone : ∀ m, (mapping upper).at? p = some (.mapping m) → (∀ m', (mapping base).at? p ≠ some (.mapping m')) →
    (mapping (deepMerge base upper)).at? p = some (.mapping m)
  /-- Nothing stands below a value of the upper mapping that is no mapping. -/
  blocked : (mapping upper).at? p = none → (mapping upper).Blocks p →
    (mapping (deepMerge base upper)).at? p = none
  /-- Otherwise the lower mapping shows. -/
  below : (mapping upper).at? p = none → ¬ (mapping upper).Blocks p →
    (mapping (deepMerge base upper)).at? p = (mapping base).at? p

theorem layeredAt (base : ConfigMap) {upper : ConfigMap} (h : (mapping upper).Distinct) (p : List Scalar) :
    LayeredAt base upper p := by
  have hover : ∀ u, (mapping upper).at? p = some u →
      (mapping (deepMerge base upper)).at? p = some (layer u ((mapping base).at? p)) := fun u hu => by
    rw [← layer_mapping]
    exact at?_layer_of_at?_eq_some h (some (.mapping base)) hu
  constructor
  case value =>
    intro v hv hmapping
    rw [hover v hv, layer_of_mapping?_eq_none hmapping]
  case both =>
    intro m m' hm hm'
    rw [hover _ hm, hm', layer_mapping]
  case alone =>
    intro m hm hne
    rw [hover _ hm, layer_mapping_of_ne m hne]
  case blocked =>
    intro _ hblocks
    rw [← layer_mapping]
    exact at?_layer_of_blocks h (some (.mapping base)) hblocks
  case below =>
    intro hnone hblocks
    rw [← layer_mapping]
    exact at?_layer_of_not_blocks h (some (.mapping base)) hnone hblocks

end ConfigValue

/-! ## Dotted keys -/

namespace Layers

open ConfigValue

/-- The path that a dotted key stands for. -/
def keyPath (key : String) : List Scalar :=
  (Dotted.parts key).map .text

theorem value?_eq (l : Layers) (key : String) : l.value? key = (mapping l.values).at? (keyPath key) :=
  lookUp?_eq _ _

/-- **Looking up in layers.**  At a path of one mapping over another stands what the two have there: a value of the
upper one that is no mapping, two mappings layered, a mapping of the upper one alone, nothing below a value of the
upper one, and else what the lower one has.  So a mapping twice over another one is the same as once, and the empty
mapping adds nothing on either side.  A dotted key is looked up as the path of its parts, and what is given instead
is given only where there is nothing at all. -/
theorem get_of_layers (base upper : ConfigMap) (h : (mapping upper).Distinct) :
    (∀ p, LayeredAt base upper p) ∧
    deepMerge (deepMerge base upper) upper = deepMerge base upper ∧
    deepMerge [] upper = upper ∧ deepMerge base [] = base ∧
    ∀ (l : Layers) (key : String) (default : ConfigValue),
      (∀ v, (mapping l.values).at? (keyPath key) = some v → l.get key default = v) ∧
      ((mapping l.values).at? (keyPath key) = none → l.get key default = default) := by
  refine ⟨layeredAt base h, deepMerge_self base h, ?_, by rw [deepMerge], fun l key default => ?_⟩
  · cases h with
    | mapping hkeys _ => exact deepMerge_nil_left hkeys
  · rw [get, value?_eq]
    exact ⟨fun v hv => by rw [hv, Option.getD_some], fun hnone => by rw [hnone, Option.getD_none]⟩

/-! ### A null over a text -/

/-- Settings of the parser, and one of a later file, where nothing is given as the language. -/
def languageLayers : ConfigMap × ConfigMap :=
  ([(.text "parser",
    .mapping [(.text "default_language", .text "java"), (.text "max_source_bytes", .scalar (.int 9))])],
    [(.text "parser", .mapping [(.text "default_language", .null)])])

theorem get_of_layers_null :
    let base := languageLayers.1
    let upper := languageLayers.2
    let l : Layers := { values := deepMerge base upper }
    (mapping upper).Distinct ∧
    (mapping (deepMerge base upper)).at? [.text "parser", .text "default_language"] = some .null ∧
    (mapping (deepMerge base upper)).at? [.text "parser", .text "max_source_bytes"] = some (.scalar (.int 9)) ∧
    deepMerge (deepMerge base upper) upper = deepMerge base upper ∧
    l.get "parser.default_language" (.text "python") = .null := by
  intro base upper l
  have hdistinct : (mapping upper).Distinct := by
    refine .mapping (by decide) fun e he => ?_
    obtain rfl := List.mem_singleton.mp he
    refine .mapping (by decide) fun e he => ?_
    obtain rfl := List.mem_singleton.mp he
    exact .scalar .null
  obtain ⟨hpaths, htwice, -, -, hget⟩ := get_of_layers base upper hdistinct
  have hnull := (hpaths [.text "parser", .text "default_language"]).value .null rfl rfl
  have hbelow := (hpaths [.text "parser", .text "max_source_bytes"]).below rfl fun hblocks => by
    obtain ⟨v, hv, hblocks⟩ := blocks_mapping_cons_iff.mp hblocks
    obtain rfl := Option.some.inj hv
    obtain ⟨u, hu, -⟩ := blocks_mapping_cons_iff.mp hblocks
    cases hu
  exact ⟨hdistinct, hnull, hbelow, htwice, (hget l "parser.default_language" (.text "python")).1 .null hnull⟩

end Layers

end SourceOutline
