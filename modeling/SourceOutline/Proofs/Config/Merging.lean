import SourceOutline.Proofs.Config.Layers
import SourceOutline.Proofs.Yaml.Keys

/-!
# What layered mappings hold

* `ConfigValue.get?_deepMerge`: what stands at a key after one mapping was layered over another.
* `ConfigMap.Orderly`: no key twice in a mapping or in its sections, and only names of settings in the
  sections for settings.  Mappings that are read from files are so as far as keys go
  (`Layers.distinct_readFile`), and layering keeps it (`ConfigMap.Orderly.foldl_deepMerge`).
* `Layers.ofFiles_eq_ok`: the configuration of files that can all be read.
-/

namespace SourceOutline

/-! ## One mapping over another -/

namespace ConfigValue

theorem keys_deepMerge (base entries : ConfigMap) (key : Scalar) :
    key ∈ (deepMerge base entries).keys ↔ key ∈ base.keys ∨ key ∈ entries.keys := by
  induction entries generalizing base with
  | nil => simp [deepMerge, Table.keys]
  | cons e es ih =>
    obtain ⟨k, v⟩ := e
    rw [deepMerge, ih, Table.mem_keys_set]
    simp only [Table.keys, List.map_cons, List.mem_cons]
    tauto

theorem nodup_keys_deepMerge {base : ConfigMap} (h : base.keys.Nodup) (entries : ConfigMap) :
    (deepMerge base entries).keys.Nodup := by
  induction entries generalizing base with
  | nil => exact h
  | cons e es ih =>
    rw [deepMerge]
    exact ih (Table.nodup_keys_set h _ _)

/-- At a key of the upper mapping stands its value, over the one below; any other key is as it was. -/
theorem get?_deepMerge (base : ConfigMap) {entries : ConfigMap} (h : entries.keys.Nodup) (key : Scalar) :
    (deepMerge base entries).get? key =
      match entries.get? key with
      | some v => some (layer v (base.get? key))
      | none => base.get? key := by
  induction entries generalizing base with
  | nil => rfl
  | cons e es ih =>
    obtain ⟨k, v⟩ := e
    obtain ⟨hk, hes⟩ := List.nodup_cons.mp h
    rw [deepMerge, ih _ hes, Table.get?_set, Table.get?]
    by_cases hkey : k = key
    · subst hkey
      rw [Table.get?_eq_none_iff.mpr hk]
      simp
    · simp [hkey]

end ConfigValue

/-! ## Orderly mappings -/

namespace ConfigMap

/-- A key that names a setting.  A text that begins with an underscore does not: it would say how settings
are read. -/
def isSettingName : Scalar → Bool
  | .text name => name.toList.head? ≠ some '_'
  | _ => false

/-- The entries of a section; none if it is no mapping. -/
def entriesOf (m : ConfigMap) (part : String) : ConfigMap :=
  ((m.get? (.text part)).bind ConfigValue.mapping?).getD []

/-- The sections for settings have only names of settings as keys. -/
def NamesSettings (m : ConfigMap) : Prop :=
  ∀ part ∈ ["parser", "logging"], ∀ key ∈ (m.entriesOf part).keys, isSettingName key

instance (m : ConfigMap) : Decidable m.NamesSettings :=
  inferInstanceAs (Decidable (∀ part ∈ ["parser", "logging"], ∀ key ∈ (m.entriesOf part).keys,
    isSettingName key))

/-- No key stands twice, and sections for settings have only names of settings. -/
structure Orderly (m : ConfigMap) : Prop where
  nodup : m.keys.Nodup
  nodup_section : ∀ part, (m.entriesOf part).keys.Nodup
  names : NamesSettings m

theorem orderly_nil : Orderly [] where
  nodup := List.nodup_nil
  nodup_section _ := List.nodup_nil
  names _ _ _ h := absurd h List.not_mem_nil

theorem Orderly.of_distinct {m : ConfigMap} (h : (ConfigValue.mapping m).Distinct) (hnames : NamesSettings m) :
    Orderly m := by
  cases h with
  | mapping hkeys hvalues =>
    refine ⟨hkeys, fun part => ?_, hnames⟩
    unfold entriesOf
    cases hpart : m.get? (.text part) with
    | none => exact List.nodup_nil
    | some v =>
      cases hvalues _ (Table.mem_of_get? hpart) with
      | scalar s => exact List.nodup_nil
      | list _ => exact List.nodup_nil
      | mapping hsection _ => exact hsection

/-- A section of layered mappings is that of one of them, or theirs are layered. -/
theorem entriesOf_deepMerge (base : ConfigMap) {upper : ConfigMap} (h : upper.keys.Nodup) (part : String) :
    (ConfigValue.deepMerge base upper).entriesOf part = base.entriesOf part ∨
    (ConfigValue.deepMerge base upper).entriesOf part = upper.entriesOf part ∨
    (ConfigValue.deepMerge base upper).entriesOf part =
      ConfigValue.deepMerge (base.entriesOf part) (upper.entriesOf part) := by
  unfold entriesOf
  rw [ConfigValue.get?_deepMerge base h]
  cases upper.get? (.text part) with
  | none => exact .inl rfl
  | some v =>
    cases v with
    | scalar s => exact .inr (.inl rfl)
    | list items => exact .inr (.inl rfl)
    | mapping entries =>
      cases base.get? (.text part) with
      | none => exact .inr (.inl (by simp [ConfigValue.layer]))
      | some lower =>
        cases lower with
        | scalar s => exact .inr (.inl (by simp [ConfigValue.layer]))
        | list items => exact .inr (.inl (by simp [ConfigValue.layer]))
        | mapping b => exact .inr (.inr (by simp [ConfigValue.layer, ConfigValue.mapping?]))

/-- **Layering keeps mappings orderly.** -/
theorem Orderly.deepMerge {base upper : ConfigMap} (hbase : Orderly base) (hupper : Orderly upper) :
    Orderly (ConfigValue.deepMerge base upper) where
  nodup := ConfigValue.nodup_keys_deepMerge hbase.nodup upper
  nodup_section part := by
    obtain heq | heq | heq := entriesOf_deepMerge base hupper.nodup part <;> rw [heq]
    · exact hbase.nodup_section part
    · exact hupper.nodup_section part
    · exact ConfigValue.nodup_keys_deepMerge (hbase.nodup_section part) _
  names part hpart key hkey := by
    obtain heq | heq | heq := entriesOf_deepMerge base hupper.nodup part <;> rw [heq] at hkey
    · exact hbase.names part hpart key hkey
    · exact hupper.names part hpart key hkey
    · rcases (ConfigValue.keys_deepMerge _ _ key).mp hkey with hkey | hkey
      · exact hbase.names part hpart key hkey
      · exact hupper.names part hpart key hkey

theorem Orderly.foldl_deepMerge {ms : List ConfigMap} (h : ∀ m ∈ ms, Orderly m) {base : ConfigMap}
    (hbase : Orderly base) : Orderly (ms.foldl ConfigValue.deepMerge base) := by
  induction ms generalizing base with
  | nil => exact hbase
  | cons m ms ih =>
    obtain ⟨hm, hms⟩ := List.forall_mem_cons.mp h
    exact ih hms (hbase.deepMerge hm)

end ConfigMap

/-! ## Files -/

namespace Layers

variable {fs : Files}

/-- No mapping in a file has a key twice. -/
theorem distinct_readFile {path : String} {m : ConfigMap} (h : readFile fs path = .ok m) :
    (ConfigValue.mapping m).Distinct := by
  unfold readFile at h
  split at h
  · rename_i text _
    unfold readMapping at h
    split at h
    · cases h
    · cases h
    · rename_i v hv
      have hdistinct := Yaml.distinct_parse? hv
      split at h
      · obtain rfl := Except.ok.inj h
        exact .mapping List.nodup_nil (by simp)
      · obtain rfl := Except.ok.inj h
        exact hdistinct
      · cases h
  · cases h
  · cases h

theorem withFile_eq_ok {path : String} {m : ConfigMap} (h : readFile fs (Path.normal path) = .ok m)
    (l : Layers) :
    withFile fs l path = .ok { l with values := ConfigValue.deepMerge l.values m
                                      sources := l.sources ++ [Path.normal path] } := by
  obtain ⟨f, hread, -⟩ | ⟨m', hread, heq⟩ := merge_cases fs l path
  · rw [h] at hread
    cases hread
  · obtain rfl : m = m' := Except.ok.inj (h.symm.trans hread)
    dsimp only [withFile]
    rw [heq]
    rfl

/-- Files over a configuration are layered over it one by one. -/
theorem foldlM_withFile {paths : List String} {ms : List ConfigMap} (l : Layers)
    (h : paths.mapM (fun path => readFile fs (Path.normal path)) = .ok ms) :
    paths.foldlM (withFile fs) l =
      .ok { l with values := ms.foldl ConfigValue.deepMerge l.values
                   sources := l.sources ++ paths.map Path.normal } := by
  induction paths generalizing l ms with
  | nil =>
    obtain rfl : [] = ms := by simpa [pure, Except.pure] using h
    simp [pure, Except.pure]
  | cons path paths ih =>
    rw [List.mapM_cons] at h
    obtain ⟨m, hm, h⟩ := bind_eq_ok_iff.mp h
    obtain ⟨ms', hms', h⟩ := bind_eq_ok_iff.mp h
    obtain rfl := Except.ok.inj h
    rw [List.foldlM_cons, withFile_eq_ok hm l]
    refine (ih _ hms').trans ?_
    simp

/-- **The configuration of files that can be read** holds the mappings in them, one over the other. -/
theorem ofFiles_eq_ok {paths : List String} {ms : List ConfigMap}
    (h : paths.mapM (fun path => readFile fs (Path.normal path)) = .ok ms) :
    ofFiles fs paths =
      .ok { values := ms.foldl ConfigValue.deepMerge [], sources := paths.map Path.normal } := by
  rw [ofFiles, foldlM_withFile {} h]
  simp

/-- Files whose sections for settings have only names of settings make up an orderly configuration. -/
theorem orderly_of_files {paths : List String} {ms : List ConfigMap}
    (h : paths.mapM (fun path => readFile fs (Path.normal path)) = .ok ms)
    (hnames : ∀ m ∈ ms, m.NamesSettings) : (ms.foldl ConfigValue.deepMerge []).Orderly := by
  refine ConfigMap.Orderly.foldl_deepMerge (fun m hm => ?_) ConfigMap.orderly_nil
  obtain ⟨path, -, hread⟩ := exists_of_mem_of_mapM_eq_ok h hm
  exact .of_distinct (distinct_readFile hread) (hnames m hm)

end Layers

end SourceOutline
