import SourceOutline.Proofs.Outcome
import SourceOutline.Proofs.Table
import SourceOutline.Yaml.Reader

/-!
# Keys in YAML texts

No mapping that is read from a text has a key twice, at whatever depth (`ConfigValue.Distinct`); this
holds of mappings that are merged in as well.

* `Yaml.distinct_valueOf`: the value of a node, with `Yaml.distinct_entriesOf` for its entries.
* `Yaml.distinct_parse?`: the value of a text.
-/

namespace SourceOutline

/-- No mapping in the value has a key twice. -/
inductive ConfigValue.Distinct : ConfigValue → Prop where
  | scalar (s : Scalar) : Distinct (.scalar s)
  | list {items : List ConfigValue} (hitems : ∀ v ∈ items, Distinct v) : Distinct (.list items)
  | mapping {entries : ConfigMap} (hkeys : entries.keys.Nodup) (hvalues : ∀ e ∈ entries, Distinct e.2) :
    Distinct (.mapping entries)

namespace Yaml

section Merging

/-- The values of some entries have no key twice. -/
abbrev DistinctValues (entries : List (Scalar × ConfigValue)) : Prop :=
  ∀ e ∈ entries, e.2.Distinct

theorem distinct_ofPairs {entries : List (Scalar × ConfigValue)} (h : DistinctValues entries) :
    (ConfigValue.mapping (Table.ofPairs entries)).Distinct :=
  .mapping (Table.nodup_keys_ofPairs entries) fun e he => h e (Table.mem_of_mem_ofPairs he)

/-- Items of a list that are merged in, one after the other. -/
theorem distinct_foldlM_merged {items : List ConfigValue} (h : ∀ v ∈ items, v.Distinct)
    {entries merged : List (Scalar × ConfigValue)} (hentries : DistinctValues entries)
    (hmerged : items.foldlM (fun es v => match v with
      | .mapping more => Except.ok (es ++ more)
      | _ => .error Fault.malformed) entries = .ok merged) : DistinctValues merged := by
  induction items generalizing entries with
  | nil =>
    obtain rfl : entries = merged := by simpa [pure, Except.pure] using hmerged
    exact hentries
  | cons v vs ih =>
    rw [List.foldlM_cons] at hmerged
    obtain ⟨entries', hv, hmerged⟩ := bind_eq_ok_iff.mp hmerged
    refine ih (fun u hu => h u (List.mem_cons_of_mem _ hu)) ?_ hmerged
    cases v with
    | scalar s => cases hv
    | list vs => cases hv
    | mapping more =>
      obtain rfl : entries ++ more = entries' := by simpa using hv
      cases h _ List.mem_cons_self with
      | mapping _ hmore => exact fun e he => (List.mem_append.mp he).elim (hentries e) (hmore e)

theorem distinct_mergedEntries {v : ConfigValue} (h : v.Distinct) {merged : List (Scalar × ConfigValue)}
    (hmerged : mergedEntries v = .ok merged) : DistinctValues merged := by
  cases h with
  | scalar s => cases hmerged
  | list hitems =>
    refine distinct_foldlM_merged (fun v hv => hitems v (List.mem_reverse.mp hv)) ?_ hmerged
    simp
  | mapping _ hvalues =>
    obtain rfl := Except.ok.inj hmerged
    exact hvalues

end Merging

section Nodes

mutual

theorem distinct_valueOf : ∀ {n : YamlNode} {v : ConfigValue}, valueOf n = .ok v → v.Distinct
  | .scalar tag isPlain text, v, h => by
    rw [valueOf] at h
    obtain ⟨m, -, h⟩ := bind_eq_ok_iff.mp h
    obtain ⟨s, -, h⟩ := bind_eq_ok_iff.mp h
    obtain rfl := Except.ok.inj h
    exact .scalar s
  | .sequence tag items, v, h => by
    rw [valueOf] at h
    split at h
    · obtain ⟨vs, hvs, rfl⟩ := map_eq_ok_iff.mp h
      exact .list (distinct_valuesOf hvs)
    · cases h
  | .mapping tag entries, v, h => by
    rw [valueOf] at h
    split at h
    · obtain ⟨⟨merged, own⟩, hentries, h⟩ := bind_eq_ok_iff.mp h
      obtain rfl := Except.ok.inj h
      have hdistinct := distinct_entriesOf hentries
      exact distinct_ofPairs (List.forall_mem_append.mpr hdistinct)
    · cases h

theorem distinct_valuesOf : ∀ {ns : List YamlNode} {vs : List ConfigValue}, valuesOf ns = .ok vs →
    ∀ v ∈ vs, v.Distinct
  | [], vs, h => by
    obtain rfl := Except.ok.inj h
    simp
  | n :: ns, vs, h => by
    rw [valuesOf] at h
    obtain ⟨v, hv, h⟩ := bind_eq_ok_iff.mp h
    obtain ⟨vs', hvs', h⟩ := bind_eq_ok_iff.mp h
    obtain rfl := Except.ok.inj h
    exact List.forall_mem_cons.mpr ⟨distinct_valueOf hv, distinct_valuesOf hvs'⟩

/-- The entries that are merged in, and those of the mapping itself. -/
theorem distinct_entriesOf : ∀ {es : List (YamlNode × YamlNode)}
    {p : List (Scalar × ConfigValue) × List (Scalar × ConfigValue)}, entriesOf es = .ok p →
    DistinctValues p.1 ∧ DistinctValues p.2
  | [], p, h => by
    obtain rfl := Except.ok.inj h
    simp
  | (k, n) :: es, p, h => by
    rw [entriesOf] at h
    obtain ⟨v, hv, h⟩ := bind_eq_ok_iff.mp h
    have hdistinct := distinct_valueOf hv
    split at h
    · obtain ⟨more, hmore, h⟩ := bind_eq_ok_iff.mp h
      obtain ⟨⟨merged, own⟩, hes, h⟩ := bind_eq_ok_iff.mp h
      obtain rfl := Except.ok.inj h
      obtain ⟨hmerged, hown⟩ := distinct_entriesOf hes
      exact ⟨List.forall_mem_append.mpr ⟨distinct_mergedEntries hdistinct hmore, hmerged⟩, hown⟩
    · obtain ⟨key, -, h⟩ := bind_eq_ok_iff.mp h
      obtain ⟨⟨merged, own⟩, hes, h⟩ := bind_eq_ok_iff.mp h
      obtain rfl := Except.ok.inj h
      obtain ⟨hmerged, hown⟩ := distinct_entriesOf hes
      exact ⟨hmerged, List.forall_mem_cons.mpr ⟨hdistinct, hown⟩⟩

end

/-- **No mapping in a text has a key twice.** -/
theorem distinct_parse? {text : String} {v : ConfigValue} (h : parse? text = .ok v) : v.Distinct := by
  unfold parse? at h
  split at h
  · exact distinct_valueOf h
  · cases h

end Nodes

end Yaml

end SourceOutline
