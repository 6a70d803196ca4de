import Mathlib.Data.List.Induction
import SourceOutline.Config.Layers
import SourceOutline.Proofs.Outcome

/-!
# Layers and the files they come from

Whatever is loaded and merged, and whichever of it fails, the values are those of the recorded files,
layered in their order over nothing (`Layers.Accounted`).

* `Layers.merge_cases`, `Layers.load_cases`: what a call does to the configuration, in the one case and
  in the other.
* `Layers.Accounted.call`: a call keeps the values accounted for; `Layers.accounted_after` says so of
  any number of calls.

Main statement: `Layers.after_layers_sources`.
-/

namespace SourceOutline.Layers

variable {fs : Files} {l : Layers}

/-- The mappings in some files, one layered over the other, from nothing on. -/
def layered (fs : Files) (paths : List String) : Except Failure ConfigMap :=
  (paths.mapM (readFile fs)).map fun ms => ms.foldl ConfigValue.deepMerge []

/-- The values are those of the recorded files. -/
def Accounted (fs : Files) (l : Layers) : Prop :=
  layered fs l.sources = .ok l.values

/-! ## One call -/

section Call

/-- Merging fails and changes nothing, or the file stands over what was there and is recorded. -/
theorem merge_cases (fs : Files) (l : Layers) (path : String) :
    (∃ f, readFile fs (Path.normal path) = .error f ∧ l.merge fs path = (l, .error f)) ∨
    (∃ m, readFile fs (Path.normal path) = .ok m ∧
      l.merge fs path = ({ l with values := ConfigValue.deepMerge l.values m
                                  sources := l.sources ++ [Path.normal path] },
        .ok (ConfigValue.deepMerge l.values m))) := by
  dsimp only [merge]
  generalize readFile fs (Path.normal path) = read
  cases read with
  | error f => exact .inl ⟨f, rfl, rfl⟩
  | ok m => exact .inr ⟨m, rfl, rfl⟩

/-- Loading leaves nothing if there is no file or it cannot be read, and else that file alone. -/
theorem load_cases (fs : Files) (l : Layers) (path : Option String) :
    (path.or l.usual = none ∧ l.load fs path = ({ usual := l.usual }, .ok [])) ∨
    (∃ p, path.or l.usual = some p ∧ l.load fs path = merge fs { usual := l.usual } p) := by
  cases h : path.or l.usual with
  | none => exact .inl ⟨rfl, by simp only [load, h]⟩
  | some p => exact .inr ⟨p, rfl, by simp only [load, h]⟩

theorem accounted_nothing (fs : Files) (usual : Option String) : Accounted fs { usual } := rfl

/-- One more file is layered over the others. -/
theorem layered_concat {paths : List String} {path : String} {m m' : ConfigMap}
    (h : layered fs paths = .ok m) (hread : readFile fs path = .ok m') :
    layered fs (paths ++ [path]) = .ok (ConfigValue.deepMerge m m') := by
  obtain ⟨ms, hms, rfl⟩ := map_eq_ok_iff.mp h
  have hall : (paths ++ [path]).mapM (readFile fs) = .ok (ms ++ [m']) := by
    rw [List.mapM_append, hms]
    simp [hread, bind, Except.bind, pure, Except.pure]
  rw [layered, hall]
  simp [Except.map, List.foldl_append]

theorem Accounted.merge (h : Accounted fs l) (path : String) : Accounted fs (l.merge fs path).1 := by
  obtain ⟨f, -, heq⟩ | ⟨m, hread, heq⟩ := merge_cases fs l path
  · rw [heq]
    exact h
  · rw [heq]
    exact layered_concat h hread

theorem usual_merge (fs : Files) (l : Layers) (path : String) : (l.merge fs path).1.usual = l.usual := by
  obtain ⟨f, -, heq⟩ | ⟨m, -, heq⟩ := merge_cases fs l path <;> rw [heq]

theorem usual_call (fs : Files) (l : Layers) (c : Call) : (l.call fs c).1.usual = l.usual := by
  cases c with
  | merge path => rw [call, usual_merge]
  | load path =>
    obtain ⟨-, heq⟩ | ⟨p, -, heq⟩ := load_cases fs l path
    · rw [call, heq]
    · rw [call, heq, usual_merge]

/-- **A call keeps the values accounted for**, also if it fails. -/
theorem Accounted.call (h : Accounted fs l) (c : Call) : Accounted fs (l.call fs c).1 := by
  cases c with
  | merge path =>
    rw [Layers.call]
    exact h.merge path
  | load path =>
    obtain ⟨-, heq⟩ | ⟨p, -, heq⟩ := load_cases fs l path
    · rw [Layers.call, heq]
      exact accounted_nothing fs l.usual
    · rw [Layers.call, heq]
      exact (accounted_nothing fs l.usual).merge p

end Call

/-! ## Any number of calls -/

section Calls

theorem after_concat (fs : Files) (l : Layers) (cs : List Call) (c : Call) :
    l.after fs (cs ++ [c]) = ((l.after fs cs).call fs c).1 := by
  simp [after, List.foldl_append]

theorem accounted_after (h : Accounted fs l) (cs : List Call) : Accounted fs (l.after fs cs) := by
  induction cs using List.reverseRecOn with
  | nil => exact h
  | append_singleton cs c ih =>
    rw [after_concat]
    exact ih.call c

theorem usual_after (fs : Files) (l : Layers) (cs : List Call) : (l.after fs cs).usual = l.usual := by
  induction cs using List.reverseRecOn with
  | nil => rfl
  | append_singleton cs c ih => rw [after_concat, usual_call, ih]

/-- **The values are those of the sources.**  After any calls, the values are the mappings in the
recorded files, layered in this order over nothing.  From there on, to merge a file fails if reading it
does, and then changes nothing, or else records it last; to load fails likewise, and then leaves nothing,
or else that one file. -/
theorem after_layers_sources (fs : Files) (usual : Option String) (calls : List Call) :
    let l := after fs { usual } calls
    (∃ ms, l.sources.mapM (readFile fs) = .ok ms ∧ l.values = ms.foldl ConfigValue.deepMerge []) ∧
    (∀ path,
      (∀ f, readFile fs (Path.normal path) = .error f ↔ (l.merge fs path).2 = .error f) ∧
      (∀ f, (l.merge fs path).2 = .error f → (l.merge fs path).1 = l) ∧
      (∀ m, (l.merge fs path).2 = .ok m →
        (l.merge fs path).1.sources = l.sources ++ [Path.normal path] ∧ (l.merge fs path).1.values = m)) ∧
    ∀ path,
      (∀ f, (∃ p, path.or usual = some p ∧ readFile fs (Path.normal p) = .error f) ↔
        (l.load fs path).2 = .error f) ∧
      (∀ f, (l.load fs path).2 = .error f →
        (l.load fs path).1.values = [] ∧ (l.load fs path).1.sources = []) ∧
      (∀ m, (l.load fs path).2 = .ok m →
        (l.load fs path).1.sources = (path.or usual).toList.map Path.normal ∧
          (l.load fs path).1.values = m) := by
  intro l
  have haccounted : Accounted fs l := accounted_after (accounted_nothing fs usual) calls
  have husual : l.usual = usual := usual_after fs { usual } calls
  refine ⟨?_, fun path => ?_, fun path => ?_⟩
  · obtain ⟨ms, hms, hvalues⟩ := map_eq_ok_iff.mp haccounted
    exact ⟨ms, hms, hvalues.symm⟩
  · obtain ⟨f, hread, heq⟩ | ⟨m, hread, heq⟩ := merge_cases fs l path
    · simp [heq, hread]
    · simp [heq, hread]
  · obtain ⟨hnone, heq⟩ | ⟨p, hsome, heq⟩ := load_cases fs l path
    · rw [husual] at hnone
      simp [heq, hnone]
    · rw [husual] at hsome
      obtain ⟨f, hread, hmerge⟩ | ⟨m, hread, hmerge⟩ := merge_cases fs { usual := l.usual } p
      · simp [heq, hmerge, hsome, hread]
      · simp [heq, hmerge, hsome, hread]

end Calls

end SourceOutline.Layers
