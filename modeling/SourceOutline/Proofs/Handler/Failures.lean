import SourceOutline.Proofs.Handler.Answers
import SourceOutline.Proofs.Java.Failures
import SourceOutline.Proofs.Python.Failures

/-!
# When a tree without errors has no types

Extraction from a tree without errors fails over shapes that no grammar gives: for Java over a
declaration that contradicts its kind, for Python over a method with a bare parameter.  Otherwise there
are types.

Main statement: `Handler.fails_only_over_shapes`.
-/

namespace SourceOutline.Handler

/-- **Failures of extraction**: with a tree without errors, the types for Java are missing exactly if a
collected declaration contradicts its kind, and the error says so; those for Python are missing exactly if
a method of a collected class has a bare parameter, and the error is the missing child, since no class
contradicts its kind. -/
theorem fails_only_over_shapes (src : Source) (root : Node) (hok : root.hasError = false) :
    let contradiction := ∃ scope n, Java.Collected src root scope n ∧ Java.ContradictsKind src scope n
    let bare := ∃ c f, Python.Collected src root c ∧ Python.IsMethod c f ∧ Python.HasBareParameter f
    ((∃ v, (java.detailsIn src root).result = .error (Java.failureOf v)) ↔ contradiction) ∧
      ((∃ ds, (java.detailsIn src root).result = .ok ds) ↔ ¬ contradiction) ∧
      (∀ module, ((python module).detailsIn src root).result = .error .missingChild ↔ bare) ∧
      (∀ module, (∃ ds, ((python module).detailsIn src root).result = .ok ds) ↔ ¬ bare) ∧
      ∀ scope outer d, (Python.header src scope outer d).violation? = none := by
  intro contradiction bare
  have hresult : ∀ h : Handler, (h.detailsIn src root).result = (h.treeDetails src root).result := by
    intro h
    rw [result_detailsIn, hok]
    rfl
  simp only [hresult]
  refine ⟨Java.exists_details_eq_error_iff, ?_, fun module => Python.details_eq_error_iff, fun module => ?_,
    Python.violation?_header src⟩
  · refine Java.exists_details_eq_ok_iff.trans ?_
    simp only [contradiction, not_exists, not_and]
  · refine Python.exists_details_eq_ok_iff.trans ?_
    simp only [bare, not_exists, not_and]

/-! ## A tree that neither language has types for -/

/-- Two names. -/
def oddSource : Source :=
  .ofString "I C"

/-- An interface that extends a class. -/
def oddInterface : Node where
  kind := "interface_declaration"
  start := 0
  stop := 1
  children := [
    { kind := "identifier", start := 0, stop := 1, field := some "name" },
    { kind := "superclass", start := 1, stop := 1,
      children := [{ kind := "type_identifier", start := 1, stop := 1 }] }]

/-- A method with a bare parameter. -/
def oddMethod : Node where
  kind := "function_definition"
  start := 3
  stop := 3
  children := [
    { kind := "parameters", start := 3, stop := 3, field := some "parameters",
      children := [{ kind := "typed_parameter", start := 3, stop := 3 }] }]

/-- A class with this method. -/
def oddClass : Node where
  kind := "class_definition"
  start := 2
  stop := 3
  children := [
    { kind := "identifier", start := 2, stop := 3, field := some "name" },
    { kind := "block", start := 3, stop := 3, field := some "body", children := [oddMethod] }]

/-- A tree of both. -/
def oddTree : Node where
  kind := "program"
  start := 0
  stop := 3
  children := [oddInterface, oddClass]

theorem fails_over_oddTree :
    oddTree.hasError = false ∧ (∃ v, (java.detailsIn oddSource oddTree).result = .error (Java.failureOf v)) ∧
      ((python "m").detailsIn oddSource oddTree).result = .error .missingChild := by
  have hok : oddTree.hasError = false := by decide +kernel
  have hinterface : Java.Collected oddSource oddTree (Java.fileScope oddSource oddTree) oddInterface :=
    .top List.mem_cons_self (by decide) (by decide +kernel)
  have hcontradicts : Java.ContradictsKind oddSource (Java.fileScope oddSource oddTree) oddInterface :=
    .inl ⟨by decide, _, rfl, by decide⟩
  have hclass : Python.Collected oddSource oddTree oddClass :=
    .top (.here (List.mem_cons_of_mem _ List.mem_cons_self) rfl) (by decide +kernel)
  have hmethod : Python.IsMethod oddClass oddMethod :=
    ⟨_, rfl, oddMethod, List.mem_singleton_self _, rfl⟩
  have hbare : Python.HasBareParameter oddMethod :=
    ⟨_, rfl, _, List.mem_singleton_self _, rfl, rfl⟩
  obtain ⟨hjava, -, hpython, -, -⟩ := fails_only_over_shapes oddSource oddTree hok
  exact ⟨hok, hjava.mpr ⟨_, _, hinterface, hcontradicts⟩, (hpython "m").mpr ⟨_, _, hclass, hmethod, hbare⟩⟩

end SourceOutline.Handler
