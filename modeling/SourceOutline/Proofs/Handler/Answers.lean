import SourceOutline.Handler.Tree
import SourceOutline.Proofs.Outcome

/-!
# The answers of a handler

The results of the four questions to a handler, without their logs: what a tree with errors is
refused with, and what is read off any other tree.
-/

namespace SourceOutline

theorem Offer.acceptFrom_made (read : Json → Checked α) :
    ∀ (n : Nat) (as : List α), Offer.acceptFrom read n (as.map .made) = .ok as
  | _, [] => rfl
  | n, a :: as => by
    rw [List.map_cons, Offer.acceptFrom, Offer.acceptFrom_made read (n + 1) as]
    rfl

theorem LanguageHandler.assemble_made (is : List Import) (ts : List TypeDecl) :
    LanguageHandler.assemble (is.map .made) (ts.map .made) = .ok ⟨is, ts⟩ := by
  rw [LanguageHandler.assemble, Offer.acceptFrom_made, Offer.acceptFrom_made]
  rfl

namespace Handler

variable (h : Handler) (src : Source) (root : Node)

/-- What a tree with errors is refused with. -/
def refusal : Failure :=
  .reported (malformed h.language (badLine? src root))

theorem result_check :
    (h.check src root).result = if root.hasError then .error (h.refusal src root) else .ok () := by
  unfold check
  by_cases herr : root.hasError = true
  · rw [if_pos herr, if_pos herr]
    rfl
  · rw [if_neg herr, if_neg herr]
    rfl

/-- A tree without errors is let through, and nothing is reported. -/
theorem check_of_not_hasError {root : Node} (hok : root.hasError = false) : h.check src root = pure () := by
  rw [check, hok]
  rfl

theorem result_importsIn :
    (h.importsIn src root).result =
      if root.hasError then .error (h.refusal src root) else .ok (h.treeImports src root) := by
  rw [importsIn, Run.result_bind, result_check]
  by_cases herr : root.hasError = true
  · rw [if_pos herr, if_pos herr]
    rfl
  · rw [if_neg herr, if_neg herr]
    rfl

theorem result_detailsIn :
    (h.detailsIn src root).result =
      if root.hasError then .error (h.refusal src root) else (h.treeDetails src root).result := by
  rw [detailsIn, Run.result_bind, result_check]
  by_cases herr : root.hasError = true
  · rw [if_pos herr, if_pos herr]
    rfl
  · rw [if_neg herr, if_neg herr]
    change (h.treeDetails src root >>= _).result = _
    rw [Run.result_bind]
    cases (h.treeDetails src root).result <;> rfl

/-- Types that are given are those of a tree without errors. -/
theorem of_result_detailsIn_eq_ok {h : Handler} {src : Source} {root : Node} {ds : List TypeDetails}
    (hds : (h.detailsIn src root).result = .ok ds) :
    root.hasError = false ∧ (h.treeDetails src root).result = .ok ds := by
  rw [result_detailsIn] at hds
  split at hds
  · cases hds
  · rename_i herr
    exact ⟨by simpa using herr, hds⟩

theorem result_typesIn :
    (h.typesIn src root).result = (h.detailsIn src root).result.map (List.map TypeDetails.type) := by
  rw [typesIn, Run.result_bind]
  cases (h.detailsIn src root).result <;> rfl

/-- The outline of a file: refused like its imports, or the imports together with the types. -/
theorem result_fileIn (parse : String → Node) (code : String) :
    (h.fileIn parse code).result =
      if (parse code).hasError then .error (h.refusal (.ofString code) (parse code))
      else (h.treeDetails (.ofString code) (parse code)).result.map fun ds =>
        ⟨h.treeImports (.ofString code) (parse code), ds.map TypeDetails.type⟩ := by
  rw [fileIn, LanguageHandler.parseFile, Run.result_bind]
  have his : (LanguageHandler.ask (h.answers parse).imports? code).result =
      (h.importsIn (.ofString code) (parse code)).result.map (List.map Offer.made) :=
    Run.result_map _ _
  have hts : (LanguageHandler.ask (h.answers parse).types? code).result =
      (h.typesIn (.ofString code) (parse code)).result.map (List.map Offer.made) :=
    Run.result_map _ _
  rw [his, result_importsIn]
  by_cases herr : (parse code).hasError = true
  · rw [if_pos herr, if_pos herr]
    rfl
  · rw [if_neg herr, if_neg herr]
    change (LanguageHandler.ask (h.answers parse).types? code >>= _).result = _
    rw [Run.result_bind, hts, result_typesIn, result_detailsIn, if_neg herr]
    cases (h.treeDetails (.ofString code) (parse code)).result with
    | error e => rfl
    | ok ds =>
      simp only [Except.map, bind, Except.bind, Run.andThen, Run.report, LanguageHandler.assemble_made]
      rfl

/-- An outline that is given is that of a tree without errors. -/
theorem of_result_fileIn_eq_ok {h : Handler} {parse : String → Node} {code : String} {f : ParsedFile}
    (hfile : (h.fileIn parse code).result = .ok f) :
    ∃ ds, (h.treeDetails (.ofString code) (parse code)).result = .ok ds ∧
      f = ⟨h.treeImports (.ofString code) (parse code), ds.map TypeDetails.type⟩ := by
  rw [result_fileIn] at hfile
  by_cases herr : (parse code).hasError = true
  · rw [if_pos herr] at hfile
    simp at hfile
  · rw [if_neg herr] at hfile
    obtain ⟨ds, hds, rfl⟩ := map_eq_ok_iff.mp hfile
    exact ⟨ds, hds, rfl⟩

end Handler

end SourceOutline
