import SourceOutline.Python.Types
import SourceOutline.Proofs.Extract.Declared

/-!
# The walk through a Python file

The classes of a file are found one after another, outer ones first, in one scope; only the name of
the class around them is handed on.
-/

namespace SourceOutline.Python

open Declaration

/-- What is emitted for one class. -/
def foundAt (src : Source) (scope : Scope) (e : Option String × Declaration) : Except Failure Found :=
  find src scope e.1 e.2

/-- All classes of a file with the names of the classes around them, outer ones first. -/
def places (src : Source) (root : Node) : List (Option String × Declaration) :=
  walkAll within none (declarations src root)

mutual

theorem result_collect (src : Source) (scope : Scope) : ∀ (d : Declaration) (outer : Option String),
    (collect src scope outer d).result = (walk within outer d).mapM (foundAt src scope)
  | ⟨node, name, decorators, nested⟩, outer => by
    rw [collect, walk]
    exact Emission.result_append_eq_mapM
      (Emission.result_ofExcept (foundAt src scope) (outer, ⟨node, name, decorators, nested⟩))
      (result_collectAll src scope nested (some (nest outer name)))

theorem result_collectAll (src : Source) (scope : Scope) :
    ∀ (ds : List Declaration) (outer : Option String),
      (collectAll src scope outer ds).result = (walkAll within outer ds).mapM (foundAt src scope)
  | [], _ => rfl
  | d :: ds, outer => by
    rw [collectAll, walkAll]
    exact Emission.result_append_eq_mapM (result_collect src scope d outer)
      (result_collectAll src scope ds outer)

end

/-- **The pass over a file is its walk**: each class is found for itself, up to the first failure. -/
theorem result_found (src : Source) (module : String) (root : Node) :
    (found src module root).result = (places src root).mapM (foundAt src (fileScope src module root)) :=
  result_collectAll src _ _ none

/-- A class that is found is the declared one, with the members that are read off its body. -/
theorem of_foundAt_eq_ok {src : Source} {scope : Scope} {e : Option String × Declaration} {f : Found}
    (h : foundAt src scope e = .ok f) :
    f.type = header src scope e.1 e.2 ∧ declaredMembers src scope f.type e.2.node = .ok f.members := by
  unfold foundAt find at h
  cases hmake : TypeDecl.make (header src scope e.1 e.2) with
  | error v => simp [hmake] at h
  | ok t =>
    obtain ⟨-, rfl⟩ := TypeDecl.make_eq_ok_iff.mp hmake
    cases hms : declaredMembers src scope (header src scope e.1 e.2) e.2.node with
    | error u => simp [hmake, hms] at h
    | ok ms =>
      obtain rfl : (⟨header src scope e.1 e.2, ms⟩ : Found) = f := by simpa [hmake, hms] using h
      exact ⟨rfl, hms⟩

/-- The types of a file are those that are found. -/
theorem of_result_details_eq_ok {src : Source} {module : String} {root : Node} {ds : List TypeDetails}
    (h : (details src module root).result = .ok ds) :
    ∃ fs, (found src module root).result = .ok fs ∧ ds.map TypeDetails.type = fs.map Found.type := by
  obtain ⟨fs, hfs, rfl⟩ := map_eq_ok_iff.mp h
  exact ⟨fs, hfs, by rw [List.map_map]; rfl⟩

/-- Each class is emitted under the nested name of its declaration, in the module of the file. -/
theorem names_found {src : Source} {module : String} {root : Node} {fs : List Found}
    (h : (found src module root).result = .ok fs) :
    fs.map (fun f => (f.type.package.name, f.type.name)) =
      (entries (declarations src root)).map fun e => (module, e.2) := by
  rw [result_found] at h
  rw [entries, List.map_map]
  apply map_eq_map_of_mapM_eq_ok _ h
  intro e _ f hf
  obtain ⟨htype, -⟩ := of_foundAt_eq_ok hf
  rw [htype]
  rfl

end SourceOutline.Python
