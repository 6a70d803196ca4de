import SourceOutline.Java.Types
import SourceOutline.Proofs.Extract.Declared

/-!
# The walk through a Java file

The types of a file are found one after another, outer ones first, each in the scope that the types
around it hand on.

* `declaration?_eq`: a declaration has those nested that stand in its body.
* `result_found`: each type is found for itself.
* `scope_of_mem_places`: all scopes of a file differ in their type variables only.
* `names_found`: each type is emitted under the nested name of its declaration.
-/

namespace SourceOutline.Java

open Declaration

theorem declaration?_eq (src : Source) (n : Node) :
    declaration? src n =
      match declaredKind? n, declaredName? src n with
      | some _, some name =>
        some { node := n, name, nested := (bodyMembers n).filterMap (declaration? src) }
      | _, _ => none := by
  have hnested : ((bodyMembers n).attach.filterMap fun m => declaration? src m.1) =
      (bodyMembers n).filterMap (declaration? src) := by
    rw [List.filterMap_subtype fun _ _ => rfl, List.unattach_attach]
  rw [declaration?]
  cases declaredKind? n <;> cases declaredName? src n <;> simp only [hnested]

/-- What surrounds a declaration: the scope it stands in, and the name and kind of the declaration
around it. -/
structure Surroundings where
  scope : Scope
  outer : Option (String × TypeKind) := none

/-- What surrounds the declarations nested in a declaration. -/
def Surroundings.into (src : Source) (s : Surroundings) (d : Declaration) : Surroundings where
  scope := inside src d.node s.scope
  outer := some (nest (s.outer.map Prod.fst) d.name, (declaredKind? d.node).getD .classType)

/-- The type at a declaration, without regard to what its kind allows. -/
def headerAt (src : Source) (e : Surroundings × Declaration) : TypeDecl :=
  header src e.1.scope e.1.outer ((declaredKind? e.2.node).getD .classType) e.2

/-- What is emitted for one declaration. -/
def foundAt (src : Source) (e : Surroundings × Declaration) : Except TypeDecl.Violation Found :=
  (TypeDecl.make (headerAt src e)).map fun type =>
    ⟨type, members src (inside src e.2.node e.1.scope) type e.2.node⟩

/-- All declarations of a file with their surroundings, outer ones first. -/
def places (src : Source) (root : Node) : List (Surroundings × Declaration) :=
  walkAll (Surroundings.into src) { scope := fileScope src root } (declarations src root)

theorem collect_eq (src : Source) (s : Surroundings) (node : Node) (name : String)
    (decorators : List String) (nested : List Declaration) :
    collect src s.scope s.outer ⟨node, name, decorators, nested⟩ =
      (Emission.ofExcept (foundAt src (s, ⟨node, name, decorators, nested⟩))).append
        (collectAll src (s.into src ⟨node, name, decorators, nested⟩).scope
          (s.into src ⟨node, name, decorators, nested⟩).outer nested) := by
  rw [collect, foundAt, headerAt]
  dsimp only
  cases hmake : TypeDecl.make (header src s.scope s.outer ((declaredKind? node).getD .classType)
      ⟨node, name, decorators, nested⟩) with
  | error v => rfl
  | ok type =>
    obtain ⟨-, rfl⟩ := TypeDecl.make_eq_ok_iff.mp hmake
    rfl

mutual

theorem result_collect (src : Source) : ∀ (d : Declaration) (s : Surroundings),
    (collect src s.scope s.outer d).result = (walk (Surroundings.into src) s d).mapM (foundAt src)
  | ⟨node, name, decorators, nested⟩, s => by
    rw [collect_eq, walk]
    exact Emission.result_append_eq_mapM (Emission.result_ofExcept (foundAt src) _)
      (result_collectAll src nested _)

theorem result_collectAll (src : Source) : ∀ (ds : List Declaration) (s : Surroundings),
    (collectAll src s.scope s.outer ds).result =
      (walkAll (Surroundings.into src) s ds).mapM (foundAt src)
  | [], _ => rfl
  | d :: ds, s => by
    rw [collectAll, walkAll]
    exact Emission.result_append_eq_mapM (result_collect src d s) (result_collectAll src ds s)

end

/-- **The pass over a file is its walk**: each declaration is found for itself, up to the first that
contradicts its kind. -/
theorem result_found (src : Source) (root : Node) :
    (found src root).result = (places src root).mapM (foundAt src) :=
  result_collectAll src _ { scope := fileScope src root }

/-! ## Scopes -/

section Scopes

variable {src : Source}

/-- The scopes differ in their type variables only. -/
def SameFile (s t : Scope) : Prop :=
  s.package = t.package ∧ s.imports = t.imports ∧ s.declared = t.declared

theorem SameFile.inside {s t : Scope} (h : SameFile s t) (n : Node) : SameFile (inside src n s) t := h

theorem SameFile.of_inside {s t : Scope} {n : Node} (h : SameFile s (Java.inside src n t)) : SameFile s t := h

theorem SameFile.trans {s t u : Scope} (h : SameFile s t) (h' : SameFile t u) : SameFile s u :=
  ⟨h.1.trans h'.1, h.2.1.trans h'.2.1, h.2.2.trans h'.2.2⟩

theorem scope_of_mem_places {root : Node} {e : Surroundings × Declaration} (h : e ∈ places src root) :
    SameFile e.1.scope (fileScope src root) :=
  Declaration.mem_walkAll_imp (P := fun s => SameFile s.scope (fileScope src root))
    (fun e' _ hs => hs.inside e'.2.node) ⟨rfl, rfl, rfl⟩ e h

end Scopes

/-! ## Names -/

/-- A type that is found is the declared one, with the members that are read off its body. -/
theorem of_foundAt_eq_ok {src : Source} {e : Surroundings × Declaration} {f : Found}
    (h : foundAt src e = .ok f) :
    f.type = headerAt src e ∧ f.members = members src (inside src e.2.node e.1.scope) f.type e.2.node := by
  obtain ⟨t, ht, rfl⟩ := map_eq_ok_iff.mp h
  obtain ⟨-, rfl⟩ := TypeDecl.make_eq_ok_iff.mp ht
  exact ⟨rfl, rfl⟩

theorem entries_eq (src : Source) (root : Node) :
    entries (declarations src root) =
      (places src root).map fun e => (e.2.name, nest (e.1.outer.map Prod.fst) e.2.name) := by
  have hwalk : walkAll within none (declarations src root) =
      (places src root).map fun e => (e.1.outer.map Prod.fst, e.2) :=
    walkAll_map (f := fun s : Surroundings => s.outer.map Prod.fst) (fun _ _ => rfl) (declarations src root)
      { scope := fileScope src root }
  have hmap := congrArg (List.map entry) hwalk
  rw [List.map_map] at hmap
  exact hmap

/-- What is given are the types that are found, each with the set of its members. -/
theorem exists_found_of_details {src : Source} {root : Node} {ds : List TypeDetails}
    (h : (details src root).result = .ok ds) :
    ∃ fs, (found src root).result = .ok fs ∧ ds = fs.map fun f => ⟨f.type, .ofList f.members⟩ := by
  unfold details at h
  cases hfound : (found src root).result with
  | error v => simp [hfound] at h
  | ok fs =>
    simp only [hfound, Except.ok.injEq] at h
    exact ⟨fs, rfl, h.symm⟩

/-- The types of a file are those that are found. -/
theorem of_result_details_eq_ok {src : Source} {root : Node} {ds : List TypeDetails}
    (h : (details src root).result = .ok ds) :
    ∃ fs, (found src root).result = .ok fs ∧ ds.map TypeDetails.type = fs.map Found.type := by
  obtain ⟨fs, hfound, rfl⟩ := exists_found_of_details h
  exact ⟨fs, hfound, by rw [List.map_map]; rfl⟩

/-- Each type is emitted under the nested name of its declaration, in the package of the file. -/
theorem names_found {src : Source} {root : Node} {fs : List Found}
    (h : (found src root).result = .ok fs) :
    fs.map (fun f => (f.type.package.name, f.type.name)) =
      (entries (declarations src root)).map fun e => (packageName src root, e.2) := by
  rw [result_found] at h
  rw [entries_eq, List.map_map]
  apply map_eq_map_of_mapM_eq_ok _ h
  intro e he f hf
  obtain ⟨htype, -⟩ := of_foundAt_eq_ok hf
  have hpackage : e.1.scope.package = packageName src root := (scope_of_mem_places he).1
  rw [htype]
  show (e.1.scope.package, _) = _
  rw [hpackage]
  rfl

end SourceOutline.Java
