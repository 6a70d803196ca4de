import SourceOutline.Python.Imports
import SourceOutline.Python.Reference
import SourceOutline.Proofs.Table

/-!
# How references in Python are qualified

* `qualifiedName_reference`: a text that is no union is qualified like the name that it is looked up by.
* `get?_importTable`: a name stands for what its last binding binds it to.
* `resolve_of_declared`, `resolve_of_imported`, `resolve_of_head_imported`, `resolve_of_unknown_head`: what a
  name stands for.
-/

namespace SourceOutline.Python

/-- A text that is no union is qualified like the name that it is looked up by. -/
theorem qualifiedName_reference {scope : Scope} {text : String} (h : '|' ∉ (lookupName text).toList)
    (kind : TypeKind) :
    (reference scope text kind).qualifiedName =
      Dotted.join (resolve scope (lookupName text)).1 (resolve scope (lookupName text)).2 := by
  rw [reference, if_neg h, TypeDecl.qualifiedName_stub]

/-! ## Imports -/

/-- A name stands for what its last binding binds it to; a star binds no name. -/
theorem get?_importTable (bs : List Binding) (key : String) :
    (importTable bs).get? key =
      ((bs.filter fun b => b.localName ≠ "*" ∧ b.localName = key).getLast?).map Binding.bound := by
  rw [importTable, Table.get?_ofPairs, List.filter_map, List.getLast?_map, Option.map_map,
    List.filter_filter]
  simp [Function.comp_def, Bool.and_comm]

theorem get?_importTable_of_getLast? {bs : List Binding} {key : String} {b : Binding}
    (h : (bs.filter fun b => b.localName ≠ "*" ∧ b.localName = key).getLast? = some b) :
    (importTable bs).get? key = some b.bound := by
  rw [get?_importTable, h, Option.map_some]

/-! ## Names -/

section Resolve

variable {scope : Scope} {base : String}

theorem resolve_of_declared {full : String} (hdeclared : scope.declared.get? base = some full) :
    resolve scope base = (scope.package, full) := by
  rw [resolve, hdeclared]

theorem resolve_of_imported {qualified : String} (hdeclared : scope.declared.get? base = none)
    (himport : scope.imports.get? base = some qualified) :
    resolve scope base = Dotted.splitLast qualified := by
  rw [resolve, hdeclared, himport]

/-- A dotted name whose first component is imported lies inside what that stands for. -/
theorem resolve_of_head_imported {head rest qualified : String}
    (hdeclared : scope.declared.get? base = none) (himport : scope.imports.get? base = none)
    (hsplit : Dotted.splitFirst base = some (head, rest))
    (hhead : scope.imports.get? head = some qualified) :
    resolve scope base = Dotted.splitLast (qualified ++ "." ++ rest) := by
  rw [resolve, hdeclared, himport, hsplit]
  simp only [hhead]

/-- A dotted name of which nothing is known is split at the last dot. -/
theorem resolve_of_unknown_head {head rest : String} (hdeclared : scope.declared.get? base = none)
    (himport : scope.imports.get? base = none) (hsplit : Dotted.splitFirst base = some (head, rest))
    (hhead : scope.imports.get? head = none) : resolve scope base = Dotted.splitLast base := by
  rw [resolve, hdeclared, himport, hsplit]
  simp only [hhead]

end Resolve

end SourceOutline.Python
