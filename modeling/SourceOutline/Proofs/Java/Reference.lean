import SourceOutline.Java.Imports
import SourceOutline.Java.Reference
import SourceOutline.Proofs.Table
import SourceOutline.Proofs.Text.Dotted

/-!
# How references in Java are qualified

* `splitDimensions_of_not_mem`, `reference_eq_arrayOf`: brackets at the end of a text end up after the name.
* `get?_importTable`: a simple name stands for the last single import of it.
* `resolve_of_declared`, `resolve_of_imported`, `resolve_of_head_imported`, `resolve_of_unknown_head`: what the
  name before the brackets stands for.
-/

namespace SourceOutline.Java

/-! ## Brackets -/

theorem countDimensions_of_not_mem {cs : List Char} (h : ']' ∉ cs) : countDimensions cs = (0, cs) := by
  unfold countDimensions
  split
  · simp at h
  · rfl

theorem countDimensions_snd (cs : List Char) :
    countDimensions (countDimensions cs).2 = (0, (countDimensions cs).2) := by
  fun_induction countDimensions cs with
  | case1 r ih => exact ih
  | case2 r hr =>
    show countDimensions r = (0, r)
    unfold countDimensions
    split
    · exact (hr _ rfl).elim
    · rfl

/-- A text without a closing bracket has no dimensions. -/
theorem splitDimensions_of_not_mem {name : String} (h : ']' ∉ name.toList) :
    splitDimensions name = (name, "") := by
  rw [splitDimensions, countDimensions_of_not_mem (by simpa using h)]
  simp

theorem splitDimensions_fst (name : String) :
    splitDimensions (splitDimensions name).1 = ((splitDimensions name).1, "") := by
  simp [splitDimensions, countDimensions_snd]

theorem append_countDimensions (cs : List Char) :
    (List.replicate (countDimensions cs).1 [']', '[']).flatten ++ (countDimensions cs).2 = cs := by
  fun_induction countDimensions cs with
  | case1 r ih => simp [List.replicate_succ, ih]
  | case2 r hr => rfl

/-- The two parts of a text make it up. -/
theorem append_splitDimensions (name : String) : (splitDimensions name).1 ++ (splitDimensions name).2 = name := by
  have hchars := congrArg List.reverse (append_countDimensions name.toList.reverse)
  rw [← String.toList_inj]
  simpa [splitDimensions, List.reverse_flatten] using hchars

/-- The stub for an array of some type. -/
def arrayOf (element : TypeDecl) (brackets : String) : TypeDecl :=
  { element with name := element.name ++ brackets }

@[simp] theorem arrayOf_empty (element : TypeDecl) : arrayOf element "" = element := by
  cases element
  simp [arrayOf]

/-- The brackets at the end of a text stand after the name that the rest is qualified to. -/
theorem reference_eq_arrayOf (scope : Scope) (name : String) (kind : TypeKind) :
    reference scope name kind =
      arrayOf (reference scope (splitDimensions name).1 kind) (splitDimensions name).2 := by
  simp [reference, arrayOf, splitDimensions_fst, TypeDecl.stub]

theorem qualifiedName_reference (scope : Scope) {name : String} (h : (splitDimensions name).2 = "")
    (kind : TypeKind) :
    (reference scope name kind).qualifiedName =
      Dotted.join (resolve scope (splitDimensions name).1).1 (resolve scope (splitDimensions name).1).2 := by
  rw [reference, TypeDecl.qualifiedName_stub, h, String.append_empty]

/-! ## Imports -/

/-- A simple name stands for the last single import of it. -/
theorem get?_importTable (is : List Import) (key : String) :
    (importTable is).get? key =
      ((is.filter fun i => !i.isWildcard ∧ Dotted.last i.value = key).getLast?).map Import.value := by
  rw [importTable, Table.get?_ofPairs, List.filter_map, List.getLast?_map, Option.map_map,
    List.filter_filter]
  simp [Function.comp_def, Bool.and_comm]

/-- No name with a dot is imported. -/
theorem get?_importTable_of_mem {key : String} (h : '.' ∈ key.toList) (is : List Import) :
    (importTable is).get? key = none := by
  rw [get?_importTable, Option.map_eq_none_iff, List.getLast?_eq_none_iff, List.filter_eq_nil_iff]
  intro i _ hi
  have hlast : Dotted.last i.value = key := by
    simp only [decide_eq_true_eq] at hi
    exact hi.2
  exact Dotted.dot_not_mem_last i.value (hlast ▸ h)

/-! ## Names -/

section Resolve

variable {scope : Scope} {base : String}

theorem resolve_of_declared {full : String} (hprimitive : base ∉ primitives)
    (hvariable : base ∉ scope.typeVariables) (hdeclared : scope.declared.get? base = some full) :
    resolve scope base = (scope.package, full) := by
  rw [resolve, if_neg (by simp [hprimitive, hvariable]), hdeclared]

theorem resolve_of_imported {qualified : String} (hprimitive : base ∉ primitives)
    (hvariable : base ∉ scope.typeVariables) (hdeclared : scope.declared.get? base = none)
    (himport : scope.imports.get? base = some qualified) :
    resolve scope base = Dotted.splitLast qualified := by
  rw [resolve, if_neg (by simp [hprimitive, hvariable]), hdeclared, himport]

/-- A dotted name whose first component is imported lies inside what that stands for. -/
theorem resolve_of_head_imported {head rest qualified : String} (hprimitive : base ∉ primitives)
    (hvariable : base ∉ scope.typeVariables) (hdeclared : scope.declared.get? base = none)
    (himport : scope.imports.get? base = none) (hsplit : Dotted.splitFirst base = some (head, rest))
    (hhead : scope.imports.get? head = some qualified) :
    resolve scope base =
      ((Dotted.splitLast qualified).1, (Dotted.splitLast qualified).2 ++ "." ++ rest) := by
  rw [resolve, if_neg (by simp [hprimitive, hvariable]), hdeclared, himport, hsplit]
  simp only [hhead]

/-- A dotted name of which nothing is known is split at the last dot. -/
theorem resolve_of_unknown_head {head rest : String} (hprimitive : base ∉ primitives)
    (hvariable : base ∉ scope.typeVariables) (hdeclared : scope.declared.get? base = none)
    (himport : scope.imports.get? base = none) (hsplit : Dotted.splitFirst base = some (head, rest))
    (hhead : scope.imports.get? head = none) : resolve scope base = Dotted.splitLast base := by
  rw [resolve, if_neg (by simp [hprimitive, hvariable]), hdeclared, himport, hsplit]
  simp only [hhead]

end Resolve

end SourceOutline.Java
