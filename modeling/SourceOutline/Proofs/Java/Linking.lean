import SourceOutline.Java.Grammar
import SourceOutline.Proofs.Handler.Stubs
import SourceOutline.Proofs.Java.Reference
import SourceOutline.Proofs.Model.TypeTable

/-!
# References to other files in Java

A declaration has its package in front of its nested name, while a reference to it is split at the dots
of an import.  Both put the same qualified name together, so a table of the types of all files resolves
the stub to the declaration: for an imported type, top-level or nested, and for a type named through the
imported one around it.

* `qualifiedName_of_imported`, `qualifiedName_of_head_imported`: imported names are qualified as they
  are imported.

Main statement: `resolve_stubOf_of_imported`.
-/

namespace SourceOutline.Java

/-- The mention of what an array holds; anything else is its own element. -/
def elementOf (m : Mention) : Mention :=
  { m with text := (splitDimensions m.text).1 }

theorem stubOf_eq_arrayOf (m : Mention) :
    stubOf m = arrayOf (stubOf (elementOf m)) (splitDimensions m.text).2 :=
  reference_eq_arrayOf m.scope m.text m.kind

theorem qualifiedName_stubOf_elementOf (m : Mention) :
    (stubOf (elementOf m)).qualifiedName =
      Dotted.join (resolve m.scope (elementOf m).text).1 (resolve m.scope (elementOf m).text).2 := by
  have hsplit := splitDimensions_fst m.text
  have hname := qualifiedName_reference m.scope (by rw [hsplit]) m.kind
  rwa [hsplit] at hname

section Imported

variable {m : Mention} {i : Import}

/-- An imported name is qualified as it is imported. -/
theorem qualifiedName_of_imported (hprimitive : (elementOf m).text ∉ primitives)
    (hvariable : (elementOf m).text ∉ m.scope.typeVariables)
    (hdeclared : m.scope.declared.get? (elementOf m).text = none)
    (himport : m.scope.imports.get? (elementOf m).text = some i.value)
    (hdot : i.value.toList.head? ≠ some '.') : (stubOf (elementOf m)).qualifiedName = i.value := by
  rw [qualifiedName_stubOf_elementOf, resolve_of_imported hprimitive hvariable hdeclared himport,
    Dotted.join_splitLast hdot]

/-- A name inside an imported one is qualified inside what that is imported as. -/
theorem qualifiedName_of_head_imported {head rest : String} (hhead : '.' ∉ head.toList)
    (htext : (elementOf m).text = head ++ "." ++ rest) (hprimitive : (elementOf m).text ∉ primitives)
    (hvariable : (elementOf m).text ∉ m.scope.typeVariables)
    (hdeclared : m.scope.declared.get? (elementOf m).text = none)
    (hnone : m.scope.imports.get? (elementOf m).text = none)
    (himport : m.scope.imports.get? head = some i.value) (hdot : i.value.toList.head? ≠ some '.') :
    (stubOf (elementOf m)).qualifiedName = i.value ++ "." ++ rest := by
  have hsplit : Dotted.splitFirst (elementOf m).text = some (head, rest) := by
    rw [htext, Dotted.splitFirst_append_dot hhead]
  have hresolve := resolve_of_head_imported hprimitive hvariable hdeclared hnone hsplit himport
  rw [qualifiedName_stubOf_elementOf, hresolve]
  simp only [String.append_assoc]
  exact Dotted.join_splitLast_append hdot ("." ++ rest)

end Imported

/-- **A file refers to the types of other files through its imports**: if the last single import of `s` stands
for a registered type, or for the type around it, then the stub for a reference to `s`, or to a name inside
`s`, is resolved to that type, wherever it is declared.  An array of the type is not the type itself: its stub
has the brackets after the name. -/
theorem resolve_stubOf_of_imported {parse : String → Node} {code s : String} {f g : ParsedFile}
    {files : List ParsedFile} {table : TypeTable} {d : TypeDecl} {m : Mention} {i : Import}
    (hfile : (Handler.java.fileIn parse code).result = .ok f)
    (htable : TypeTable.ofFiles files = .ok table) (hg : g ∈ files) (hd : d ∈ g.types)
    (hm : m ∈ mentions (.ofString code) (parse code)) (hprimitive : (elementOf m).text ∉ primitives)
    (hvariable : (elementOf m).text ∉ m.scope.typeVariables)
    (hdeclared : (fileScope (.ofString code) (parse code)).declared.get? (elementOf m).text = none)
    (himport : (f.imports.filter fun i => !i.isWildcard ∧ Dotted.last i.value = s).getLast? = some i)
    (hdot : i.value.toList.head? ≠ some '.')
    (hname : (elementOf m).text = s ∧ d.qualifiedName = i.value ∨
      ∃ r, (elementOf m).text = s ++ "." ++ r ∧ d.qualifiedName = i.value ++ "." ++ r) :
    stubOf m ∈ Handler.java.stubs (.ofString code) (parse code) ∧
      ((splitDimensions m.text).2 = "" → table.resolve (stubOf m) = d) ∧
      table.resolve (stubOf (elementOf m)) = d ∧
      stubOf m = arrayOf (stubOf (elementOf m)) (splitDimensions m.text).2 := by
  suffices helement : table.resolve (stubOf (elementOf m)) = d by
    refine ⟨Handler.mem_stubs hfile hm, fun hdims => ?_, helement, stubOf_eq_arrayOf m⟩
    rw [stubOf_eq_arrayOf, hdims, arrayOf_empty, helement]
  obtain ⟨ds, -, rfl⟩ := Handler.of_result_fileIn_eq_ok hfile
  obtain ⟨-, himports, htable'⟩ := scope_of_mem_mentions hm
  rw [← htable'] at hdeclared
  have hscope : ∀ key, m.scope.imports.get? key =
      (importTable (imports (.ofString code) (parse code))).get? key := by
    intro key
    rw [himports]
    rfl
  have hget : m.scope.imports.get? s = some i.value := by
    rw [hscope, get?_importTable]
    exact congrArg (Option.map Import.value) himport
  have hlast : Dotted.last i.value = s := by
    have hmem := List.mem_of_getLast? himport
    have hi := (List.mem_filter.mp hmem).2
    simp only [decide_eq_true_eq] at hi
    exact hi.2
  refine TypeTable.resolve_of_mem_ofFiles htable hg hd ?_
  rcases hname with ⟨htext, hq⟩ | ⟨r, htext, hq⟩
  · rw [hq]
    exact qualifiedName_of_imported hprimitive hvariable hdeclared (htext ▸ hget) hdot
  · have hnone : m.scope.imports.get? (elementOf m).text = none := by
      rw [hscope, htext]
      exact get?_importTable_of_mem (by simp) _
    rw [hq]
    exact qualifiedName_of_head_imported (hlast ▸ Dotted.dot_not_mem_last i.value) htext hprimitive hvariable
      hdeclared hnone hget hdot

/-! ## A nested class of another file -/

/-- A class with one nested in it. -/
def importedCode : String :=
  "package p; class A \x7b class B \x7b\x7d \x7d"

/-- What is extracted from `importedCode`. -/
def importedFile : ParsedFile where
  types := [⟨⟨"p"⟩, "A", {}, .classType, [], []⟩, ⟨⟨"p"⟩, "A.B", {}, .classType, [], []⟩]

/-- A class that extends the nested one through the one around it. -/
def importingCode : String :=
  "import p.A; class C extends A.B \x7b\x7d"

/-- What is extracted from `importingCode`. -/
def importingFile : ParsedFile where
  imports := [⟨"p.A"⟩]
  types := [⟨⟨""⟩, "C", {}, .classType, [.stub "p" "A.B"], []⟩]

theorem resolve_nested_import :
    let src := Source.ofString importingCode
    let m : Mention := ⟨fileScope src (parse importingCode), "A.B", .classType⟩
    (Handler.java.fileIn parse importedCode).result = .ok importedFile ∧
      ∃ table, TypeTable.ofFiles [importedFile, importingFile] = .ok table ∧
        stubOf m ∈ Handler.java.stubs src (parse importingCode) ∧
          table.resolve (stubOf m) = ⟨⟨"p"⟩, "A.B", {}, .classType, [], []⟩ := by
  intro src m
  have himported : (Handler.java.fileIn parse importedCode).result.toOption = some importedFile := by
    decide +kernel
  have heval : (Handler.java.fileIn parse importingCode).result.toOption = some importingFile ∧
      m ∈ mentions src (parse importingCode) ∧ (elementOf m).text ∉ primitives ∧
      (elementOf m).text ∉ m.scope.typeVariables ∧
      (fileScope src (parse importingCode)).declared.get? (elementOf m).text = none := by
    decide +kernel
  obtain ⟨hfile, hm, hprimitive, hvariable, hdeclared⟩ := heval
  obtain ⟨table, htable⟩ : ∃ table, TypeTable.ofFiles [importedFile, importingFile] = .ok table :=
    ⟨_, rfl⟩
  have hname : (elementOf m).text = "A" ++ "." ++ "B" ∧ "p.A.B" = "p.A" ++ "." ++ "B" := by
    decide +kernel
  obtain ⟨hstub, hresolve, -⟩ := resolve_stubOf_of_imported (s := "A") (i := ⟨"p.A"⟩) (g := importedFile)
    (d := ⟨⟨"p"⟩, "A.B", {}, .classType, [], []⟩) (eq_ok_of_toOption hfile) htable (by simp)
    (by decide +kernel) hm hprimitive hvariable hdeclared (by decide +kernel) (by decide +kernel)
    (Or.inr ⟨"B", hname⟩)
  exact ⟨eq_ok_of_toOption himported, table, htable, hstub, hresolve (by decide +kernel)⟩

end SourceOutline.Java
