import SourceOutline.Proofs.Handler.LocalNames
import SourceOutline.Python.Grammar

/-!
# Paths that do not begin at the top

A file may name a nested type of its own by a path from some declaration on, such as `Inner.Deep` inside
`Outer`.  The first component of a path is looked up among the imports, but not among the declarations of the
file: only a whole nested name is.  So the path leads to the declared type exactly if it begins at the top; if
not, it is taken for a package and a name.

* `stubOf_of_unknown_head`: the stub for a path of which nothing is known.

Main statement: `Handler.qualifiedName_of_partial_path`.
-/

namespace SourceOutline.Handler

open Declaration

variable {h : Handler}

/-- A path is split at its last dot if neither the whole nor its first component is known. -/
theorem stubOf_of_unknown_head {src : Source} {root : Node} {m : Mention} {head rest : String}
    (hm : m ∈ h.mentions src root) (hmay : h.MayBeDeclared m) (hhead : '.' ∉ head.toList)
    (htext : h.lookedUp m = head ++ "." ++ rest)
    (hbracket : ']' ∉ (h.lookedUp m).toList) (hbar : '|' ∉ (h.lookedUp m).toList)
    (hdeclared : (registerAll none [] (h.declarations src root)).get? (h.lookedUp m) = none)
    (hnone : m.scope.imports.get? (h.lookedUp m) = none) (himport : m.scope.imports.get? head = none) :
    h.stubOf m = .stub (Dotted.splitLast (h.lookedUp m)).1 (Dotted.splitLast (h.lookedUp m)).2 m.kind := by
  have hsplit : Dotted.splitFirst (h.lookedUp m) = some (head, rest) := by
    rw [htext, Dotted.splitFirst_append_dot hhead]
  cases h with
  | java =>
    obtain ⟨-, -, htable⟩ := Java.scope_of_mem_mentions hm
    have hget : m.scope.declared.get? m.text = none := by
      rw [htable]
      exact hdeclared
    have hresolve := Java.resolve_of_unknown_head hmay.1 hmay.2 hget hnone hsplit himport
    have hdims : Java.splitDimensions m.text = (m.text, "") := Java.splitDimensions_of_not_mem hbracket
    show Java.reference m.scope m.text m.kind = _
    rw [Java.reference, hdims]
    simp only [String.append_empty, hresolve]
    rfl
  | python module =>
    have hscope := Python.scope_of_mem_mentions hm
    have hget : m.scope.declared.get? (Python.lookupName m.text) = none := by
      rw [hscope]
      exact hdeclared
    have hresolve := Python.resolve_of_unknown_head hget hnone hsplit himport
    show Python.reference m.scope m.text m.kind = _
    rw [Python.reference, if_neg (show '|' ∉ (Python.lookupName m.text).toList from hbar), hresolve]
    rfl

/-- **A path leads to a declared type exactly from the top.**  Let one declaration bear the name `head`, let
it not be imported, and let there be a type at `rest` inside that declaration.  If the declaration is not
nested in another one, the stub for the path has the qualified name of the type.  If it is nested, the path is
split at its last dot like that of an unknown type, and the qualified name is another one. -/
theorem qualifiedName_of_partial_path (h : Handler) (parse : String → Node) (code : String) {f : ParsedFile}
    {m : Mention} {head full rest : String} (hfile : (h.fileIn parse code).result = .ok f)
    (hplain : ∀ e ∈ entries (h.declarations (.ofString code) (parse code)), PlainName e.1)
    (hm : m ∈ h.mentions (.ofString code) (parse code)) (hmay : h.MayBeDeclared m)
    (htext : h.lookedUp m = head ++ "." ++ rest)
    (hbearer : bearers (h.declarations (.ofString code) (parse code)) head = [full])
    (hdeclared : full ++ "." ++ rest ∈
      (entries (h.declarations (.ofString code) (parse code))).map Prod.snd)
    (himport : m.scope.imports.get? head = none) :
    h.stubOf m ∈ h.stubs (.ofString code) (parse code) ∧
      ∃ d ∈ f.types, d.name = full ++ "." ++ rest ∧
        (full = head → (h.stubOf m).qualifiedName = d.qualifiedName) ∧
        (full ≠ head → m.scope.imports.get? (h.lookedUp m) = none →
          h.stubOf m = .stub (Dotted.splitLast (h.lookedUp m)).1 (Dotted.splitLast (h.lookedUp m)).2 m.kind ∧
          (h.stubOf m).qualifiedName ≠ d.qualifiedName) := by
  refine ⟨mem_stubs hfile hm, ?_⟩
  obtain ⟨d, hd, hpackage, hfull⟩ := exists_mem_types hfile hdeclared
  -- no character of a path is in the way
  have hsimple : ∀ c ∈ ['.', ']', '|'], ∀ e ∈ entries (h.declarations (.ofString code) (parse code)),
      c ∉ e.1.toList := by
    intro c hc e he hmem
    refine (hplain e he c hmem).1 ?_
    simp only [List.mem_cons, List.not_mem_nil, or_false] at hc ⊢
    tauto
  have hdots := hsimple '.' (by simp)
  have hbracket : ']' ∉ (h.lookedUp m).toList :=
    htext ▸ not_mem_path (by decide) (hsimple ']' (by simp)) hbearer hdeclared
  have hbar : '|' ∉ (h.lookedUp m).toList :=
    htext ▸ not_mem_path (by decide) (hsimple '|' (by simp)) hbearer hdeclared
  refine ⟨d, hd, hfull, fun htop => ?_, fun hinner hnone => ?_⟩
  · have hkey : h.lookedUp m = full ++ "." ++ rest := by rw [htext, htop]
    have hget := get?_registerAll_of_bearers hdots hdeclared (.inl hkey)
    rw [qualifiedName_stubOf hm hmay hbracket hbar hget, TypeDecl.qualifiedName, hfull, hpackage]
  · have hget := get?_registerAll_of_partial hdots hbearer hinner rest
    rw [← htext] at hget
    obtain ⟨bearer, hbearers, hhead, -, -⟩ := exists_of_bearers_eq_singleton hbearer
    have hstub := stubOf_of_unknown_head hm hmay (hhead ▸ hdots bearer hbearers) htext hbracket hbar hget hnone
      himport
    refine ⟨hstub, fun hsame => ?_⟩
    -- the path is shorter than the nested name that it is short for
    obtain ⟨outer, rfl⟩ := exists_outer_of_bearer hbearer hinner
    have hshort := Dotted.length_join_splitLast_le (h.lookedUp m)
    have hlong := Dotted.length_le_join d.package.name d.name
    rw [hstub, TypeDecl.qualifiedName_stub, TypeDecl.qualifiedName] at hsame
    rw [hsame, htext] at hshort
    rw [hfull] at hlong hshort
    simp only [String.length_append] at hlong hshort
    have hdotLength : ".".length = 1 := by decide
    omega

/-! ## A path from a nested class on -/

/-- A class that names a class three levels deep by the two inner ones. -/
def innerPathCode : String :=
  "class Outer \x7b class Inner \x7b class Deep \x7b\x7d \x7d Inner.Deep d; \x7d"

/-- What is extracted from `innerPathCode`. -/
def innerPathFile : ParsedFile where
  types := [⟨⟨""⟩, "Outer", {}, .classType, [], []⟩, ⟨⟨""⟩, "Outer.Inner", {}, .classType, [], []⟩,
    ⟨⟨""⟩, "Outer.Inner.Deep", {}, .classType, [], []⟩]

theorem stubOf_inner_path :
    let src := Source.ofString innerPathCode
    let m : Mention := ⟨Java.fileScope src (Java.parse innerPathCode), "Inner.Deep", .classType⟩
    java.stubOf m ∈ java.stubs src (Java.parse innerPathCode) ∧ java.stubOf m = .stub "Inner" "Deep" := by
  intro src m
  have heval : (java.fileIn Java.parse innerPathCode).result.toOption = some innerPathFile ∧
      (∀ e ∈ entries (java.declarations src (Java.parse innerPathCode)), PlainName e.1) ∧
      m ∈ java.mentions src (Java.parse innerPathCode) ∧ java.MayBeDeclared m ∧
      java.lookedUp m = "Inner" ++ "." ++ "Deep" ∧
      bearers (java.declarations src (Java.parse innerPathCode)) "Inner" = ["Outer.Inner"] ∧
      "Outer.Inner" ++ "." ++ "Deep" ∈
        (entries (java.declarations src (Java.parse innerPathCode))).map Prod.snd ∧
      m.scope.imports.get? "Inner" = none ∧ m.scope.imports.get? (java.lookedUp m) = none := by
    decide +kernel
  obtain ⟨hfile, hplain, hm, hmay, htext, hbearer, hdeclared, himport, hnone⟩ := heval
  obtain ⟨hmem, d, -, -, -, hinner⟩ := qualifiedName_of_partial_path java Java.parse innerPathCode
    (eq_ok_of_toOption hfile) hplain hm hmay htext hbearer hdeclared himport
  obtain ⟨hstub, -⟩ := hinner (by decide) hnone
  refine ⟨hmem, hstub.trans ?_⟩
  decide +kernel

/-- The same classes in the other language; the path is a base. -/
def innerBaseCode : String :=
  "class Outer:\n  class Inner:\n    class Deep: pass\n  class Use(Inner.Deep): pass\n"

/-- **A path from a nested class on does not lead to its type**, in either language: the type is declared, and
one class bears the first name of the path, but the qualified names differ. -/
theorem exists_partial_path_lost :
    (let src := Source.ofString innerPathCode
     let root := Java.parse innerPathCode
     root.hasError = false ∧ ∃ m ∈ java.mentions src root,
       java.lookedUp m = "Inner" ++ "." ++ "Deep" ∧ java.MayBeDeclared m ∧
       bearers (java.declarations src root) "Inner" = ["Outer.Inner"] ∧
       "Outer.Inner" ++ "." ++ "Deep" ∈ (entries (java.declarations src root)).map Prod.snd ∧
       m.scope.imports.get? "Inner" = none ∧
       (java.stubOf m).qualifiedName ≠ Dotted.join (java.packageOf src root) "Outer.Inner.Deep") ∧
    (let h := python ""
     let src := Source.ofString innerBaseCode
     let root := Python.parse innerBaseCode
     root.hasError = false ∧ ∃ m ∈ h.mentions src root,
       h.lookedUp m = "Inner" ++ "." ++ "Deep" ∧
       bearers (h.declarations src root) "Inner" = ["Outer.Inner"] ∧
       "Outer.Inner" ++ "." ++ "Deep" ∈ (entries (h.declarations src root)).map Prod.snd ∧
       m.scope.imports.get? "Inner" = none ∧
       (h.stubOf m).qualifiedName ≠ Dotted.join (h.packageOf src root) "Outer.Inner.Deep") := by
  decide +kernel

end SourceOutline.Handler
