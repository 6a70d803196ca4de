import SourceOutline.Proofs.Handler.Stubs
import SourceOutline.Proofs.Model.Registration
import SourceOutline.Proofs.Python.Reference
import SourceOutline.Proofs.Text.Dotted
import SourceOutline.Python.Grammar

/-!
# Relative imports in Python

A relative module begins with dots, and so does what is imported from it.  A name bound to that is split at the
last dot and put together again.  This gives the same name unless the last dot is the one at the beginning, which
is then lost.

* `join_splitLast_qualify`, `join_splitLast_inside`: what becomes of an imported name, and of a name inside it.
* `qualifiedName_of_relative`: how names bound by relative imports are qualified.
* `exists_relative_prefix_lost`: a class imported from the package around the file is taken for one of the default
  package.
-/

namespace SourceOutline.Python

/-! ## Names with dots in front -/

section Names

variable {module : String}

theorem toList_qualify_cases (hmodule : module ≠ "") (name : String) :
    (module.toList.getLast? = some '.' ∧ (qualify module name).toList = module.toList ++ name.toList) ∨
      (qualify module name).toList = module.toList ++ '.' :: name.toList := by
  rw [qualify, if_neg hmodule]
  by_cases hlast : module.toList.getLast? = some '.'
  · rw [if_pos hlast]
    exact .inl ⟨hlast, by simp⟩
  · rw [if_neg hlast]
    exact .inr (by simp)

/-- What is imported from a relative module begins with a dot, and has another one unless the module is a single
dot. -/
theorem toList_qualify_of_relative (h : module.toList.head? = some '.') (name : String) :
    ∃ cs, (qualify module name).toList = '.' :: cs ∧ (module ≠ "." → '.' ∈ cs) := by
  obtain ⟨cs, hcs⟩ := List.head?_eq_some_iff.mp h
  have hmodule : module ≠ "" := by
    rintro rfl
    simp at hcs
  rcases toList_qualify_cases hmodule name with ⟨hlast, hq⟩ | hq
  · refine ⟨cs ++ name.toList, by rw [hq, hcs, List.cons_append], fun hdot => List.mem_append_left _ ?_⟩
    have hne : cs ≠ [] := by
      rintro rfl
      exact hdot (String.toList_inj.mp hcs)
    rw [hcs, List.getLast?_cons_of_ne_nil hne] at hlast
    exact List.mem_of_getLast? hlast
  · exact ⟨cs ++ '.' :: name.toList, by rw [hq, hcs, List.cons_append], fun _ => by simp⟩

theorem qualify_dot (name : String) : qualify "." name = "." ++ name := by
  rw [qualify, if_neg (by decide), if_pos (by decide)]

/-- A name imported from a relative module keeps its dots, unless it is a simple name and there is only one dot. -/
theorem join_splitLast_qualify (h : module.toList.head? = some '.') (name : String) :
    Dotted.join (Dotted.splitLast (qualify module name)).1 (Dotted.splitLast (qualify module name)).2 =
      if module = "." ∧ '.' ∉ name.toList then name else qualify module name := by
  split
  · rename_i hlost
    rw [hlost.1, qualify_dot, Dotted.join_splitLast_dot hlost.2]
  · rename_i hkept
    refine Dotted.join_splitLast_of_ne fun t ht heq => hkept ?_
    obtain ⟨cs, hcs, hdot⟩ := toList_qualify_of_relative h name
    rw [heq] at hcs
    obtain rfl : t.toList = cs := by simpa using hcs
    by_cases hmodule : module = "."
    · rw [hmodule, qualify_dot] at heq
      have hname : name = t := by simpa [← String.toList_inj] using heq
      exact ⟨hmodule, hname ▸ ht⟩
    · exact absurd (hdot hmodule) ht

/-- A name inside an imported one keeps all dots. -/
theorem join_splitLast_inside (h : module.toList.head? = some '.') (name rest : String) :
    let full := qualify module name ++ "." ++ rest
    Dotted.join (Dotted.splitLast full).1 (Dotted.splitLast full).2 = full := by
  refine Dotted.join_splitLast_of_ne fun t ht heq => ht ?_
  obtain ⟨cs, hcs, -⟩ := toList_qualify_of_relative h name
  have hchars := congrArg String.toList heq
  rw [String.toList_append, String.toList_append, hcs] at hchars
  have hsuffix : cs ++ '.' :: rest.toList = t.toList := by simpa using hchars
  rw [← hsuffix]
  simp

end Names

/-! ## Names bound by relative imports -/

section Bound

variable {src : Source} {module : String} {root : Node} {m : Mention} {b : Binding} {h : String}

theorem exists_of_mem_fromBindings {n : Node} (hb : b ∈ fromBindings src n) (hstar : b.localName ≠ "*") :
    ∃ c ∈ n.childrenBy "name", b.value = qualify (moduleName src n) (aliased src c).1 ∧ b.bound = b.value := by
  rcases List.mem_append.mp hb with hb | hb
  · obtain ⟨_, -, rfl⟩ := List.mem_map.mp hb
    exact absurd rfl hstar
  · obtain ⟨c, hc, rfl⟩ := List.mem_map.mp hb
    exact ⟨c, hc, rfl, rfl⟩

/-- The imports of a tree without errors have the values of all bindings. -/
theorem value_mem_imports (herror : root.hasError = false) (hb : b ∈ fileBindings src root) :
    ∃ is, ((Handler.python module).importsIn src root).result = .ok is ∧ ⟨b.value⟩ ∈ is := by
  refine ⟨_, by rw [Handler.result_importsIn, herror]; rfl, ?_⟩
  exact List.mem_map.mpr ⟨b, hb, rfl⟩

/-- **Names bound by relative imports** are qualified as they are imported, with what comes after them, unless a
simple name is imported from the package around the file: then it stands alone. -/
theorem qualifiedName_of_relative {n : Node} (herror : root.hasError = false) (hm : m ∈ mentions src module root)
    (hrelative : (moduleName src n).toList.head? = some '.') (hb : b ∈ fromBindings src n)
    (hbound : ((fileBindings src root).filter fun b => b.localName ≠ "*" ∧ b.localName = h).getLast? = some b)
    (hbar : '|' ∉ (lookupName m.text).toList)
    (hdeclared : (fileScope src module root).declared.get? (lookupName m.text) = none) :
    (∃ is, ((Handler.python module).importsIn src root).result = .ok is ∧ ⟨b.value⟩ ∈ is) ∧
    (∀ ds, ((Handler.python module).detailsIn src root).result = .ok ds →
      stubOf m ∈ (Handler.python module).stubs src root) ∧
    (∃ c ∈ n.childrenBy "name", b.value = qualify (moduleName src n) (aliased src c).1 ∧
      (lookupName m.text = h → (stubOf m).qualifiedName =
        if moduleName src n = "." ∧ '.' ∉ (aliased src c).1.toList then (aliased src c).1 else b.value)) ∧
    ∀ rest, '.' ∉ h.toList → lookupName m.text = h ++ "." ++ rest →
      (fileScope src module root).imports.get? (lookupName m.text) = none →
        (stubOf m).qualifiedName = b.value ++ "." ++ rest := by
  obtain ⟨hmem, hlocal⟩ := List.mem_filter.mp (List.mem_of_getLast? hbound)
  have hstar : b.localName ≠ "*" := by
    simp only [decide_eq_true_eq] at hlocal
    exact hlocal.1
  obtain ⟨c, hc, hvalue, hsame⟩ := exists_of_mem_fromBindings hb hstar
  have hget : (fileScope src module root).imports.get? h = some b.value := by
    show (importTable _).get? h = _
    rw [get?_importTable, hbound, ← hsame]
    rfl
  have hscope := scope_of_mem_mentions hm
  refine ⟨value_mem_imports herror hmem, fun ds hds => ?_, ⟨c, hc, hvalue, fun htext => ?_⟩,
    fun rest hhead htext hnone => ?_⟩
  · exact Handler.mem_stubs_of_treeDetails (Handler.of_result_detailsIn_eq_ok hds).2 hm
  · have hresolve : resolve m.scope (lookupName m.text) = Dotted.splitLast b.value := by
      rw [hscope]
      exact resolve_of_imported hdeclared (htext ▸ hget)
    rw [stubOf, qualifiedName_reference hbar, hresolve, hvalue, join_splitLast_qualify hrelative]
  · have hsplit : Dotted.splitFirst (lookupName m.text) = some (h, rest) := by
      rw [htext, Dotted.splitFirst_append_dot hhead]
    have hresolve : resolve m.scope (lookupName m.text) = Dotted.splitLast (b.value ++ "." ++ rest) := by
      rw [hscope]
      exact resolve_of_head_imported hdeclared hnone hsplit hget
    rw [stubOf, qualifiedName_reference hbar, hresolve, hvalue]
    exact join_splitLast_inside hrelative (aliased src c).1 rest

/-! ### An import from the package around that of the file -/

/-- A class nested in an imported one as a base, and the imported one in an annotation. -/
def parentCode : String :=
  "from ..pkg import Base as B\nclass C(B.Inner):\n  x: B\n"

theorem qualifiedName_of_parent_import :
    let src := Source.ofString parentCode
    let root := parse parentCode
    let mention (text : String) : Mention := ⟨fileScope src "m" root, text, .classType⟩
    mention "B.Inner" ∈ mentions src "m" root ∧ mention "B" ∈ mentions src "m" root ∧
      (∃ is, ((Handler.python "m").importsIn src root).result = .ok is ∧ ⟨"..pkg.Base"⟩ ∈ is) ∧
      (stubOf (mention "B")).qualifiedName = "..pkg.Base" ∧
      (stubOf (mention "B.Inner")).qualifiedName = "..pkg.Base.Inner" := by
  intro src root mention
  have heval : root.hasError = false ∧
      ((fileBindings src root).filter fun b => b.localName ≠ "*" ∧ b.localName = "B").getLast? =
        some ⟨"..pkg.Base", "B", "..pkg.Base"⟩ ∧
      (∃ n ∈ root.children, moduleName src n = "..pkg" ∧
        ⟨"..pkg.Base", "B", "..pkg.Base"⟩ ∈ fromBindings src n) ∧
      (∀ text ∈ ["B.Inner", "B"], mention text ∈ mentions src "m" root ∧
        lookupName text = text ∧ '|' ∉ (lookupName text).toList ∧
        (fileScope src "m" root).declared.get? (lookupName text) = none) ∧
      (fileScope src "m" root).imports.get? (lookupName "B.Inner") = none := by
    decide +kernel
  obtain ⟨herror, hbound, ⟨n, -, hmodule, hb⟩, hmentions, hnone⟩ := heval
  have hrelative : (moduleName src n).toList.head? = some '.' := by
    rw [hmodule]
    decide
  obtain ⟨hinner, hinnerText, hinnerBar, hinnerDeclared⟩ := hmentions "B.Inner" (by simp)
  obtain ⟨hwhole, hwholeText, hwholeBar, hwholeDeclared⟩ := hmentions "B" (by simp)
  obtain ⟨-, -, -, hinside⟩ :=
    qualifiedName_of_relative herror hinner hrelative hb hbound hinnerBar hinnerDeclared
  obtain ⟨himports, -, ⟨c, -, -, hname⟩, -⟩ :=
    qualifiedName_of_relative herror hwhole hrelative hb hbound hwholeBar hwholeDeclared
  refine ⟨hinner, hwhole, himports, ?_, hinside "Inner" (by decide) (by rw [hinnerText]; decide) hnone⟩
  have hdots : ¬ (moduleName src n = "." ∧ '.' ∉ (aliased src c).1.toList) := by
    rw [hmodule]
    exact fun h => absurd h.1 (by decide)
  rw [hname hwholeText, if_neg hdots]

/-! ### An import from the package around the file -/

/-- A class of the default package. -/
def defaultCode : String :=
  "class Base: pass\n"

/-- What is extracted from `defaultCode`. -/
def defaultFile : ParsedFile where
  types := [⟨⟨""⟩, "Base", { visibility := .pub }, .classType, [], []⟩]

/-- A class that extends one of another package. -/
def siblingCode : String :=
  "from . import Base\nclass C(Base): pass\n"

/-- What is extracted from `siblingCode`. -/
def siblingFile : ParsedFile where
  imports := [⟨".Base"⟩]
  types := [⟨⟨""⟩, "C", { visibility := .pub }, .classType, [.stub "" "Base"], []⟩]

/-- **The dot of the package is lost**: a base that is imported as `.Base` is qualified as `Base`, and taken
for the class of the default package. -/
theorem exists_relative_prefix_lost :
    let src := Source.ofString siblingCode
    let root := parse siblingCode
    let m : Mention := ⟨fileScope src "" root, "Base", .classType⟩
    ((Handler.python "").fileIn parse defaultCode).result = .ok defaultFile ∧
      ((Handler.python "").fileIn parse siblingCode).result = .ok siblingFile ∧
      ((fileBindings src root).filter fun b => b.localName ≠ "*" ∧ b.localName = "Base").getLast? =
        some ⟨".Base", "Base", ".Base"⟩ ∧
      m ∈ mentions src "" root ∧ lookupName m.text = "Base" ∧ m.scope.declared.get? "Base" = none ∧
      (stubOf m).qualifiedName = "Base" ∧ "Base" ≠ ".Base" ∧
      ∃ table, TypeTable.ofFiles [defaultFile, siblingFile] = .ok table ∧
        table.resolve (stubOf m) = ⟨⟨""⟩, "Base", { visibility := .pub }, .classType, [], []⟩ := by
  intro src root m
  have heval : ((Handler.python "").fileIn parse defaultCode).result.toOption = some defaultFile ∧
      ((Handler.python "").fileIn parse siblingCode).result.toOption = some siblingFile ∧
      ((fileBindings src root).filter fun b => b.localName ≠ "*" ∧ b.localName = "Base").getLast? =
        some ⟨".Base", "Base", ".Base"⟩ ∧
      m ∈ mentions src "" root ∧ lookupName m.text = "Base" ∧ m.scope.declared.get? "Base" = none ∧
      (stubOf m).qualifiedName = "Base" := by
    decide +kernel
  obtain ⟨hdefault, hsibling, hbound, hm, htext, hdeclared, hname⟩ := heval
  obtain ⟨table, htable⟩ : ∃ table, TypeTable.ofFiles [defaultFile, siblingFile] = .ok table := ⟨_, rfl⟩
  refine ⟨eq_ok_of_toOption hdefault, eq_ok_of_toOption hsibling, hbound, hm, htext, hdeclared, hname, by decide,
    table, htable, TypeTable.resolve_of_mem_ofFiles (f := defaultFile) htable (by simp) ?_ ?_⟩
  · exact List.mem_singleton_self _
  · rw [hname]
    rfl

end Bound

end SourceOutline.Python
