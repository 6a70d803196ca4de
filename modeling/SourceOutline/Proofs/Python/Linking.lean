import SourceOutline.Proofs.Handler.Stubs
import SourceOutline.Proofs.Model.Registration
import SourceOutline.Proofs.Python.Reference
import SourceOutline.Proofs.Text.Dotted
import SourceOutline.Python.Grammar

/-!
# References to other files in Python

A class has the module of its file in front of its nested name.  An import binds a name to a module, to
a package around it or to a member of it, and a reference is put together from what its first component
is bound to and the components after that.  All of these meet in the qualified name, so a table of the
types of all files resolves the stub to the class.

* `qualifiedName_types`: a class is qualified by the module of its file.
* `qualifiedName_of_bound`, `qualifiedName_of_head_bound`: bound names are qualified as they are bound.

Main statement: `resolve_stubOf_of_bound`.  Not every base of a class is looked up, and only a name
without dots is looked up as the first component of another one (`exists_unresolved_base`).
-/

namespace SourceOutline.Python

/-! ## The declaring file -/

/-- A class is qualified by the module of its file. -/
theorem qualifiedName_types {module code : String} {parse : String → Node} {g : ParsedFile}
    {d : TypeDecl} (hfile : ((Handler.python module).fileIn parse code).result = .ok g)
    (hmodule : module ≠ "") (hd : d ∈ g.types) : d.qualifiedName = module ++ "." ++ d.name := by
  have hnames : (d.package.name, d.name) ∈ g.types.map fun t => (t.package.name, t.name) :=
    List.mem_map_of_mem hd
  rw [Handler.names_types hfile] at hnames
  obtain ⟨e, -, heq⟩ := List.mem_map.mp hnames
  have hpackage : d.package.name = module := (Prod.mk.inj heq).1.symm
  rw [TypeDecl.qualifiedName, hpackage, Dotted.join, if_neg hmodule]

/-- No class of a module without a leading dot has one. -/
theorem head?_qualifiedName_types {module code : String} {parse : String → Node} {g : ParsedFile}
    {d : TypeDecl} (hfile : ((Handler.python module).fileIn parse code).result = .ok g)
    (hmodule : module ≠ "") (hdot : module.toList.head? ≠ some '.') (hd : d ∈ g.types) :
    d.qualifiedName.toList.head? ≠ some '.' := by
  have hne : module.toList ≠ [] := fun h => hmodule (String.toList_inj.mp h)
  rw [qualifiedName_types hfile hmodule hd, String.append_assoc, String.toList_append,
    List.head?_append_of_ne_nil _ hne]
  exact hdot

/-! ## The file that refers to it -/

section Bound

variable {m : Mention} {qualified : String}

/-- A bound name is qualified as it is bound. -/
theorem qualifiedName_of_bound (hbar : '|' ∉ (lookupName m.text).toList)
    (hdeclared : m.scope.declared.get? (lookupName m.text) = none)
    (hbound : m.scope.imports.get? (lookupName m.text) = some qualified)
    (hdot : qualified.toList.head? ≠ some '.') : (stubOf m).qualifiedName = qualified := by
  rw [stubOf, qualifiedName_reference hbar, resolve_of_imported hdeclared hbound,
    Dotted.join_splitLast hdot]

/-- A name inside a bound one is qualified inside what that is bound to. -/
theorem qualifiedName_of_head_bound {h rest : String} (hhead : '.' ∉ h.toList)
    (htext : lookupName m.text = h ++ "." ++ rest) (hbar : '|' ∉ (lookupName m.text).toList)
    (hdeclared : m.scope.declared.get? (lookupName m.text) = none)
    (hnone : m.scope.imports.get? (lookupName m.text) = none)
    (hbound : m.scope.imports.get? h = some qualified)
    (hdot : (qualified ++ "." ++ rest).toList.head? ≠ some '.') :
    (stubOf m).qualifiedName = qualified ++ "." ++ rest := by
  have hsplit : Dotted.splitFirst (lookupName m.text) = some (h, rest) := by
    rw [htext, Dotted.splitFirst_append_dot hhead]
  rw [stubOf, qualifiedName_reference hbar, resolve_of_head_imported hdeclared hnone hsplit hbound,
    Dotted.join_splitLast hdot]

end Bound

/-- **A file refers to the classes of other modules through its imports**: if the last binding of `h`
stands for a registered class, or for a package, module or class around it, then the stub for a base or
an annotation `h`, or for a name inside `h`, is resolved to that class. -/
theorem resolve_stubOf_of_bound {parse parse' : String → Node} {module module' code code' h : String}
    {f g : ParsedFile} {files : List ParsedFile} {table : TypeTable} {d : TypeDecl} {m : Mention}
    {b : Binding} (hmodule : module ≠ "") (hdot : module.toList.head? ≠ some '.')
    (hdeclaring : ((Handler.python module).fileIn parse code).result = .ok g)
    (hreferring : ((Handler.python module').fileIn parse' code').result = .ok f)
    (htable : TypeTable.ofFiles files = .ok table) (hg : g ∈ files) (hd : d ∈ g.types)
    (hm : m ∈ mentions (.ofString code') module' (parse' code'))
    (hbar : '|' ∉ (lookupName m.text).toList)
    (hdeclared : (fileScope (.ofString code') module' (parse' code')).declared.get?
      (lookupName m.text) = none)
    (hbound : ((fileBindings (.ofString code') (parse' code')).filter fun b =>
      b.localName ≠ "*" ∧ b.localName = h).getLast? = some b)
    (hname : lookupName m.text = h ∧ d.qualifiedName = b.bound ∨
      ∃ r, '.' ∉ h.toList ∧ lookupName m.text = h ++ "." ++ r ∧
        (fileScope (.ofString code') module' (parse' code')).imports.get? (lookupName m.text) = none ∧
        d.qualifiedName = b.bound ++ "." ++ r) :
    stubOf m ∈ (Handler.python module').stubs (.ofString code') (parse' code') ∧
      table.resolve (stubOf m) = d := by
  refine ⟨Handler.mem_stubs hreferring hm, ?_⟩
  have hscope := scope_of_mem_mentions hm
  rw [← hscope] at hdeclared hname
  have hget : m.scope.imports.get? h = some b.bound := by
    rw [hscope]
    show (importTable _).get? h = _
    rw [get?_importTable, hbound]
    rfl
  have hlead := head?_qualifiedName_types hdeclaring hmodule hdot hd
  refine TypeTable.resolve_of_mem_ofFiles htable hg hd ?_
  rcases hname with ⟨htext, hq⟩ | ⟨r, hhead, htext, hnone, hq⟩
  · rw [hq] at hlead ⊢
    exact qualifiedName_of_bound hbar hdeclared (htext ▸ hget) hlead
  · rw [hq] at hlead ⊢
    exact qualifiedName_of_head_bound hhead htext hbar hdeclared hnone hget hlead

/-! ## A nested class through the package of its module -/

/-- The code of a module `a.b`: a class with one nested in it. -/
def outerCode : String :=
  "class D:\n  class E: pass\n"

/-- What is extracted from `outerCode`. -/
def outerFile : ParsedFile where
  types := [⟨⟨"a.b"⟩, "D", { visibility := .pub }, .classType, [], []⟩,
    ⟨⟨"a.b"⟩, "D.E", { visibility := .pub }, .classType, [], []⟩]

/-- A class that extends the nested one, with an argument in brackets. -/
def packageCode : String :=
  "import a.b\nclass C(a.b.D.E[int]): pass\n"

/-- What is extracted from `packageCode`. -/
def packageFile : ParsedFile where
  imports := [⟨"a.b"⟩]
  types := [⟨⟨""⟩, "C", { visibility := .pub }, .classType, [.stub "a.b.D" "E"], []⟩]

theorem resolve_nested_in_package :
    let src := Source.ofString packageCode
    let m : Mention := ⟨fileScope src "" (parse packageCode), "a.b.D.E", .classType⟩
    ∃ table, TypeTable.ofFiles [packageFile, outerFile] = .ok table ∧
      stubOf m ∈ (Handler.python "").stubs src (parse packageCode) ∧
        table.resolve (stubOf m) = ⟨⟨"a.b"⟩, "D.E", { visibility := .pub }, .classType, [], []⟩ := by
  intro src m
  have houter : ((Handler.python "a.b").fileIn parse outerCode).result.toOption = some outerFile := by
    decide +kernel
  have heval : ((Handler.python "").fileIn parse packageCode).result.toOption = some packageFile ∧
      m ∈ mentions src "" (parse packageCode) ∧
      (fileScope src "" (parse packageCode)).declared.get? (lookupName m.text) = none ∧
      (fileScope src "" (parse packageCode)).imports.get? (lookupName m.text) = none ∧
      ((fileBindings src (parse packageCode)).filter fun b =>
        b.localName ≠ "*" ∧ b.localName = "a").getLast? = some ⟨"a.b", "a", "a"⟩ := by
    decide +kernel
  obtain ⟨hfile, hm, hdeclared, hnone, hbound⟩ := heval
  obtain ⟨table, htable⟩ : ∃ table, TypeTable.ofFiles [packageFile, outerFile] = .ok table := ⟨_, rfl⟩
  have htext : lookupName m.text = "a" ++ "." ++ "b.D.E" := by
    decide +kernel
  have hresolve := resolve_stubOf_of_bound (h := "a") (g := outerFile)
    (d := ⟨⟨"a.b"⟩, "D.E", { visibility := .pub }, .classType, [], []⟩) (by decide) (by decide +kernel)
    (eq_ok_of_toOption houter) (eq_ok_of_toOption hfile) htable (by simp) (by decide +kernel) hm
    (by decide +kernel) hdeclared hbound
    (Or.inr ⟨"b.D.E", by decide +kernel, htext, hnone, by decide +kernel⟩)
  exact ⟨table, htable, hresolve⟩

/-! ## Bases that are not resolved -/

/-- The code of a module `m`: a class with the name of an ignored base, and three nested ones. -/
def sharedCode : String :=
  "class Generic: pass\nclass a:\n  class b:\n    class c: pass\n"

/-- What is extracted from `sharedCode`. -/
def sharedFile : ParsedFile where
  types := ["Generic", "a", "a.b", "a.b.c"].map fun name =>
    ⟨⟨"m"⟩, name, { visibility := .pub }, .classType, [], []⟩

/-- A class with two of these for bases; the import binds a dotted name. -/
def basesCode : String :=
  "from m import Generic, a.b\nclass C(Generic, a.b.c): pass\n"

/-- What is extracted from `basesCode`. -/
def basesFile : ParsedFile where
  imports := [⟨"m.Generic"⟩, ⟨"m.a.b"⟩]
  types := [⟨⟨""⟩, "C", { visibility := .pub }, .classType, [.stub "a.b" "c"], []⟩]

/-- Two bases that stand for registered classes by their last bindings, and no stub that is resolved to
either: `Generic` is not looked up, and of `a.b.c` the name `a` is. -/
theorem exists_unresolved_base :
    let src := Source.ofString basesCode
    let root := parse basesCode
    let lastBinding (h : String) := ((fileBindings src root).filter fun b =>
      b.localName ≠ "*" ∧ b.localName = h).getLast?
    ((Handler.python "m").fileIn parse sharedCode).result = .ok sharedFile ∧
      ((Handler.python "").fileIn parse basesCode).result = .ok basesFile ∧
      (places src root).map (fun e => bases src e.2.node) = [["Generic", "a.b.c"]] ∧
      (∀ text ∈ ["Generic", "a.b.c"], lookupName text = text ∧
        (fileScope src "" root).declared.get? text = none) ∧
      lastBinding "Generic" = some ⟨"m.Generic", "Generic", "m.Generic"⟩ ∧
      lastBinding "a.b" = some ⟨"m.a.b", "a.b", "m.a.b"⟩ ∧
      (fileScope src "" root).imports.get? "a.b.c" = none ∧
      ∃ table, TypeTable.ofFiles [sharedFile, basesFile] = .ok table ∧
        ∀ d ∈ sharedFile.types, d.qualifiedName ∈ ["m.Generic", "m.a.b.c"] →
          ∀ stub ∈ (Handler.python "").stubs src root, table.resolve stub ≠ d := by
  intro src root lastBinding
  have hshared : ((Handler.python "m").fileIn parse sharedCode).result.toOption = some sharedFile := by
    decide +kernel
  have heval : ((Handler.python "").fileIn parse basesCode).result.toOption = some basesFile ∧
      (places src root).map (fun e => bases src e.2.node) = [["Generic", "a.b.c"]] ∧
      (∀ text ∈ ["Generic", "a.b.c"], lookupName text = text ∧
        (fileScope src "" root).declared.get? text = none) ∧
      lastBinding "Generic" = some ⟨"m.Generic", "Generic", "m.Generic"⟩ ∧
      lastBinding "a.b" = some ⟨"m.a.b", "a.b", "m.a.b"⟩ ∧
      (fileScope src "" root).imports.get? "a.b.c" = none ∧
      (Handler.python "").stubs src root = [.stub "a.b" "c"] := by
    decide +kernel
  obtain ⟨hfile, hbases, htexts, hgeneric, hdotted, hnone, hstubs⟩ := heval
  refine ⟨eq_ok_of_toOption hshared, eq_ok_of_toOption hfile, hbases, htexts, hgeneric, hdotted, hnone, ?_⟩
  obtain ⟨table, htable⟩ : ∃ table, TypeTable.ofFiles [sharedFile, basesFile] = .ok table := ⟨_, rfl⟩
  refine ⟨table, htable, ?_⟩
  rw [hstubs]
  intro d _ hname stub hstub hresolve
  rw [List.mem_singleton.mp hstub] at hresolve
  -- what the stub is resolved to has the name of the stub
  have hnames : d.qualifiedName = "a.b.c" := by
    rw [← hresolve, TypeTable.qualifiedName_resolve]
    rfl
  rw [hnames] at hname
  exact absurd hname (by decide)

end SourceOutline.Python
