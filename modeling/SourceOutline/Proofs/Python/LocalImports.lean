import SourceOutline.Proofs.Handler.Answers
import SourceOutline.Proofs.Python.Insertions
import SourceOutline.Proofs.Python.Reference
import SourceOutline.Proofs.Python.ScopeChange

/-!
# Imports inside functions

An import statement binds its names for the whole file, wherever it stands.  So import statements that are put into
functions, or into other lists of statements, leave every class as it is but for the names that they bind last.

* `get?_imports_cases`, `stubOf_inScope_cases`: what further statements do to a name that is looked up.
* `exists_found_of_grown`: the classes and members of a file are the same without their types, and the types are
  looked up by the same names.

Main statement: `details_of_inserted_imports`.  `exists_local_import_rebinding` is an import in a function
that gives a class another base.
-/

namespace SourceOutline.Python

open Node

/-- A class as it is given. -/
def Found.details (f : Found) : TypeDetails :=
  ⟨f.type, .ofList f.members⟩

/-- The last statement of a file that binds a name is one of those that are put in. -/
def BoundByAdded (src : Source) (added : Node → Prop) (root : Node) (name : String) : Prop :=
  ∃ b, ((fileBindings src root).filter fun b => b.localName ≠ "*" ∧ b.localName = name).getLast? = some b ∧
    ∃ x, added x ∧ b ∈ bindings src x

/-- A type is named that the file does not declare, and its name or the first component of this is bound by a
statement that is put in. -/
def Rebound (src : Source) (added : Node → Prop) (root : Node) (m : Mention) : Prop :=
  m.scope.declared.get? (lookupName m.text) = none ∧
    (BoundByAdded src added root (lookupName m.text) ∨ ∃ head rest,
      Dotted.splitFirst (lookupName m.text) = some (head, rest) ∧ BoundByAdded src added root head)

variable {src src' : Source} {added : Node → Prop} {module : String} {root root' : Node}

/-! ## Names -/

section Names

/-- What a name stands for changes only if a further statement binds it last. -/
theorem get?_imports_cases (h : Grown src src' added root root') (name : String) :
    (fileScope src' module root').imports.get? name = (fileScope src module root).imports.get? name ∨
      BoundByAdded src' added root' name := by
  show (importTable (fileBindings src' root')).get? name = (importTable (fileBindings src root)).get? name ∨ _
  rw [get?_importTable, get?_importTable]
  have hgains := (fileBindings_of_grown h).filter fun b => b.localName ≠ "*" ∧ b.localName = name
  rcases hgains.getLast?_cases with hsame | ⟨b, hb, x, -, hx, hmem⟩
  · exact .inl (by rw [hsame])
  · exact .inr ⟨b, hb, x, hx, hmem⟩

theorem declared_of_grown (h : Grown src src' added root root') :
    (fileScope src' module root').declared = (fileScope src module root).declared :=
  (Declaration.registerAll_of_related (classesIn_of_grown h) none []).symm

/-- What is built for a name changes only if it is rebound. -/
theorem stubOf_inScope_cases (h : Grown src src' added root root') {m : Mention}
    (hm : m.scope = fileScope src module root) :
    stubOf (m.inScope (fileScope src' module root')) = stubOf m ∨ Rebound src' added root' m := by
  by_cases hrebound : Rebound src' added root' m
  · exact .inr hrebound
  refine .inl ?_
  have hresolve :
      resolve (fileScope src' module root') (lookupName m.text) = resolve m.scope (lookupName m.text) := by
    unfold resolve
    rw [declared_of_grown h, hm]
    cases hdeclared : (fileScope src module root).declared.get? (lookupName m.text) with
    | some full => rfl
    | none =>
      -- only the name and its first component are looked up among the imports
      have hunbound : ∀ {name}, (BoundByAdded src' added root' name → Rebound src' added root' m) →
          (fileScope src' module root').imports.get? name = (fileScope src module root).imports.get? name :=
        fun hname => (get?_imports_cases h _).resolve_right fun hbound => hrebound (hname hbound)
      have hnone : m.scope.declared.get? (lookupName m.text) = none := hm ▸ hdeclared
      rw [hunbound fun hbound => ⟨hnone, .inl hbound⟩]
      cases hsplit : Dotted.splitFirst (lookupName m.text) with
      | none => rfl
      | some p =>
        have hhead : BoundByAdded src' added root' p.1 → Rebound src' added root' m :=
          fun hbound => ⟨hnone, .inr ⟨p.1, p.2, hsplit, hbound⟩⟩
        dsimp only
        rw [hunbound hhead]
  show reference (fileScope src' module root') m.text m.kind = reference m.scope m.text m.kind
  unfold reference
  dsimp only
  rw [hresolve]

end Names

/-- What an import statement binds are names for what it imports. -/
theorem value_mem_statementValues {x : Node} {b : Binding} (hx : IsImportStatement x) (hb : b ∈ bindings src x) :
    b.value ∈ statementValues src x := by
  have himport : isImport x = true := by
    rcases hx.kind with hkind | hkind <;> simp [isImport, hkind]
  have hvalues := @statementBindings?_values src x
  rw [if_pos himport] at hvalues
  obtain ⟨bs, hbs, hmap⟩ := Option.map_eq_some_iff.mp hvalues
  rw [bindings_eq_ite, hbs] at hb
  exact hmap ▸ List.mem_map_of_mem hb

/-! ## Classes -/

section Classes

theorem result_detailsIn_eq (hok : root.hasError = false) :
    ((Handler.python module).detailsIn src root).result =
      (found src module root).result.map (List.map Found.details) := by
  rw [Handler.result_detailsIn, hok, if_neg Bool.false_ne_true]
  rfl

/-- Without the types that are named in them, the classes are the same. -/
theorem untyped_found (h : Grown src src' added root root') :
    (found src' module root').result.map (List.map Found.untyped) =
      (found src module root).result.map (List.map Found.untyped) := by
  have hpackage : (fileScope src' module root').package = (fileScope src module root).package := rfl
  rw [found_of_grown h, result_found]
  exact map_mapM_congr fun e _ => untyped_foundAt hpackage e

/-- The types are looked up by the same names, in the same order. -/
theorem exists_found_of_grown (h : Grown src src' added root root') {fs : List Found}
    (hfs : (found src module root).result = .ok fs) :
    ∃ fs', (found src' module root').result = .ok fs' ∧ fs'.map Found.untyped = fs.map Found.untyped ∧
      fs.map Found.stubs = (places src root).map (fun e =>
        (sitesAt src (fileScope src module root) e).map (Site.stub stubOf)) ∧
      fs'.map Found.stubs = (places src root).map (fun e =>
        (sitesAt src (fileScope src module root) e).map
          (Site.stub fun m => stubOf (m.inScope (fileScope src' module root')))) := by
  have hpackage : (fileScope src' module root').package = (fileScope src module root).package := rfl
  have huntyped := @untyped_found src src' added module root root' h
  rw [hfs] at huntyped
  rw [result_found] at hfs
  cases hfs' : (found src' module root').result with
  | error e =>
    rw [hfs'] at huntyped
    cases huntyped
  | ok fs' =>
    rw [hfs'] at huntyped
    refine ⟨fs', rfl, Except.ok.inj huntyped, ?_, ?_⟩
    · exact map_eq_map_of_mapM_eq_ok (fun e _ f hf => stubs_foundAt src _ hf) hfs
    · rw [found_of_grown h] at hfs'
      refine map_eq_map_of_mapM_eq_ok (fun e _ f hf => ?_) hfs'
      rw [stubs_foundAt src _ hf, sitesAt_inScope hpackage, List.map_map]
      exact List.map_congr_left fun s _ => Site.stub_inScope stubOf _ s

theorem found_eq_of_parts {fs fs' : List Found} (h : fs'.map Found.untyped = fs.map Found.untyped)
    (hstubs : fs'.map Found.stubs = fs.map Found.stubs) : fs' = fs := by
  have hinjective : Function.Injective fun f : Found => (f.untyped, f.stubs) := by
    intro f f' heq
    obtain ⟨huntyped, hstubs⟩ := Prod.mk.inj heq
    exact Found.eq_of_untyped huntyped hstubs
  have hzip : ∀ gs : List Found,
      gs.map (fun f => (f.untyped, f.stubs)) = (gs.map Found.untyped).zip (gs.map Found.stubs) :=
    fun gs => List.zip_map'.symm
  have hpairs : fs'.map (fun f => (f.untyped, f.stubs)) = fs.map fun f => (f.untyped, f.stubs) := by
    rw [hzip, hzip, h, hstubs]
  exact hinjective.list_map hpairs

/-- What cannot be told about a class is the same. -/
theorem found_eq_error_of_grown (h : Grown src src' added root root') {e : Failure}
    (he : (found src module root).result = .error e) : (found src' module root').result = .error e := by
  have huntyped := @untyped_found src src' added module root root' h
  rw [he] at huntyped
  cases hfs' : (found src' module root').result with
  | error e' =>
    rw [hfs'] at huntyped
    exact congrArg Except.error (Except.error.inj huntyped)
  | ok fs' =>
    rw [hfs'] at huntyped
    cases huntyped

/-- Where nothing is rebound, the classes are the same. -/
theorem found_eq_of_not_rebound (h : Grown src src' added root root')
    (hnone : ∀ m ∈ mentions src module root, ¬ Rebound src' added root' m) :
    (found src' module root').result = (found src module root).result := by
  cases hfs : (found src module root).result with
  | error e => exact found_eq_error_of_grown h hfs
  | ok fs =>
    obtain ⟨fs', hfs', huntyped, hstubs, hstubs'⟩ := exists_found_of_grown h hfs
    have hsite : ∀ s ∈ sites src module root,
        s.stub (fun m => stubOf (m.inScope (fileScope src' module root'))) = s.stub stubOf := by
      intro s hs
      cases s with
      | understood t => simp only [Site.stub]
      | named m =>
        have hm : m ∈ mentions src module root := Site.mem_filterMap_mention?_iff.mpr hs
        simp only [Site.stub]
        exact (stubOf_inScope_cases h (scope_of_mem_mentions hm)).resolve_right (hnone m hm)
    -- the same sites on both sides, so it is enough that each of them gives the same stub
    have hsame : fs'.map Found.stubs = fs.map Found.stubs := by
      rw [hstubs, hstubs']
      refine List.map_congr_left fun e he => ?_
      exact List.map_congr_left fun s hs => hsite s (List.mem_flatMap.mpr ⟨e, he, hs⟩)
    rw [hfs', found_eq_of_parts huntyped hsame]

end Classes

/-- **Import statements bind for the whole file**: where they are put into functions or into other lists of
statements, the imports gain what they import.  The classes keep their names, kinds, modifiers and members,
and each type that is named in them stands for what it did, unless a statement that is put in is the last one
to bind its name or the first component of this; then it stands for what is bound. -/
theorem details_of_inserted_imports (module : String) (hok : root.hasError = false)
    (h : Grown src src' added root root') :
    let scope := fileScope src module root
    let scope' := fileScope src' module root'
    (∃ is is', ((Handler.python module).importsIn src root).result = .ok is ∧
      ((Handler.python module).importsIn src' root').result = .ok is' ∧
      Gains (· = ·) (fun i => ∃ x, IsImportStatement x ∧ added x ∧ i.value ∈ statementValues src' x)
        is is') ∧
    (∀ ds, ((Handler.python module).detailsIn src root).result = .ok ds → ∃ fs fs' : List Found,
      ds = fs.map Found.details ∧
      ((Handler.python module).detailsIn src' root').result = .ok (fs'.map Found.details) ∧
      fs'.map Found.untyped = fs.map Found.untyped ∧
      fs.map Found.stubs = (places src root).map (fun e => (sitesAt src scope e).map (Site.stub stubOf)) ∧
      fs'.map Found.stubs = (places src root).map (fun e =>
        (sitesAt src scope e).map (Site.stub fun m => stubOf (m.inScope scope')))) ∧
    (∀ e, ((Handler.python module).detailsIn src root).result = .error e →
      ((Handler.python module).detailsIn src' root').result = .error e) ∧
    (∀ m ∈ mentions src module root,
      (stubOf (m.inScope scope') = stubOf m ∨ Rebound src' added root' m) ∧
      ∀ b, scope.declared.get? (lookupName m.text) = none → '|' ∉ (lookupName m.text).toList →
        ((fileBindings src' root').filter fun b =>
          b.localName ≠ "*" ∧ b.localName = lookupName m.text).getLast? = some b →
        stubOf (m.inScope scope') = .stub (Dotted.splitLast b.bound).1 (Dotted.splitLast b.bound).2 m.kind) ∧
    ((∀ m ∈ mentions src module root, ¬ Rebound src' added root' m) →
      ((Handler.python module).detailsIn src' root').result =
        ((Handler.python module).detailsIn src root).result) := by
  intro scope scope'
  have hok' : root'.hasError = false := h.hasError_eq ▸ hok
  refine ⟨⟨_, _, by rw [Handler.result_importsIn, hok]; rfl, by rw [Handler.result_importsIn, hok']; rfl, ?_⟩,
    fun ds hds => ?_, fun e he => ?_,
    fun m hm => ⟨stubOf_inScope_cases h (scope_of_mem_mentions hm), fun b hdeclared hbar hb => ?_⟩,
      fun hnone => ?_⟩
  · refine (fileBindings_of_grown h).map (fun b ⟨x, himport, hx, hb⟩ => ⟨x, himport, hx, ?_⟩)
      fun a b hab => by rw [hab]
    exact value_mem_statementValues himport hb
  · rw [result_detailsIn_eq hok] at hds
    obtain ⟨fs, hfs, rfl⟩ := map_eq_ok_iff.mp hds
    obtain ⟨fs', hfs', hparts⟩ := exists_found_of_grown h hfs
    exact ⟨fs, fs', rfl, by rw [result_detailsIn_eq hok', hfs']; rfl, hparts⟩
  · rw [result_detailsIn_eq hok, map_eq_error_iff] at he
    rw [result_detailsIn_eq hok', map_eq_error_iff]
    exact found_eq_error_of_grown h he
  · have himport : scope'.imports.get? (lookupName m.text) = some b.bound := get?_importTable_of_getLast? hb
    have hunknown : scope'.declared.get? (lookupName m.text) = none := declared_of_grown h ▸ hdeclared
    show reference scope' m.text m.kind = _
    unfold reference
    dsimp only
    rw [if_neg hbar, resolve_of_imported hunknown himport]
  · rw [result_detailsIn_eq hok, result_detailsIn_eq hok', found_eq_of_not_rebound h hnone]

/-! ## A function before a class -/

/-- A function before a class with a base. -/
def functionCode : String :=
  "def f():\n  pass\nclass C(Base): pass\n"

/-- The same file, with an import in the function that has nothing to do with the base. -/
def unrelatedCode : String :=
  "def f():\n  from n import Rest\n  pass\nclass C(Base): pass\n"

/-- The same file, with an import of the base in the function. -/
def rebindingCode : String :=
  "def f():\n  from n import Base\n  pass\nclass C(Base): pass\n"

/-- The statement that does nothing. -/
def passNode (start : Nat) : Node where
  kind := "pass_statement"
  start := start
  stop := start + 4
  children := [{ kind := "pass", start := start, stop := start + 4, named := false }]

/-- The import in the function. -/
def importNode : Node where
  kind := "import_from_statement"
  start := 11
  stop := 29
  children := [
    { kind := "from", start := 11, stop := 15, named := false },
    { kind := "dotted_name", start := 16, stop := 17, field := some "module_name",
      children := [{ kind := "identifier", start := 16, stop := 17 }] },
    { kind := "import", start := 18, stop := 24, named := false },
    { kind := "dotted_name", start := 25, stop := 29, field := some "name",
      children := [{ kind := "identifier", start := 25, stop := 29 }] }]

/-- The function, with the given statements before the last one, by so much longer. -/
def functionNode (statements : List Node) (longer : Nat) : Node where
  kind := "function_definition"
  start := 0
  stop := 15 + longer
  children := [
    { kind := "def", start := 0, stop := 3, named := false },
    { kind := "identifier", start := 4, stop := 5, field := some "name" },
    { kind := "parameters", start := 5, stop := 7, field := some "parameters",
      children := [{ kind := "(", start := 5, stop := 6, named := false },
        { kind := ")", start := 6, stop := 7, named := false }] },
    { kind := ":", start := 7, stop := 8, named := false },
    { kind := "block", start := 11, stop := 15 + longer, field := some "body",
      children := statements ++ [passNode (11 + longer)] }]

/-- The class, by so much later. -/
def classNode (later : Nat) : Node where
  kind := "class_definition"
  start := 16 + later
  stop := 35 + later
  children := [
    { kind := "class", start := 16 + later, stop := 21 + later, named := false },
    { kind := "identifier", start := 22 + later, stop := 23 + later, field := some "name" },
    { kind := "argument_list", start := 23 + later, stop := 29 + later, field := some "superclasses",
      children := [{ kind := "(", start := 23 + later, stop := 24 + later, named := false },
        { kind := "identifier", start := 24 + later, stop := 28 + later },
        { kind := ")", start := 28 + later, stop := 29 + later, named := false }] },
    { kind := ":", start := 29 + later, stop := 30 + later, named := false },
    { kind := "block", start := 31 + later, stop := 35 + later, field := some "body",
      children := [passNode (31 + later)] }]

/-- The tree of the file, with the given statements in the function. -/
def functionTree (statements : List Node) (longer : Nat) : Node where
  kind := "module"
  start := 0
  stop := 36 + longer
  children := [functionNode statements longer, classNode longer]

theorem isImportStatement_importNode : IsImportStatement importNode :=
  ⟨.inr rfl, rfl, by decide⟩

/-- The import may be put into the function, whatever it imports. -/
theorem grown_functionTree {code' : String}
    (hfunction : ∀ p ∈ [(0, 3), (4, 5), (5, 7), (5, 6), (6, 7), (7, 8)],
      (Source.ofString functionCode).slice p.1 p.2 = (Source.ofString code').slice p.1 p.2)
    (hrest : ∀ p ∈ [(11, 15), (16, 35), (16, 21), (22, 23), (23, 29), (23, 24), (24, 28), (28, 29), (29, 30),
        (31, 35)],
      (Source.ofString functionCode).slice p.1 p.2 = (Source.ofString code').slice (p.1 + 21) (p.2 + 21)) :
    Grown (.ofString functionCode) (.ofString code') (· = importNode) (functionTree [] 0)
      (functionTree [importNode] 21) := by
  have hpass : Alike (.ofString functionCode) (.ofString code') (passNode 11) (passNode 32) :=
    .node (hrest (11, 15) (by decide)) (.cons (.node (hrest (11, 15) (by decide)) .nil) .nil)
  have hlast : Alike (.ofString functionCode) (.ofString code') (passNode 31) (passNode 52) :=
    .node (hrest (31, 35) (by decide)) (.cons (.node (hrest (31, 35) (by decide)) .nil) .nil)
  have hclass : Alike (.ofString functionCode) (.ofString code') (classNode 0) (classNode 21) := by
    refine .node (hrest (16, 35) (by decide)) (.cons (.node (hrest (16, 21) (by decide)) .nil)
      (.cons (.node (hrest (22, 23) (by decide)) .nil) (.cons (.node (hrest (23, 29) (by decide)) ?_)
        (.cons (.node (hrest (29, 30) (by decide)) .nil)
          (.cons (.node (hrest (31, 35) (by decide)) (.cons hlast .nil)) .nil)))))
    exact .cons (.node (hrest (23, 24) (by decide)) .nil)
      (.cons (.node (hrest (24, 28) (by decide)) .nil) (.cons (.node (hrest (28, 29) (by decide)) .nil) .nil))
  have hbody : Grown (.ofString functionCode) (.ofString code') (· = importNode) (functionNode [] 0)
      (functionNode [importNode] 21) := by
    refine .holder (by decide) (by decide) (by simp) (.keep (.alike (.node (hfunction (0, 3) (by decide)) .nil))
      (.keep (.alike (.node (hfunction (4, 5) (by decide)) .nil))
        (.keep (.alike (.node (hfunction (5, 7) (by decide)) ?_))
          (.keep (.alike (.node (hfunction (7, 8) (by decide)) .nil)) (.keep ?_ .nil)))))
    · exact .cons (.node (hfunction (5, 6) (by decide)) .nil)
        (.cons (.node (hfunction (6, 7) (by decide)) .nil) .nil)
    · exact .holder (by decide) (by decide) (by simp [passNode])
        (.gain (.inl ⟨isImportStatement_importNode, rfl⟩) (.keep (.alike hpass) .nil))
  exact .holder (by decide) (by decide) (by simp [functionNode, classNode])
    (.keep hbody (.keep (.alike hclass) .nil))

theorem details_of_unrelated_import :
    let src := Source.ofString functionCode
    let src' := Source.ofString unrelatedCode
    let root := functionTree [] 0
    let root' := functionTree [importNode] 21
    root.hasError = false ∧ Grown src src' (· = importNode) root root' ∧
      (∀ m ∈ mentions src "" root, ¬ Rebound src' (· = importNode) root' m) ∧
      ((Handler.python "").detailsIn src' root').result = ((Handler.python "").detailsIn src root).result := by
  intro src src' root root'
  have hok : root.hasError = false := by decide +kernel
  have hgrown : Grown src src' (· = importNode) root root' :=
    grown_functionTree (by decide +kernel) (by decide +kernel)
  have hbase : ∀ m ∈ mentions src "" root, lookupName m.text = "Base" := by decide +kernel
  have hunbound : ((fileBindings src' root').filter fun b =>
      b.localName ≠ "*" ∧ b.localName = "Base").getLast? = none := by
    decide +kernel
  have hsimple : Dotted.splitFirst "Base" = none := by decide +kernel
  have hnone : ∀ m ∈ mentions src "" root, ¬ Rebound src' (· = importNode) root' m := by
    rintro m hm ⟨-, hbound⟩
    rw [hbase m hm, hsimple] at hbound
    rcases hbound with ⟨b, hb, -⟩ | ⟨head, rest, hsplit, -⟩
    · rw [hunbound] at hb
      cases hb
    · cases hsplit
  obtain ⟨-, -, -, -, hsame⟩ := details_of_inserted_imports "" hok hgrown
  exact ⟨hok, hgrown, hnone, hsame hnone⟩

/-- **An import in a function is no local matter**: it gives a class after the function another base. -/
theorem exists_local_import_rebinding :
    let src := Source.ofString functionCode
    let src' := Source.ofString rebindingCode
    let root := functionTree [] 0
    let root' := functionTree [importNode] 21
    root.hasError = false ∧ Grown src src' (· = importNode) root root' ∧
      ((Handler.python "").typesIn src root).result.toOption.map (List.map fun t => (t.name, t.superClasses)) =
        some [("C", [.stub "" "Base"])] ∧
      ((Handler.python "").typesIn src' root').result.toOption.map (List.map fun t => (t.name, t.superClasses)) =
        some [("C", [.stub "n" "Base"])] := by
  intro src src' root root'
  have hbefore : ((Handler.python "").typesIn src root).result.toOption.map
      (List.map fun t => (t.name, t.superClasses)) = some [("C", [.stub "" "Base"])] := by decide +kernel
  have hafter : ((Handler.python "").typesIn src' root').result.toOption.map
      (List.map fun t => (t.name, t.superClasses)) = some [("C", [.stub "n" "Base"])] := by decide +kernel
  exact ⟨by decide +kernel, grown_functionTree (by decide +kernel) (by decide +kernel), hbefore, hafter⟩

end SourceOutline.Python
