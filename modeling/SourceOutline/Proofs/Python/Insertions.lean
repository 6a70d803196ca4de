import SourceOutline.Proofs.Extract.Declared
import SourceOutline.Proofs.Python.ImportStatements
import SourceOutline.Proofs.Python.Failures
import SourceOutline.Proofs.Syntax.Insertions

/-!
# Python trees with more import statements

Import statements are no classes and no members, so the classes of a file stay what they are when import statements
are put into lists of statements.  Only the scope in which their names are looked up may be another one.

* `bindings_of_grown`: the bindings are those of before, with those of the further statements among them.
* `classesIn_of_grown`: the same classes are declared, and they bear the same names.
* `header_of_grown`, `declaredMembers_of_grown`: in one scope, they have the same headers and members.

Main statement: `found_of_grown`.
-/

namespace SourceOutline.Python

open Node

variable {src src' : Source} {added : Node → Prop} {n n' : Node}

/-! ## Bindings -/

section Bindings

theorem fieldText_of_alike (h : Alike src src' n n') (field : String) :
    fieldText src n field = fieldText src' n' field := by
  rw [fieldText, fieldText, h.fieldText?_eq]

theorem aliased_of_alike (h : Alike src src' n n') : aliased src n = aliased src' n' := by
  unfold aliased
  rw [h.kind_eq, fieldText_of_alike h, fieldText_of_alike h, h.text_eq]

theorem fromBindings_of_alike (h : Alike src src' n n') : fromBindings src n = fromBindings src' n' := by
  have hmodule : moduleName src n = moduleName src' n' := by
    rw [moduleName, moduleName, h.kind_eq, fieldText_of_alike h]
  have hstars := filter_rel (p := fun c => c.kind == "wildcard_import") (q := fun c => c.kind == "wildcard_import")
    h.children fun _ _ hc => by rw [hc.kind_eq]
  unfold fromBindings
  rw [hmodule]
  exact congrArg₂ (· ++ ·) (map_eq_of_forall₂ hstars fun _ _ _ => rfl)
    (map_eq_of_forall₂ (h.childrenBy "name") fun _ _ hc => by rw [aliased_of_alike hc])

theorem statementBindings?_of_alike (h : Alike src src' n n') :
    statementBindings? src n = statementBindings? src' n' := by
  have hplain : (n.childrenBy "name").map (plainBinding src) = (n'.childrenBy "name").map (plainBinding src') :=
    map_eq_of_forall₂ (h.childrenBy "name") fun c c' hc => by
      unfold plainBinding
      rw [aliased_of_alike hc, hc.kind_eq]
  unfold statementBindings?
  rw [h.kind_eq, hplain, fromBindings_of_alike h]

theorem bindings_of_alike {n n' : Node} (h : Alike src src' n n') : bindings src n = bindings src' n' := by
  have hflat : n.children.flatMap (bindings src) = n'.children.flatMap (bindings src') :=
    flatMap_eq_of_forall₂ h.children fun c hc c' hcc' =>
      have := sizeOf_lt_of_mem_children hc
      bindings_of_alike hcc'
  have hany : n.children.any Node.named = n'.children.any Node.named :=
    (Gains.of_forall₂ (P := fun _ => False) h.children).any_eq (fun _ hx => hx.elim) fun _ _ _ hc =>
      hc.named_eq.symm
  rw [bindings_eq_ite, bindings_eq_ite, statementBindings?_of_alike h, hany, hflat]
termination_by sizeOf n

theorem statementBindings?_of_holder (hkind : n.kind ∈ statementHolders) :
    statementBindings? src n = none := by
  have hne : ∀ kind, kind ∉ statementHolders → n.kind ≠ kind := fun kind hnot heq => hnot (heq ▸ hkind)
  unfold statementBindings?
  rw [if_neg (hne _ (by decide)), if_neg (not_or.mpr ⟨hne _ (by decide), hne _ (by decide)⟩)]

theorem exists_import_of_inserted {x : Node} (h : Inserted added x) {b : Binding} (hb : b ∈ bindings src x) :
    ∃ y, IsImportStatement y ∧ added y ∧ b ∈ bindings src y := by
  rcases h with ⟨himport, hx⟩ | hsign
  · exact ⟨x, himport, hx, hb⟩
  · rw [bindings_of_leaf hsign.children] at hb
    cases hb

/-- The bindings of the statements that are put in are among those of the others. -/
theorem bindings_of_grown {n n' : Node} (h : Grown src src' added n n') :
    Gains (· = ·) (fun b => ∃ x, IsImportStatement x ∧ added x ∧ b ∈ bindings src' x) (bindings src n)
      (bindings src' n') := by
  match n, n', h with
  | _, _, .alike h =>
    rw [bindings_of_alike h]
    exact .of_forall₂ (List.forall₂_same.mpr fun _ _ => rfl)
  | _, _, @Grown.holder _ _ _ kind start stop start' stop' field named missing flagged cs cs' hkind _ hleaf hcs =>
    have hflat : Gains (· = ·) (fun b => ∃ x, IsImportStatement x ∧ added x ∧ b ∈ bindings src' x)
        (cs.flatMap (bindings src)) (cs'.flatMap (bindings src')) :=
      hcs.flatMap (fun x hx b hb => exists_import_of_inserted hx hb) fun c hc c' hcc' => bindings_of_grown hcc'
    rw [bindings_eq_ite, bindings_eq_ite, statementBindings?_of_holder hkind, statementBindings?_of_holder hkind]
    dsimp only
    have hany : cs.any Node.named = true → cs'.any Node.named = true := hcs.any_imp fun _ _ hc => hc.named_eq
    by_cases hnamed : cs.any Node.named = true
    · rwa [if_pos hnamed, if_pos (hany hnamed)]
    · -- only signs stood there, and they bind nothing
      have hnone : cs.flatMap (bindings src) = [] := by
        refine List.flatMap_eq_nil_iff.mpr fun c hc => bindings_of_leaf (hleaf c hc ?_)
        rw [List.any_eq_true] at hnamed
        exact Bool.eq_false_iff.mpr fun h => hnamed ⟨c, hc, h⟩
      rw [if_neg hnamed]
      split
      · rwa [hnone] at hflat
      · exact .nil
termination_by sizeOf n
decreasing_by
  have hlt := List.sizeOf_lt_of_mem hc
  simp only [Node.mk.sizeOf_spec]
  omega

/-- The bindings of a file likewise. -/
theorem fileBindings_of_grown {root root' : Node} (h : Grown src src' added root root') :
    Gains (· = ·) (fun b => ∃ x, IsImportStatement x ∧ added x ∧ b ∈ bindings src' x) (fileBindings src root)
      (fileBindings src' root') := by
  rw [fileBindings, fileBindings, bindingsIn_eq_flatMap, bindingsIn_eq_flatMap]
  exact h.children.flatMap (fun x hx b hb => exists_import_of_inserted hx hb) fun c _ c' hc => bindings_of_grown hc

end Bindings

/-! ## Members -/

section Members

variable {scope : Scope} {owner : TypeDecl}

theorem targetNamesIn_eq (src : Source) (ns : List Node) :
    targetNamesIn src ns = (ns.filter Node.named).flatMap (targetNames src) := by
  induction ns with
  | nil => rfl
  | cons n ns ih => cases hnamed : n.named <;> simp [targetNamesIn, ih, hnamed]

theorem targetNames_eq (src : Source) (n : Node) :
    targetNames src n = if n.kind = "identifier" then [src.text n]
      else if n.kind = "pattern_list" ∨ n.kind = "tuple_pattern" ∨ n.kind = "list_pattern" then
        n.namedChildren.flatMap (targetNames src)
      else [] := by
  obtain ⟨kind, start, stop, field, named, missing, flagged, children⟩ := n
  rw [targetNames, targetNamesIn_eq]
  rfl

theorem targetNames_of_alike {n n' : Node} (h : Alike src src' n n') :
    targetNames src n = targetNames src' n' := by
  have hflat : n.namedChildren.flatMap (targetNames src) = n'.namedChildren.flatMap (targetNames src') :=
    flatMap_eq_of_forall₂ h.namedChildren fun c hc c' hcc' =>
      have := sizeOf_lt_of_mem_children (List.mem_filter.mp hc).1
      targetNames_of_alike hcc'
  rw [targetNames_eq, targetNames_eq, h.kind_eq, h.text_eq, hflat]
termination_by sizeOf n

theorem assignedNames_eq (src : Source) (n : Node) :
    assignedNames src n = if n.kind = "assignment" then
        ((n.child? "left").elim [] (targetNames src)) ++ ((n.child? "right").elim [] (assignedNames src))
      else [] := by
  rw [assignedNames]
  split
  · cases n.child? "left" <;> cases n.child? "right" <;> simp
  · rfl

theorem assignedNames_of_alike {n n' : Node} (h : Alike src src' n n') :
    assignedNames src n = assignedNames src' n' := by
  have hleft : (n.child? "left").elim [] (targetNames src) = (n'.child? "left").elim [] (targetNames src') := by
    rcases h.child?_cases "left" with ⟨hn, hn'⟩ | ⟨c, c', hn, hn', hc⟩
    · rw [hn, hn']
      rfl
    · rw [hn, hn']
      exact targetNames_of_alike hc
  have hright : (n.child? "right").elim [] (assignedNames src) =
      (n'.child? "right").elim [] (assignedNames src') := by
    rcases h.child?_cases "right" with ⟨hn, hn'⟩ | ⟨c, c', hn, hn', hc⟩
    · rw [hn, hn']
      rfl
    · rw [hn, hn']
      have hlt := sizeOf_lt_of_mem_children (mem_of_child? hn)
      exact assignedNames_of_alike hc
  rw [assignedNames_eq, assignedNames_eq, h.kind_eq, hleft, hright]
termination_by sizeOf n

theorem fields_of_alike (h : Alike src src' n n') : fields src scope owner n = fields src' scope owner n' := by
  rw [fields, fields, assignedNames_of_alike h, h.fieldText?_eq]

theorem splatName_of_alike (h : Alike src src' n n') : splatName src n = splatName src' n' := by
  have hnames := filter_rel (p := fun c => c.kind = "identifier") (q := fun c => c.kind = "identifier")
    h.namedChildren fun _ _ hc => by rw [hc.kind_eq]
  unfold splatName
  rw [← List.head?_filter, ← List.head?_filter, h.text_eq]
  rcases head?_cases_of_forall₂ hnames with ⟨hn, hn'⟩ | ⟨c, c', hn, hn', hc⟩
  · rw [hn, hn']
  · rw [hn, hn']
    exact hc.text_eq

theorem parameter_of_alike (h : Alike src src' n n') : parameter src n = parameter src' n' := by
  have hnamed := h.namedChildren
  unfold parameter
  rw [h.kind_eq, h.text_eq, splatName_of_alike h, h.fieldText?_eq, h.fieldText?_eq]
  generalize n.namedChildren = cs, n'.namedChildren = cs' at hnamed ⊢
  cases hnamed with
  | nil => rfl
  | cons hc _ => simp only [hc.kind_eq, hc.text_eq, splatName_of_alike hc]

theorem parameters_of_grown (h : Grown src src' added n n') :
    parameters src (n.child? "parameters") = parameters src' (n'.child? "parameters") := by
  rcases h.child?_alike (show some "parameters" ∉ statementFields by decide) with
    ⟨hn, hn'⟩ | ⟨c, c', hn, hn', hc⟩
  · rw [hn, hn']
    rfl
  · rw [hn, hn']
    exact (Gains.of_forall₂ (P := fun _ => False) hc.namedChildren).flatten_mapM_eq (fun _ hx => hx.elim)
      fun _ _ _ hd => parameter_of_alike hd

theorem method_of_grown (h : Grown src src' added n n') (decorators : List String) :
    method src scope decorators n = method src' scope decorators n' := by
  have hname : fieldText src n "name" = fieldText src' n' "name" := by
    rw [fieldText, fieldText, h.fieldText?_eq (by decide)]
  unfold method
  rw [parameters_of_grown h, hname, h.fieldText?_eq (by decide)]

/-- Decorators are read off the nodes of this kind only. -/
theorem decoratorNames_eq_of_forall₂ {R : Node → Node → Prop}
    (h : List.Forall₂ R (n.children.filter (·.kind == "decorator")) (n'.children.filter (·.kind == "decorator")))
    (halike : ∀ c c', R c c' → c.kind = "decorator" → Alike src src' c c') :
    decoratorNames src n = decoratorNames src' n' := by
  unfold decoratorNames
  rw [List.filterMap_eq_flatMap_toList, List.filterMap_eq_flatMap_toList]
  refine flatMap_eq_of_forall₂ h fun c hmem c' hcc' => ?_
  have hc : Alike src src' c c' := halike c c' hcc' (by simpa using (List.mem_filter.mp hmem).2)
  rcases head?_cases_of_forall₂ hc.namedChildren with ⟨hn, hn'⟩ | ⟨e, e', hn, hn', he⟩
  · rw [hn, hn']
    rfl
  · rw [hn, hn', Option.map_some, Option.map_some]
    have hcallee : src.text (if e.kind = "call" then (e.child? "function").getD e else e) =
        src'.text (if e'.kind = "call" then (e'.child? "function").getD e' else e') := by
      rw [he.kind_eq]
      split
      · rcases he.child?_cases "function" with ⟨hf, hf'⟩ | ⟨f, f', hf, hf', hff'⟩
        · rw [hf, hf']
          exact he.text_eq
        · rw [hf, hf']
          exact hff'.text_eq
      · exact he.text_eq
    dsimp only
    rw [hcallee]

theorem decoratorNames_of_grown (h : Grown src src' added n n') :
    decoratorNames src n = decoratorNames src' n' := by
  have hdecorators := h.filter_children (p := fun c => c.kind == "decorator")
    (fun x hx => by rcases hx.kind with hk | hk | hk <;> rw [hk] <;> rfl) fun _ _ hc => by rw [hc.kind_eq]
  exact decoratorNames_eq_of_forall₂ hdecorators fun c c' hcc' hkind => hcc'.alike_of_kind (by rw [hkind]; decide)

theorem membersOf_of_inserted {x : Node} (h : Inserted added x) : membersOf src scope owner x = .ok [] := by
  rcases h.kind with hkind | hkind | hkind <;> simp [membersOf, hkind]

theorem membersOf_of_grown (h : Grown src src' added n n') :
    membersOf src scope owner n = membersOf src' scope owner n' := by
  unfold membersOf
  rw [h.kind_eq]
  by_cases hstatement : n.kind = "expression_statement"
  · have halike : Alike src src' n n' := h.alike_of_kind (by rw [hstatement]; decide)
    have hassignments := filter_rel (p := fun c => c.kind == "assignment") (q := fun c => c.kind == "assignment")
      halike.namedChildren fun _ _ hc => by rw [hc.kind_eq]
    rw [if_pos hstatement, if_pos hstatement]
    refine congrArg Except.ok (flatMap_eq_of_forall₂ hassignments fun c _ c' hc => ?_)
    rw [fields_of_alike hc]
  rw [if_neg hstatement, if_neg hstatement, method_of_grown h, decoratorNames_of_grown h]
  rcases h.child?_cases "definition" with ⟨hn, hn'⟩ | ⟨c, c', hn, hn', hc⟩
  · rw [hn, hn']
    rfl
  · rw [hn, hn']
    by_cases hfunction : c.kind = "function_definition"
    · simp [Option.filter, hc.kind_eq, hfunction, method_of_grown hc]
    · simp [Option.filter, hc.kind_eq, hfunction]

theorem declaredMembers_of_grown (h : Grown src src' added n n') (type : TypeDecl) :
    declaredMembers src scope type n = declaredMembers src' scope type n' := by
  unfold declaredMembers
  rcases h.child?_cases "body" with ⟨hn, hn'⟩ | ⟨c, c', hn, hn', hc⟩
  · rw [hn, hn']
  · rw [hn, hn']
    exact hc.children.flatten_mapM_eq (fun x hx => membersOf_of_inserted hx)
      fun _ _ _ hd => membersOf_of_grown hd

end Members

/-! ## Classes -/

section Classes

theorem className?_of_grown (h : Grown src src' added n n') : className? src n = className? src' n' := by
  rw [className?, className?, h.fieldText?_eq (by decide)]

theorem classArguments_of_grown (h : Grown src src' added n n') :
    List.Forall₂ (Alike src src') (classArguments n) (classArguments n') := by
  unfold classArguments
  rcases h.child?_alike (show some "superclasses" ∉ statementFields by decide) with
    ⟨hn, hn'⟩ | ⟨c, c', hn, hn', hc⟩
  · rw [hn, hn']
    exact .nil
  · rw [hn, hn']
    exact hc.namedChildren

theorem bases_of_grown (h : Grown src src' added n n') : bases src n = bases src' n' := by
  have hnames := filter_rel
    (p := fun a => a.kind = "identifier" ∨ a.kind = "attribute" ∨ a.kind = "subscript")
    (q := fun a => a.kind = "identifier" ∨ a.kind = "attribute" ∨ a.kind = "subscript")
    (classArguments_of_grown h) fun _ _ hc => by rw [hc.kind_eq]
  exact map_eq_of_forall₂ hnames fun _ _ hc => by rw [hc.text_eq]

/-- The metaclass is read off the keyword arguments only. -/
theorem metaclass?_eq_of_forall₂ {R : Node → Node → Prop}
    (h : List.Forall₂ R (classArguments n) (classArguments n')) (hkind : ∀ c c', R c c' → c'.kind = c.kind)
    (halike : ∀ c c', R c c' → c.kind = "keyword_argument" → Alike src src' c c') :
    metaclass? src n = metaclass? src' n' := by
  have hgiven := filter_rel
    (p := fun a => a.kind = "keyword_argument" ∧ src.fieldText? a "name" = some "metaclass")
    (q := fun a => a.kind = "keyword_argument" ∧ src'.fieldText? a "name" = some "metaclass") h fun c c' hc => by
      rw [hkind c c' hc]
      by_cases hkeyword : c.kind = "keyword_argument"
      · rw [(halike c c' hc hkeyword).fieldText?_eq]
      · simp [hkeyword]
  unfold metaclass?
  dsimp only
  rcases getLast?_cases_of_forall₂ hgiven with ⟨hn, hn'⟩ | ⟨c, c', hn, hn', hc⟩
  · rw [hn, hn']
    rfl
  · have hkeyword : c.kind = "keyword_argument" :=
      (of_decide_eq_true (List.mem_filter.mp (List.mem_of_getLast? hn)).2).1
    rw [hn, hn']
    exact (halike c c' hc hkeyword).fieldText?_eq "value"

theorem metaclass?_of_grown (h : Grown src src' added n n') : metaclass? src n = metaclass? src' n' :=
  metaclass?_eq_of_forall₂ (classArguments_of_grown h) (fun _ _ hc => hc.kind_eq) fun _ _ hc _ => hc

/-- The same declaration with import statements put in. -/
abbrev GrownDeclaration (src src' : Source) (added : Node → Prop) : Declaration → Declaration → Prop :=
  Declaration.Related (Grown src src' added)

theorem header_of_grown {d d' : Declaration} (h : GrownDeclaration src src' added d d') (scope : Scope)
    (outer : Option String) : header src scope outer d = header src' scope outer d' := by
  obtain ⟨hnode, -⟩ := h
  simp only [header, bases_of_grown hnode, metaclass?_of_grown hnode]

theorem classAt?_of_grown (h : Grown src src' added n n') :
    (classAt? src n = none ∧ classAt? src' n' = none) ∨
      ∃ c c' decorators, classAt? src n = some (c, decorators) ∧ classAt? src' n' = some (c', decorators) ∧
        Grown src src' added c c' := by
  unfold classAt?
  rw [h.kind_eq]
  by_cases hclass : n.kind = "class_definition"
  · rw [if_pos hclass, if_pos hclass]
    exact .inr ⟨n, n', [], rfl, rfl, h⟩
  rw [if_neg hclass, if_neg hclass]
  by_cases hdecorated : n.kind = "decorated_definition"
  · rw [if_pos hdecorated, if_pos hdecorated, decoratorNames_of_grown h]
    rcases h.child?_cases "definition" with ⟨hn, hn'⟩ | ⟨c, c', hn, hn', hc⟩
    · rw [hn, hn']
      exact .inl ⟨rfl, rfl⟩
    · rw [hn, hn']
      by_cases hkind : c.kind = "class_definition"
      · exact .inr ⟨c, c', decoratorNames src' n', by simp [Option.filter, hkind],
          by simp [Option.filter, hc.kind_eq, hkind], hc⟩
      · exact .inl ⟨by simp [Option.filter, hkind], by simp [Option.filter, hc.kind_eq, hkind]⟩
  · rw [if_neg hdecorated, if_neg hdecorated]
    exact .inl ⟨rfl, rfl⟩

theorem declarationsAt_of_inserted {x : Node} (h : Inserted added x) : declarationsAt src x = [] := by
  rcases h.kind with hkind | hkind | hkind <;> simp [declarationsAt, classAt?, isTransparent, hkind]

/-- A block declares the same classes. -/
theorem classesIn_of_grown {block block' : Node} (h : Grown src src' added block block') :
    List.Forall₂ (GrownDeclaration src src' added) (classesIn src block) (classesIn src' block') := by
  rw [classesIn_eq, classesIn_eq]
  refine h.children.forall₂_flatMap (fun x hx => declarationsAt_of_inserted hx) fun n hn n' hnn' => ?_
  have hlt := sizeOf_lt_of_mem_children hn
  unfold declarationsAt
  rcases classAt?_of_grown hnn' with ⟨hnone, hnone'⟩ | ⟨c, c', decorators, hc, hc', hcc'⟩
  · rw [hnone, hnone']
    dsimp only
    rw [isTransparent, isTransparent, hnn'.kind_eq]
    split
    · exact classesIn_of_grown hnn'
    · exact .nil
  · have hle := sizeOf_classAt? hc
    have hnested : List.Forall₂ (GrownDeclaration src src' added) (nestedIn src c) (nestedIn src' c') := by
      unfold nestedIn
      rcases hcc'.child?_cases "body" with ⟨hb, hb'⟩ | ⟨b, b', hb, hb', hbb'⟩
      · rw [hb, hb']
        exact .nil
      · rw [hb, hb']
        have hbody := sizeOf_lt_of_mem_children (mem_of_child? hb)
        exact classesIn_of_grown hbb'
    rw [hc, hc']
    dsimp only
    rw [className?_of_grown hcc']
    cases className? src' c' with
    | none => exact .nil
    | some name => exact .cons (.mk hcc' hnested) .nil
termination_by sizeOf block

theorem find_of_grown {d d' : Declaration} (h : GrownDeclaration src src' added d d') (scope : Scope)
    (outer : Option String) : find src scope outer d = find src' scope outer d' := by
  unfold find
  rw [header_of_grown h]
  cases TypeDecl.make (header src' scope outer d') with
  | error v => rfl
  | ok type =>
    dsimp only
    rw [declaredMembers_of_grown h.node]

mutual

theorem collect_of_grown : ∀ {d d' : Declaration}, GrownDeclaration src src' added d d' →
    ∀ (scope : Scope) (outer : Option String), collect src scope outer d = collect src' scope outer d'
  | ⟨_, _, _, _⟩, ⟨_, _, _, _⟩, .mk hnode hnested, scope, outer => by
    rw [collect, collect, find_of_grown (.mk hnode hnested), collectAll_of_grown hnested]

/-- The same classes are emitted. -/
theorem collectAll_of_grown : ∀ {ds ds' : List Declaration},
    List.Forall₂ (GrownDeclaration src src' added) ds ds' →
    ∀ (scope : Scope) (outer : Option String), collectAll src scope outer ds = collectAll src' scope outer ds'
  | [], _, .nil, _, _ => rfl
  | _ :: _, _, .cons hd hds, scope, outer => by
    rw [collectAll, collectAll, collect_of_grown hd, collectAll_of_grown hds]

end

end Classes

/-- The classes of a file with import statements put in are those of before, looked up in the scope of the file. -/
theorem found_of_grown {root root' : Node} (h : Grown src src' added root root') (module : String) :
    (found src' module root').result = (places src root).mapM (foundAt src (fileScope src' module root')) := by
  rw [found, declarations, ← collectAll_of_grown (classesIn_of_grown h)]
  exact result_collectAll src _ _ none

end SourceOutline.Python
