import SourceOutline.Proofs.Java.Walk

/-!
# What is read outside of bodies of types

Of the body of a type, only what stands directly in it is looked at, and only as the body of its declaration.
All else that is read off a node does not depend on bodies of types at any depth below it.

* `shell`: the same tree with nothing in bodies of types.
* `child?_shell`, `childOfKind?_shell`, `fieldText?_shell`: what is picked from a shell.
* `typeVariables_shell`, `membersOf_shell` and others: what is read off a shell is read off the whole node.
* `imports_eq_of_shells`, `hasConstantBodies_eq_of_shells`, `members_eq_of_shells`: files and types whose parts
  have the same shells.
-/

namespace SourceOutline.Java

open Node

/-! ## Shells -/

section Shells

/-- The kinds of the bodies of types. -/
def typeBodyKinds : List String :=
  ["class_body", "interface_body", "enum_body", "annotation_type_body"]

/-- The node is the body of a type. -/
def IsTypeBody (n : Node) : Prop :=
  n.field = some "body" ∧ n.kind ∈ typeBodyKinds

instance (n : Node) : Decidable (IsTypeBody n) :=
  inferInstanceAs (Decidable (_ ∧ _))

mutual

/-- The same tree with nothing in bodies of types. -/
def shell : Node → Node
  | ⟨kind, start, stop, field, named, missing, flagged, children⟩ =>
    ⟨kind, start, stop, field, named, missing, flagged,
      if field = some "body" ∧ kind ∈ typeBodyKinds then [] else shells children⟩

/-- The shells of nodes. -/
def shells : List Node → List Node
  | [] => []
  | n :: ns => shell n :: shells ns

end

theorem shells_eq_map (ns : List Node) : shells ns = ns.map shell := by
  induction ns with
  | nil => rfl
  | cons n ns ih => rw [shells, ih, List.map_cons]

theorem shell_eq (n : Node) :
    shell n = { n with children := if IsTypeBody n then [] else n.children.map shell } := by
  rw [← shells_eq_map]
  cases n
  rfl

@[simp] theorem kind_shell (n : Node) : (shell n).kind = n.kind := by
  rw [shell_eq]

@[simp] theorem field_shell (n : Node) : (shell n).field = n.field := by
  rw [shell_eq]

@[simp] theorem named_shell (n : Node) : (shell n).named = n.named := by
  rw [shell_eq]

@[simp] theorem text_shell (src : Source) (n : Node) : src.text (shell n) = src.text n := by
  rw [shell_eq]
  rfl

theorem isTypeBody_shell (n : Node) : IsTypeBody (shell n) ↔ IsTypeBody n := by
  rw [IsTypeBody, field_shell, kind_shell]
  rfl

variable {n n' c : Node}

theorem kind_eq_of_shell (h : shell n = shell n') : n.kind = n'.kind := by
  simpa using congrArg Node.kind h

theorem field_eq_of_shell (h : shell n = shell n') : n.field = n'.field := by
  simpa using congrArg Node.field h

theorem isTypeBody_iff_of_shell (h : shell n = shell n') : IsTypeBody n ↔ IsTypeBody n' := by
  rw [← isTypeBody_shell n, h, isTypeBody_shell]

theorem children_shell (hn : ¬ IsTypeBody n) : (shell n).children = n.children.map shell := by
  rw [shell_eq, if_neg hn]

/-- Bodies of types have the same shell if they differ in their children only. -/
theorem shell_eq_of_isTypeBody {cs : List Node} (hn : IsTypeBody n) :
    shell { n with children := cs } = shell n := by
  have hn' : IsTypeBody { n with children := cs } := hn
  rw [shell_eq, shell_eq n, if_pos hn, if_pos hn']

theorem not_isTypeBody_of_kind (h : n.kind ∉ typeBodyKinds) : ¬ IsTypeBody n :=
  fun hn => h hn.2

/-! ### What is picked -/

theorem child?_shell (hn : ¬ IsTypeBody n) (field : String) :
    (shell n).child? field = (n.child? field).map shell := by
  rw [child?, children_shell hn, List.find?_map]
  simp only [Function.comp_def, field_shell]
  rfl

theorem childOfKind?_shell (hn : ¬ IsTypeBody n) (kind : String) :
    (shell n).childOfKind? kind = (n.childOfKind? kind).map shell := by
  rw [childOfKind?, children_shell hn, List.find?_map]
  simp only [Function.comp_def, kind_shell]
  rfl

theorem childrenBy_shell (hn : ¬ IsTypeBody n) (field : String) :
    (shell n).childrenBy field = (n.childrenBy field).map shell := by
  rw [childrenBy, children_shell hn, List.filter_map]
  simp only [Function.comp_def, field_shell]
  rfl

theorem namedChildren_shell (hn : ¬ IsTypeBody n) : (shell n).namedChildren = n.namedChildren.map shell := by
  rw [namedChildren, children_shell hn, List.filter_map]
  simp only [Function.comp_def, named_shell]
  rfl

theorem fieldText?_shell (src : Source) (hn : ¬ IsTypeBody n) (field : String) :
    src.fieldText? (shell n) field = src.fieldText? n field := by
  rw [Source.fieldText?, child?_shell hn, Option.map_map]
  simp only [Function.comp_def, text_shell]
  rfl

theorem not_isTypeBody_of_child? {field : String} (h : n.child? field = some c) (hfield : field ≠ "body") :
    ¬ IsTypeBody c := by
  rintro ⟨hc, -⟩
  have hpicked : c.field = some field := by simpa using List.find?_some h
  exact hfield (Option.some.inj (hpicked.symm.trans hc))

theorem not_isTypeBody_of_childOfKind? {kind : String} (h : n.childOfKind? kind = some c)
    (hkind : kind ∉ typeBodyKinds) : ¬ IsTypeBody c := by
  have hpicked : c.kind = kind := by simpa using List.find?_some h
  exact not_isTypeBody_of_kind (hpicked ▸ hkind)

end Shells

/-! ## What is read off one node -/

section Readers

variable {src : Source} {scope : Scope} {n : Node}

theorem declaredKind?_shell (n : Node) : declaredKind? (shell n) = declaredKind? n := by
  rw [declaredKind?, declaredKind?, kind_shell]

theorem isRecord_shell (n : Node) : isRecord (shell n) = isRecord n := by
  rw [isRecord, isRecord, kind_shell]

/-- A declaration is no body. -/
theorem not_isTypeBody_of_declaredKind? (h : (declaredKind? n).isSome) : ¬ IsTypeBody n := by
  refine not_isTypeBody_of_kind fun hkind => ?_
  simp only [typeBodyKinds, List.mem_cons, List.not_mem_nil, or_false] at hkind
  rcases hkind with hkind | hkind | hkind | hkind <;> simp [declaredKind?, hkind] at h

theorem declaredName?_shell (hn : ¬ IsTypeBody n) : declaredName? src (shell n) = declaredName? src n := by
  rw [declaredName?, declaredName?, fieldText?_shell src hn]

theorem modifierWords_shell (hn : ¬ IsTypeBody n) : modifierWords (shell n) = modifierWords n := by
  unfold modifierWords
  rw [childOfKind?_shell hn]
  cases hmods : n.childOfKind? "modifiers" with
  | none => rfl
  | some mods =>
    have hm : ¬ IsTypeBody mods := not_isTypeBody_of_childOfKind? hmods (by decide)
    have hkinds : (shell mods).children.map Node.kind = mods.children.map Node.kind := by
      rw [children_shell hm, List.map_map]
      simp only [Function.comp_def, kind_shell]
    simp only [Option.map_some, hkinds]

theorem modifiers_shell (hn : ¬ IsTypeBody n) (implied : List String) :
    modifiers (shell n) implied = modifiers n implied := by
  rw [modifiers, modifiers, modifierWords_shell hn]

theorem typeParameterName?_shell (n : Node) : typeParameterName? src (shell n) = typeParameterName? src n := by
  unfold typeParameterName?
  rw [kind_shell]
  by_cases hkind : n.kind = "type_parameter"
  · have hn : ¬ IsTypeBody n := not_isTypeBody_of_kind (by rw [hkind]; decide)
    rw [if_pos hkind, if_pos hkind, namedChildren_shell hn, List.find?_map, Option.map_map]
    simp only [Function.comp_def, kind_shell, text_shell]
  · rw [if_neg hkind, if_neg hkind]

theorem typeVariables_shell (hn : ¬ IsTypeBody n) : typeVariables src (shell n) = typeVariables src n := by
  have hnames : ∀ {ps : Node}, ¬ IsTypeBody ps →
      (shell ps).namedChildren.filterMap (typeParameterName? src) =
        ps.namedChildren.filterMap (typeParameterName? src) := by
    intro ps hps
    rw [namedChildren_shell hps, List.filterMap_map]
    exact List.filterMap_congr fun p _ => typeParameterName?_shell p
  unfold typeVariables
  rw [child?_shell hn, childOfKind?_shell hn]
  cases hfield : n.child? "type_parameters" with
  | some ps => exact hnames (not_isTypeBody_of_child? hfield (by decide))
  | none =>
    cases hkind : n.childOfKind? "type_parameters" with
    | some ps => exact hnames (not_isTypeBody_of_childOfKind? hkind (by decide))
    | none => rfl

theorem inside_shell (hn : ¬ IsTypeBody n) (scope : Scope) : inside src (shell n) scope = inside src n scope := by
  rw [inside, inside, typeVariables_shell hn]

theorem dimensions_shell (hn : ¬ IsTypeBody n) : dimensions src (shell n) = dimensions src n := by
  rw [dimensions, dimensions, fieldText?_shell src hn]

/-! ### Supertypes -/

theorem superClasses_shell (hn : ¬ IsTypeBody n) :
    superClasses src scope (shell n) = superClasses src scope n := by
  unfold superClasses
  rw [childOfKind?_shell hn]
  cases hclause : n.childOfKind? "superclass" with
  | none => rfl
  | some c =>
    have hc : ¬ IsTypeBody c := not_isTypeBody_of_childOfKind? hclause (by decide)
    rw [Option.map_some, Option.bind_some, Option.bind_some, namedChildren_shell hc, List.head?_map]
    cases c.namedChildren.head? with
    | none => rfl
    | some type => simp only [Option.map_some, text_shell]

theorem clauseTypes_shell (hn : ¬ IsTypeBody n) {clause : String} (hclause : clause ∉ typeBodyKinds) :
    clauseTypes src scope (shell n) clause = clauseTypes src scope n clause := by
  unfold clauseTypes
  rw [childOfKind?_shell hn]
  cases hpicked : n.childOfKind? clause with
  | none => rfl
  | some c =>
    have hc : ¬ IsTypeBody c := not_isTypeBody_of_childOfKind? hpicked hclause
    simp only [Option.map_some, namedChildren_shell hc, List.filter_map, List.flatMap_map, Function.comp_def,
      kind_shell]
    refine List.flatMap_congr fun list hlist => ?_
    have hkind : list.kind = "type_list" := by simpa using (List.mem_filter.mp hlist).2
    rw [namedChildren_shell (not_isTypeBody_of_kind (by rw [hkind]; decide)), List.map_map]
    simp only [Function.comp_def, text_shell]

theorem interfaces_shell (hn : ¬ IsTypeBody n) : interfaces src scope (shell n) = interfaces src scope n := by
  rw [interfaces, interfaces, clauseTypes_shell hn (by decide), clauseTypes_shell hn (by decide)]

/-! ### Parameters -/

theorem formalParameter?_shell (hn : ¬ IsTypeBody n) :
    formalParameter? src scope (shell n) = formalParameter? src scope n := by
  unfold formalParameter?
  rw [fieldText?_shell src hn, child?_shell hn, dimensions_shell hn]
  cases (src.fieldText? n "name").filter (· ≠ "") with
  | none => rfl
  | some name => cases n.child? "type" <;> simp only [Option.map_none, Option.map_some, text_shell]

theorem spreadParameter?_shell (hn : ¬ IsTypeBody n) :
    spreadParameter? src scope (shell n) = spreadParameter? src scope n := by
  have hname : ((n.namedChildren.filter (·.kind = "variable_declarator")).map shell).getLast?.bind
      (fun d => src.fieldText? d "name") =
        (n.namedChildren.filter (·.kind = "variable_declarator")).getLast?.bind
          fun d => src.fieldText? d "name" := by
    rw [List.getLast?_map]
    cases hlast : (n.namedChildren.filter (·.kind = "variable_declarator")).getLast? with
    | none => rfl
    | some d =>
      have hkind : d.kind = "variable_declarator" := by
        simpa using (List.mem_filter.mp (List.mem_of_getLast? hlast)).2
      exact fieldText?_shell src (not_isTypeBody_of_kind (by rw [hkind]; decide)) "name"
  unfold spreadParameter?
  simp only [namedChildren_shell hn, List.filter_map, Function.comp_def, kind_shell, hname, List.head?_map,
    Option.map_map, text_shell]

theorem parameter?_shell (n : Node) : parameter? src scope (shell n) = parameter? src scope n := by
  unfold parameter?
  rw [kind_shell]
  by_cases hformal : n.kind = "formal_parameter"
  · rw [if_pos hformal, if_pos hformal]
    exact formalParameter?_shell (not_isTypeBody_of_kind (by rw [hformal]; decide))
  rw [if_neg hformal, if_neg hformal]
  by_cases hspread : n.kind = "spread_parameter"
  · rw [if_pos hspread, if_pos hspread]
    exact spreadParameter?_shell (not_isTypeBody_of_kind (by rw [hspread]; decide))
  · rw [if_neg hspread, if_neg hspread]

theorem parameters_shell (hn : ¬ IsTypeBody n) : parameters src scope (shell n) = parameters src scope n := by
  unfold parameters
  rw [child?_shell hn]
  cases hps : n.child? "parameters" with
  | none => rfl
  | some ps =>
    simp only [Option.map_some, namedChildren_shell (not_isTypeBody_of_child? hps (by decide)), List.filterMap_map]
    exact List.filterMap_congr fun p _ => parameter?_shell p

/-! ### Members -/

theorem fields_shell (hn : ¬ IsTypeBody n) (implied : List String) :
    fields src scope implied (shell n) = fields src scope implied n := by
  unfold fields
  rw [child?_shell hn, modifiers_shell hn, childrenBy_shell hn]
  cases n.child? "type" with
  | none => rfl
  | some type =>
    simp only [Option.map_some, text_shell, List.filterMap_map]
    refine List.filterMap_congr fun d hd => ?_
    have hfield : d.field = some "declarator" := by simpa using (List.mem_filter.mp hd).2
    have hd : ¬ IsTypeBody d := fun hbody => by simp [IsTypeBody, hfield] at hbody
    simp only [Function.comp_def, fieldText?_shell src hd, dimensions_shell hd]

theorem methodImplied_shell (hn : ¬ IsTypeBody n) (inInterface : Bool) :
    methodImplied inInterface (shell n) = methodImplied inInterface n := by
  unfold methodImplied
  rw [modifierWords_shell hn, child?_shell hn, Option.isNone_map]

theorem method_shell (hn : ¬ IsTypeBody n) (inInterface : Bool) :
    method src scope inInterface (shell n) = method src scope inInterface n := by
  unfold method
  rw [fieldText?_shell src hn, methodImplied_shell hn, modifiers_shell hn, dimensions_shell hn,
    parameters_shell hn, child?_shell hn]
  cases n.child? "type" <;> simp only [Option.map_none, Option.map_some, text_shell]

theorem element?_shell (hn : ¬ IsTypeBody n) : element? src scope (shell n) = element? src scope n := by
  unfold element?
  rw [declaredName?_shell hn, child?_shell hn, modifiers_shell hn]
  cases declaredName? src n with
  | none => rfl
  | some name => cases n.child? "type" <;> simp only [Option.map_none, Option.map_some, text_shell]

/-- The members that a node declares do not depend on bodies of types below it. -/
theorem membersOf_shell (owner : TypeDecl) (n : Node) :
    membersOf src scope owner (shell n) = membersOf src scope owner n := by
  by_cases hn : IsTypeBody n
  · -- a body declares no member itself
    have hkind := hn.2
    simp only [typeBodyKinds, List.mem_cons, List.not_mem_nil, or_false] at hkind
    unfold membersOf
    rw [kind_shell]
    rcases hkind with hkind | hkind | hkind | hkind <;> simp [hkind]
  · unfold membersOf constructor constant?
    simp only [kind_shell, fields_shell hn, inside_shell hn, method_shell hn, declaredName?_shell hn,
      modifiers_shell hn, parameters_shell hn, element?_shell hn]

theorem components_shell (hn : ¬ IsTypeBody n) : components src scope (shell n) = components src scope n := by
  rw [components, components, parameters_shell hn]

end Readers

/-! ## Parts with the same shells -/

section Parts

variable {src : Source} {scope : Scope} {n n' root root' : Node}

theorem names_shell (hn : ¬ IsTypeBody n) :
    (shell n).children.filter isName = (n.children.filter isName).map shell := by
  rw [children_shell hn, List.filter_map]
  congr 2
  funext c
  simp only [Function.comp_def, isName, kind_shell]

theorem importValue?_shell (hn : ¬ IsTypeBody n) : importValue? src (shell n) = importValue? src n := by
  unfold importValue?
  rw [names_shell hn, List.getLast?_map, children_shell hn, List.any_map]
  cases (n.children.filter isName).getLast? with
  | none => rfl
  | some name => simp only [Option.map_some, text_shell, Function.comp_def, kind_shell]

theorem imports_eq_of_shells (h : root.children.map shell = root'.children.map shell) :
    imports src root = imports src root' := by
  have himports : ∀ cs : List Node,
      ((cs.map shell).filter (·.kind == "import_declaration")).filterMap
        (fun n => (importValue? src n).map Import.mk) =
      (cs.filter (·.kind == "import_declaration")).filterMap fun n => (importValue? src n).map Import.mk := by
    intro cs
    simp only [List.filter_map, List.filterMap_map, Function.comp_def, kind_shell]
    refine List.filterMap_congr fun n hn => ?_
    have hkind : n.kind = "import_declaration" := by simpa using (List.mem_filter.mp hn).2
    rw [importValue?_shell (not_isTypeBody_of_kind (by rw [hkind]; decide))]
  rw [imports, imports, ← himports, h, himports]

theorem packageName_eq_of_shells (h : root.children.map shell = root'.children.map shell) :
    packageName src root = packageName src root' := by
  have hnames : ∀ cs : List Node,
      ((cs.map shell).filter (·.kind == "package_declaration")).flatMap (fun n => n.children.filter isName) =
      ((cs.filter (·.kind == "package_declaration")).flatMap fun n => n.children.filter isName).map shell := by
    intro cs
    simp only [List.filter_map, List.flatMap_map, List.map_flatMap, Function.comp_def, kind_shell]
    refine List.flatMap_congr fun n hn => ?_
    have hkind : n.kind = "package_declaration" := by simpa using (List.mem_filter.mp hn).2
    exact names_shell (not_isTypeBody_of_kind (by rw [hkind]; decide))
  have htext : ∀ names : List Node, (names.map shell).head?.map src.text = names.head?.map src.text := by
    intro names
    rw [List.head?_map, Option.map_map]
    simp only [Function.comp_def, text_shell]
  unfold packageName
  dsimp only
  rw [← htext, ← hnames, h, hnames, htext]

theorem hasConstantBodies_eq_of_shells (h : (bodyMembers n).map shell = (bodyMembers n').map shell) :
    hasConstantBodies n = hasConstantBodies n' := by
  have hbodies : ∀ cs : List Node,
      (cs.map shell).any (fun m => m.kind == "enum_constant" && (m.child? "body").isSome) =
        cs.any fun m => m.kind == "enum_constant" && (m.child? "body").isSome := by
    intro cs
    rw [List.any_map]
    refine congrArg cs.any (funext fun m => ?_)
    rw [Function.comp_apply, kind_shell]
    by_cases hkind : m.kind = "enum_constant"
    · rw [child?_shell (not_isTypeBody_of_kind (by rw [hkind]; decide)), Option.isSome_map]
    · rw [beq_false_of_ne hkind, Bool.false_and, Bool.false_and]
  rw [hasConstantBodies, hasConstantBodies, ← hbodies, h, hbodies]

theorem members_eq_of_shells (hn : ¬ IsTypeBody n) (h : shell n = shell n')
    (hbody : (bodyMembers n).map shell = (bodyMembers n').map shell) (type : TypeDecl) :
    members src scope type n = members src scope type n' := by
  have hn' : ¬ IsTypeBody n' := fun h' => hn ((isTypeBody_iff_of_shell h).mpr h')
  have hmembers : ∀ (owner : TypeDecl) (cs : List Node),
      (cs.map shell).flatMap (membersOf src scope owner) = cs.flatMap (membersOf src scope owner) := by
    intro owner cs
    rw [List.flatMap_map]
    exact List.flatMap_congr fun m _ => membersOf_shell owner m
  unfold members
  dsimp only
  rw [← isRecord_shell n, ← components_shell hn, ← hmembers, h, hbody, isRecord_shell, components_shell hn',
    hmembers]

end Parts

end SourceOutline.Java
