import SourceOutline.Proofs.Extract.Declared
import SourceOutline.Proofs.Java.Walk
import SourceOutline.Proofs.Syntax.Comments

/-!
# Comments in Java files

Nearly everything that is read off a Java tree is picked by field name or kind, so comments are passed
over.  Three things are picked by their places instead: the type of a `superclass`, the types of a
`type_list`, and the type of a `spread_parameter`.  A comment before or among these is taken for a type.

* `harmlessAfter`: the children after which comments do no harm.
* `imports_of_commented`, `members_of_commented`, `declarations_of_commented`: imports, the members of a
  type and the declarations of a file are the same with comments in harmless places.
* `details_of_commented`: so are the types of a file.
-/

namespace SourceOutline.Java

open Node

/-- Comments after this child of a node of this kind do no harm. -/
def harmlessAfter (kind : String) (c : Node) : Bool :=
  if kind = "superclass" then c.named
  else if kind = "type_list" then false
  else if kind = "spread_parameter" then
    c.named && c.kind ≠ "variable_declarator" && c.kind ≠ "modifiers"
  else true

variable {src : Source} {n n' : Node}

/-! ## Imports -/

section Imports

variable {opens : String → Node → Bool}

theorem isName_of_isComment {x : Node} (h : IsComment x) : isName x = false := by
  rw [isName, beq_false_of_ne (h.kind_ne _ (by decide)), beq_false_of_ne (h.kind_ne _ (by decide))]
  rfl

theorem names_of_commented (h : Commented opens n n') :
    List.Forall₂ (Commented opens) (n.children.filter isName) (n'.children.filter isName) :=
  h.filter_children (fun _ hx => isName_of_isComment hx) fun _ _ hc => by rw [isName, isName, hc.kind_eq]

theorem importValue?_of_commented (h : Commented opens n n') : importValue? src n = importValue? src n' := by
  have hstar : n.children.any (·.kind == "asterisk") = n'.children.any (·.kind == "asterisk") :=
    h.padded.gains.any_eq (fun _ hx => beq_false_of_ne (hx.kind_ne _ (by decide))) fun _ _ _ hc => by
      rw [hc.kind_eq]
  unfold importValue?
  rcases getLast?_cases_of_forall₂ (names_of_commented h) with ⟨hn, hn'⟩ | ⟨c, c', hn, hn', hc⟩
  · rw [hn, hn']
  · simp only [hn, hn', hstar, hc.text_eq]

theorem imports_of_commented (h : Commented opens n n') : imports src n = imports src n' := by
  have hdeclarations := h.filter_children (p := fun c => c.kind == "import_declaration")
    (fun _ hx => beq_false_of_ne (hx.kind_ne _ (by decide))) fun _ _ hc => by rw [hc.kind_eq]
  exact filterMap_eq_of_forall₂ hdeclarations fun _ _ hc => by rw [importValue?_of_commented hc]

theorem packageName_of_commented (h : Commented opens n n') : packageName src n = packageName src n' := by
  have hdeclarations := h.filter_children (p := fun c => c.kind == "package_declaration")
    (fun _ hx => beq_false_of_ne (hx.kind_ne _ (by decide))) fun _ _ hc => by rw [hc.kind_eq]
  have hnames := List.rel_flatMap hdeclarations fun _ _ hc => names_of_commented hc
  unfold packageName
  rcases head?_cases_of_forall₂ hnames with ⟨hn, hn'⟩ | ⟨c, c', hn, hn', hc⟩
  · exact congrArg (fun o => (Option.map src.text o).getD "") (hn.trans hn'.symm)
  · show (Option.map src.text (List.head? _)).getD "" = (Option.map src.text (List.head? _)).getD ""
    rw [hn, hn', Option.map_some, Option.map_some, hc.text_eq]

end Imports

/-! ## Declarations and their bodies -/

section Bodies

variable {opens : String → Node → Bool}

theorem declaredKind?_of_commented (h : Commented opens n n') : declaredKind? n = declaredKind? n' := by
  rw [declaredKind?, declaredKind?, h.kind_eq]

theorem isRecord_of_commented (h : Commented opens n n') : isRecord n = isRecord n' := by
  rw [isRecord, isRecord, h.kind_eq]

theorem declaredName?_of_commented (h : Commented opens n n') : declaredName? src n = declaredName? src n' := by
  rw [declaredName?, declaredName?, h.fieldText?_eq]

/-- The members of a body with comments are those without them, with comments among them. -/
theorem bodyMembers_padded (h : Commented opens n n') :
    Padded (Commented opens) Gate.open (bodyMembers n) (bodyMembers n') := by
  have hlevel : ∀ {g : Gate} {cs cs' : List Node}, Padded (Commented opens) g cs cs' →
      Padded (Commented opens) Gate.open
        (cs.flatMap fun c => if c.kind = "enum_body_declarations" then c.children else [c])
        (cs'.flatMap fun c => if c.kind = "enum_body_declarations" then c.children else [c]) := by
    intro g cs cs' hcs
    induction hcs with
    | nil => exact .nil
    | @cons _ c c' _ _ hc _ ih =>
      rw [List.flatMap_cons, List.flatMap_cons, hc.kind_eq]
      refine Padded.append ?_ ih rfl
      split
      · exact hc.padded.mono rfl
      · exact .cons hc .nil
    | @comment _ x _ _ _ hx _ ih =>
      rw [List.flatMap_cons, if_neg (hx.kind_ne _ (by decide))]
      exact .comment rfl hx ih
  unfold bodyMembers
  rcases h.child?_cases "body" with ⟨hn, hn'⟩ | ⟨c, c', hn, hn', hc⟩
  · rw [hn, hn']
    exact .nil
  · rw [hn, hn']
    exact hlevel hc.padded

theorem hasConstantBodies_of_commented (h : Commented opens n n') :
    hasConstantBodies n = hasConstantBodies n' := by
  refine (bodyMembers_padded h).gains.any_eq (fun x hx => ?_) fun c _ c' hc => ?_
  · rw [beq_false_of_ne (hx.kind_ne _ (by decide)), Bool.false_and]
  · rw [hc.kind_eq, hc.isSome_child?_eq "body"]

/-! ## Modifiers -/

/-- Comments among the modifiers add words of their own only. -/
theorem mem_modifierWords_of_commented (h : Commented opens n n') {w : String}
    (hw : w ∉ ["line_comment", "block_comment"]) : w ∈ modifierWords n ↔ w ∈ modifierWords n' := by
  unfold modifierWords
  rcases h.childOfKind?_cases "modifiers" (by decide) with ⟨hn, hn'⟩ | ⟨c, c', hn, hn', hc⟩
  · rw [hn, hn']
  · have hany : c.children.any (·.kind == w) = c'.children.any (·.kind == w) :=
      hc.padded.gains.any_eq (fun _ hx => beq_false_of_ne (hx.kind_ne w hw)) fun _ _ _ hd => by rw [hd.kind_eq]
    have hmem : w ∈ c.children.map Node.kind ↔ w ∈ c'.children.map Node.kind := by
      rw [Bool.eq_iff_iff] at hany
      simpa [List.mem_map] using hany
    simp only [hn, hn', List.mem_filter, hmem]

theorem modifiersOf_congr {ws ws' : List String}
    (h : ∀ w, w ∉ ["line_comment", "block_comment"] → (w ∈ ws ↔ w ∈ ws')) :
    modifiersOf ws = modifiersOf ws' := by
  unfold modifiersOf
  simp only [h "static" (by decide), h "final" (by decide), h "abstract" (by decide),
    h "private" (by decide), h "protected" (by decide), h "public" (by decide)]

theorem modifiers_of_commented (h : Commented opens n n') (implied : List String) :
    modifiers n implied = modifiers n' implied :=
  modifiersOf_congr fun w hw => by
    rw [List.mem_append, List.mem_append, mem_modifierWords_of_commented h hw]

theorem methodImplied_of_commented (h : Commented opens n n') (inInterface : Bool) :
    methodImplied inInterface n = methodImplied inInterface n' := by
  have hbody : (n.child? "body").isNone = (n'.child? "body").isNone := by
    rw [← Option.not_isSome, ← Option.not_isSome, h.isSome_child?_eq "body"]
  have hstatic := mem_modifierWords_of_commented h (w := "static") (by decide)
  have hprivate := mem_modifierWords_of_commented h (w := "private") (by decide)
  unfold methodImplied
  simp only [hbody, hstatic, hprivate]

/-! ## Type variables -/

theorem typeParameterName?_of_commented (h : Commented opens n n') :
    typeParameterName? src n = typeParameterName? src n' := by
  have hname : ∀ cs : List Node, (cs.filter Node.named).find?
      (fun c => c.kind = "type_identifier" ∨ c.kind = "identifier") =
        cs.find? fun c => c.named && (c.kind = "type_identifier" ∨ c.kind = "identifier") := by
    intro cs
    rw [List.find?_filter]
    simp
  unfold typeParameterName? namedChildren
  rw [h.kind_eq, hname, hname]
  rcases h.find?_children (p := fun c => c.named && (c.kind = "type_identifier" ∨ c.kind = "identifier"))
      (fun x hx => by simp [hx.kind_ne "type_identifier" (by decide),
        hx.kind_ne "identifier" (by decide)])
      (fun _ _ hc => by rw [hc.kind_eq, hc.named_eq]) with ⟨hn, hn'⟩ | ⟨c, c', hn, hn', hc⟩
  · rw [hn, hn']
  · rw [hn, hn', Option.map_some, Option.map_some, hc.text_eq]

theorem typeVariables_of_commented (h : Commented opens n n') : typeVariables src n = typeVariables src n' := by
  have hnames : ∀ {ps ps' : Node}, Commented opens ps ps' →
      ps.namedChildren.filterMap (typeParameterName? src) =
        ps'.namedChildren.filterMap (typeParameterName? src) := by
    intro ps ps' hps
    refine hps.filterMap_namedChildren_eq (fun x hx => ?_) fun _ _ hc => typeParameterName?_of_commented hc
    rw [typeParameterName?, if_neg (hx.kind_ne _ (by decide))]
  unfold typeVariables
  rcases h.child?_cases "type_parameters" with ⟨hn, hn'⟩ | ⟨c, c', hn, hn', hc⟩
  · rw [hn, hn', Option.none_or, Option.none_or]
    rcases h.childOfKind?_cases "type_parameters" (by decide) with
      ⟨hn, hn'⟩ | ⟨c, c', hn, hn', hc⟩
    · rw [hn, hn']
    · rw [hn, hn']
      exact hnames hc
  · rw [hn, hn', Option.some_or, Option.some_or]
    exact hnames hc

theorem inside_of_commented (h : Commented opens n n') (scope : Scope) :
    inside src n scope = inside src n' scope := by
  rw [inside, inside, typeVariables_of_commented h]

theorem dimensions_of_commented (h : Commented opens n n') : dimensions src n = dimensions src n' := by
  rw [dimensions, dimensions, h.fieldText?_eq]

end Bodies

/-! ## What is picked by its place -/

section Places

variable {scope : Scope}

theorem superClasses_of_commented (h : Commented harmlessAfter n n') :
    superClasses src scope n = superClasses src scope n' := by
  unfold superClasses
  rcases h.childOfKind?_cases "superclass" (by decide) with ⟨hn, hn'⟩ | ⟨c, c', hn, hn', hc⟩
  · rw [hn, hn']
  · have hkind : c.kind = "superclass" := by simpa using List.find?_some hn
    have hfirst := hc.padded.find?_cases (p := Node.named) rfl
      (fun d hd => by simpa [harmlessAfter, hkind] using hd) fun _ _ hd => hd.named_eq.symm
    rw [hn, hn', Option.bind_some, Option.bind_some, namedChildren, namedChildren, List.head?_filter,
      List.head?_filter]
    rcases hfirst with ⟨hd, hd'⟩ | ⟨d, d', hd, hd', hdd⟩
    · rw [hd, hd']
    · simp only [hd, hd', hdd.text_eq]

theorem clauseTypes_of_commented (h : Commented harmlessAfter n n') {clause : String}
    (hclause : clause ∉ ["line_comment", "block_comment"]) :
    clauseTypes src scope n clause = clauseTypes src scope n' clause := by
  unfold clauseTypes
  rcases h.childOfKind?_cases clause hclause with ⟨hn, hn'⟩ | ⟨c, c', hn, hn', hc⟩
  · rw [hn, hn']
  have hlists : List.Forall₂ (Commented harmlessAfter) (c.namedChildren.filter (·.kind == "type_list"))
      (c'.namedChildren.filter (·.kind == "type_list")) := by
    rw [namedChildren, namedChildren, List.filter_filter, List.filter_filter]
    exact hc.filter_children (fun _ hx => by rw [beq_false_of_ne (hx.kind_ne _ (by decide)), Bool.false_and])
      fun _ _ hd => by rw [hd.kind_eq, hd.named_eq]
  rw [hn, hn']
  refine flatMap_eq_of_forall₂ hlists fun list hlist list' hrel => ?_
  -- no comments are put into a list of types
  have hkind : list.kind = "type_list" := by simpa using (List.mem_filter.mp hlist).2
  have hchildren := hrel.padded.forall₂_of_closed rfl fun d => by simp [harmlessAfter, hkind]
  refine map_eq_of_forall₂ (List.rel_filter ?_ hchildren) fun _ _ hd => by rw [hd.text_eq]
  intro d d' hd
  show d.named = true ↔ d'.named = true
  rw [hd.named_eq]

theorem interfaces_of_commented (h : Commented harmlessAfter n n') :
    interfaces src scope n = interfaces src scope n' := by
  rw [interfaces, interfaces, clauseTypes_of_commented h (by decide), clauseTypes_of_commented h (by decide)]

theorem spreadParameter?_of_commented (h : Commented harmlessAfter n n') (hkind : n.kind = "spread_parameter") :
    spreadParameter? src scope n = spreadParameter? src scope n' := by
  have hdeclarators : List.Forall₂ (Commented harmlessAfter)
      (n.namedChildren.filter (·.kind = "variable_declarator"))
      (n'.namedChildren.filter (·.kind = "variable_declarator")) := by
    rw [namedChildren, namedChildren, List.filter_filter, List.filter_filter]
    exact h.filter_children (fun _ hx => by simp [hx.kind_ne "variable_declarator" (by decide)])
      fun _ _ hd => by rw [hd.kind_eq, hd.named_eq]
  have hname : ((n.namedChildren.filter (·.kind = "variable_declarator")).getLast?.bind fun d =>
      src.fieldText? d "name") =
        (n'.namedChildren.filter (·.kind = "variable_declarator")).getLast?.bind fun d =>
          src.fieldText? d "name" := by
    rcases getLast?_cases_of_forall₂ hdeclarators with ⟨hd, hd'⟩ | ⟨d, d', hd, hd', hdd⟩
    · rw [hd, hd']
    · rw [hd, hd', Option.bind_some, Option.bind_some, hdd.fieldText?_eq]
  have htype : ((n.namedChildren.filter fun c => c.kind ≠ "variable_declarator" ∧ c.kind ≠ "modifiers").head?.map
      fun c => typeText (src.text c)) =
        (n'.namedChildren.filter fun c => c.kind ≠ "variable_declarator" ∧ c.kind ≠ "modifiers").head?.map
          fun c => typeText (src.text c) := by
    rw [namedChildren, namedChildren, List.filter_filter, List.filter_filter, List.head?_filter,
      List.head?_filter]
    rcases h.padded.find?_cases
        (p := fun c => decide (c.kind ≠ "variable_declarator" ∧ c.kind ≠ "modifiers") && c.named) rfl
        (fun d hd => by
          have hd : (d.named ∧ d.kind ≠ "variable_declarator") ∧ d.kind ≠ "modifiers" := by
            simpa [harmlessAfter, hkind] using hd
          simp [hd])
        (fun _ _ hd => by rw [hd.kind_eq, hd.named_eq]) with ⟨hd, hd'⟩ | ⟨d, d', hd, hd', hdd⟩
    · rw [hd, hd']
    · rw [hd, hd', Option.map_some, Option.map_some, hdd.text_eq]
  unfold spreadParameter?
  simp only [hname, htype]

theorem formalParameter?_of_commented (h : Commented harmlessAfter n n') :
    formalParameter? src scope n = formalParameter? src scope n' := by
  unfold formalParameter?
  rw [h.fieldText?_eq, dimensions_of_commented h]
  rcases h.child?_cases "type" with ⟨hn, hn'⟩ | ⟨c, c', hn, hn', hc⟩
  · rw [hn, hn']
  · rw [hn, hn']
    cases (src.fieldText? n' "name").filter (· ≠ "") with
    | none => rfl
    | some name => simp only [hc.text_eq]

theorem parameter?_of_commented (h : Commented harmlessAfter n n') :
    parameter? src scope n = parameter? src scope n' := by
  unfold parameter?
  rw [h.kind_eq, formalParameter?_of_commented h]
  by_cases hspread : n.kind = "spread_parameter"
  · rw [spreadParameter?_of_commented h hspread]
  · rw [if_neg hspread, if_neg hspread]

theorem parameters_of_commented (h : Commented harmlessAfter n n') :
    parameters src scope n = parameters src scope n' := by
  unfold parameters
  rcases h.child?_cases "parameters" with ⟨hn, hn'⟩ | ⟨c, c', hn, hn', hc⟩
  · rw [hn, hn']
  · rw [hn, hn']
    refine hc.filterMap_namedChildren_eq (fun x hx => ?_) fun _ _ hd => parameter?_of_commented hd
    rw [parameter?, if_neg (hx.kind_ne _ (by decide)), if_neg (hx.kind_ne _ (by decide))]

end Places

/-! ## Members -/

section Members

variable {scope : Scope} {owner : TypeDecl}

theorem fields_of_commented (h : Commented harmlessAfter n n') (implied : List String) :
    fields src scope implied n = fields src scope implied n' := by
  unfold fields
  rw [modifiers_of_commented h]
  rcases h.child?_cases "type" with ⟨hn, hn'⟩ | ⟨c, c', hn, hn', hc⟩
  · rw [hn, hn']
  · simp only [hn, hn', hc.text_eq]
    refine filterMap_eq_of_forall₂ (h.childrenBy_rel "declarator") fun d d' hd => ?_
    rw [hd.fieldText?_eq, dimensions_of_commented hd]

theorem method_of_commented (h : Commented harmlessAfter n n') (inInterface : Bool) :
    method src scope inInterface n = method src scope inInterface n' := by
  unfold method
  rw [h.fieldText?_eq, modifiers_of_commented h, methodImplied_of_commented h, dimensions_of_commented h,
    parameters_of_commented h]
  rcases h.child?_cases "type" with ⟨hn, hn'⟩ | ⟨c, c', hn, hn', hc⟩
  · rw [hn, hn']
  · simp only [hn, hn', hc.text_eq]

theorem element?_of_commented (h : Commented harmlessAfter n n') :
    element? src scope n = element? src scope n' := by
  unfold element?
  rw [declaredName?_of_commented h, modifiers_of_commented h]
  rcases h.child?_cases "type" with ⟨hn, hn'⟩ | ⟨c, c', hn, hn', hc⟩
  · rw [hn, hn']
  · rw [hn, hn']
    cases declaredName? src n' with
    | none => rfl
    | some name => simp only [hc.text_eq]

theorem membersOf_of_commented (h : Commented harmlessAfter n n') :
    membersOf src scope owner n = membersOf src scope owner n' := by
  unfold membersOf constructor constant?
  dsimp only
  rw [h.kind_eq, fields_of_commented h, inside_of_commented h, method_of_commented h,
    declaredName?_of_commented h, modifiers_of_commented h, parameters_of_commented h,
    element?_of_commented h]

theorem membersOf_of_isComment {x : Node} (h : IsComment x) : membersOf src scope owner x = [] := by
  simp only [membersOf, h.kind_ne "field_declaration" (by decide),
    h.kind_ne "constant_declaration" (by decide), h.kind_ne "method_declaration" (by decide),
    h.kind_ne "constructor_declaration" (by decide), h.kind_ne "enum_constant" (by decide),
    h.kind_ne "annotation_type_element_declaration" (by decide), or_self, if_false]

theorem members_of_commented (h : Commented harmlessAfter n n') (type : TypeDecl) :
    members src scope type n = members src scope type n' := by
  unfold members components
  rw [isRecord_of_commented h, parameters_of_commented h]
  dsimp only
  congr 1
  exact (bodyMembers_padded h).gains.flatMap_eq (fun _ hx => membersOf_of_isComment hx)
    fun _ _ _ hc => membersOf_of_commented hc

end Members

/-! ## Declarations -/

/-- The same declaration with comments in harmless places. -/
abbrev CommentedDeclaration : Declaration → Declaration → Prop :=
  Declaration.Related (Commented harmlessAfter)

theorem declaration?_of_isComment {x : Node} (h : IsComment x) : declaration? src x = none := by
  have hkind : declaredKind? x = none := by
    simp only [declaredKind?, h.kind_ne "class_declaration" (by decide),
      h.kind_ne "record_declaration" (by decide), h.kind_ne "interface_declaration" (by decide),
      h.kind_ne "enum_declaration" (by decide),
      h.kind_ne "annotation_type_declaration" (by decide), or_self, if_false]
  rw [declaration?_eq, hkind]

/-- Declarations among nodes are those among the same nodes with comments. -/
theorem forall₂_declarations (src : Source) {g : Gate} {cs cs' : List Node}
    (h : Padded (Commented harmlessAfter) g cs cs')
    (hsame : ∀ c ∈ cs, ∀ c', Commented harmlessAfter c c' →
      List.Forall₂ CommentedDeclaration (declaration? src c).toList (declaration? src c').toList) :
    List.Forall₂ CommentedDeclaration (cs.filterMap (declaration? src)) (cs'.filterMap (declaration? src)) := by
  rw [List.filterMap_eq_flatMap_toList, List.filterMap_eq_flatMap_toList]
  refine h.gains.forall₂_flatMap (fun x hx => ?_) hsame
  rw [declaration?_of_isComment hx, Option.toList_none]

theorem declaration?_of_commented {n n' : Node} (h : Commented harmlessAfter n n') :
    List.Forall₂ CommentedDeclaration (declaration? src n).toList (declaration? src n').toList := by
  -- members of a body are smaller, on whatever level of it they stand
  have hnested := forall₂_declarations src (bodyMembers_padded h) fun c hc c' hcc' =>
    have := sizeOf_lt_of_mem_bodyMembers hc
    declaration?_of_commented hcc'
  rw [declaration?_eq, declaration?_eq, declaredKind?_of_commented h, declaredName?_of_commented h]
  cases declaredKind? n' with
  | none => exact .nil
  | some kind =>
    cases declaredName? src n' with
    | none => exact .nil
    | some name => exact .cons (.mk h hnested) .nil
termination_by sizeOf n

theorem declarations_of_commented {root root' : Node} (h : Commented harmlessAfter root root') :
    List.Forall₂ CommentedDeclaration (declarations src root) (declarations src root') :=
  forall₂_declarations src h.padded fun _ _ _ hc => declaration?_of_commented hc

theorem fileScope_of_commented {root root' : Node} (h : Commented harmlessAfter root root') :
    fileScope src root = fileScope src root' := by
  rw [fileScope, fileScope, packageName_of_commented h, imports_of_commented h,
    Declaration.registerAll_of_related (declarations_of_commented h)]

/-! ## Types -/

theorem typeImplied_of_commented (h : Commented harmlessAfter n n') (outer : Option TypeKind) (kind : TypeKind) :
    typeImplied outer kind n = typeImplied outer kind n' := by
  unfold typeImplied
  rw [isRecord_of_commented h, hasConstantBodies_of_commented h]

theorem header_of_commented {d d' : Declaration} (h : CommentedDeclaration d d') (scope : Scope)
    (outer : Option (String × TypeKind)) (kind : TypeKind) :
    header src scope outer kind d = header src scope outer kind d' := by
  obtain ⟨hnode, -⟩ := h
  simp only [header, typeImplied_of_commented hnode, modifiers_of_commented hnode,
    superClasses_of_commented hnode, interfaces_of_commented hnode]

mutual

theorem collect_of_commented : ∀ {d d' : Declaration}, CommentedDeclaration d d' →
    ∀ (scope : Scope) (outer : Option (String × TypeKind)),
      collect src scope outer d = collect src scope outer d'
  | ⟨_, _, _, _⟩, ⟨_, _, _, _⟩, .mk hnode hnested, scope, outer => by
    rw [collect, collect]
    simp only [header_of_commented (.mk hnode hnested), declaredKind?_of_commented hnode,
      inside_of_commented hnode, members_of_commented hnode, collectAll_of_commented hnested]

/-- The same types are emitted. -/
theorem collectAll_of_commented : ∀ {ds ds' : List Declaration}, List.Forall₂ CommentedDeclaration ds ds' →
    ∀ (scope : Scope) (outer : Option (String × TypeKind)),
      collectAll src scope outer ds = collectAll src scope outer ds'
  | [], _, .nil, _, _ => rfl
  | _ :: _, _, .cons hd hds, scope, outer => by
    rw [collectAll, collectAll, collect_of_commented hd, collectAll_of_commented hds]

end

/-- Comments in harmless places change neither the types of a file nor their members. -/
theorem details_of_commented {root root' : Node} (h : Commented harmlessAfter root root') :
    details src root = details src root' := by
  have hfound : found src root = found src root' := by
    rw [found, found, fileScope_of_commented h, collectAll_of_commented (declarations_of_commented h)]
  rw [details, details, hfound]

end SourceOutline.Java
