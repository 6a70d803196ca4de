import SourceOutline.Proofs.Extract.Mentions
import SourceOutline.Proofs.Python.Walk

/-!
# Mentions of types in a Python file

`sites` lists where the stubs of a file come from, in their order: for each class its bases, then the
fields and methods of its body, all in the one scope of the file.

* `stubs_found`: the stubs inside the extracted classes are those of the sites, one for one.
* `scope_of_mem_mentions`: every mention is looked up in the scope of the file.
* `isStub_of_foundAt`: supertypes, and types of members, are stubs.
-/

namespace SourceOutline.Python

/-- The stub for a mention. -/
def stubOf (m : Mention) : TypeDecl :=
  reference m.scope m.text m.kind

/-- All stubs inside a class with its members. -/
def Found.stubs (f : Found) : List TypeDecl :=
  f.type.superClasses ++ f.type.interfaces ++ f.members.flatMap Member.types

variable (src : Source) (scope : Scope)

/-! ## Bases -/

/-- Where the super classes or interfaces of a class come from. -/
def supertypeSites (n : Node) : List Site :=
  let written := bases src n
  let kind := kindOf (written.map Dotted.last)
  (if kind = .classType then
    (written.filter fun b => Dotted.last b ∉ ignoredBases).map fun b => .named ⟨scope, b, .classType⟩
  else [])
    ++ if kind = .interfaceType then
      (written.filter fun b => Dotted.last b ∉ "Protocol" :: ignoredBases).map
        fun b => .named ⟨scope, b, .interfaceType⟩
    else []

theorem supertypes_eq (outer : Option String) (d : Declaration) :
    (header src scope outer d).superClasses ++ (header src scope outer d).interfaces =
      (supertypeSites src scope d.node).map (Site.stub stubOf) := by
  unfold header supertypeSites
  dsimp only
  rw [List.map_append]
  congr 1
  · split
    · simp only [List.map_map, Function.comp_def, Site.stub, stubOf]
    · rfl
  · split
    · simp only [List.map_map, Function.comp_def, Site.stub, stubOf]
    · rfl

/-! ## Members -/

/-- Where the type of something with an annotation comes from; an empty one counts as none. -/
def annotatedSite (text : Option String) : Site :=
  match text.filter (· ≠ "") with
  | some text => .named ⟨scope, text, .classType⟩
  | none => .understood anyType

/-- Where the type of a field comes from: a constant of an enum has the type of the enum. -/
def fieldSite (owner : TypeDecl) (name : String) (hint : Option String) : Site :=
  if owner.kind = .enumType ∧ hint = none ∧ !isDunder name then .understood owner
  else annotatedSite scope ((hint.map Hint.ofText).getD { type := none }).type

/-- Where the types of the fields of one assignment come from. -/
def fieldSites (owner : TypeDecl) (n : Node) : List Site :=
  (assignedNames src n).map fun name => fieldSite scope owner name (src.fieldText? n "type")

/-- Where the types in a method come from. -/
def methodSites (decorators : List String) (n : Node) : List Site :=
  match parameters src (n.child? "parameters") with
  | .error _ => []
  | .ok ps =>
    annotatedSite scope (src.fieldText? n "return_type") ::
      (dropReceiver decorators ps).map fun p => annotatedSite scope p.2

/-- Where the types of the members come from that one node of a class body declares. -/
def memberSites (owner : TypeDecl) (n : Node) : List Site :=
  if n.kind = "expression_statement" then
    (n.namedChildren.filter (·.kind == "assignment")).flatMap (fieldSites src scope owner)
  else if n.kind = "function_definition" then methodSites src scope [] n
  else if n.kind = "decorated_definition" then
    match (n.child? "definition").filter (·.kind = "function_definition") with
    | none => []
    | some f => methodSites src scope (decoratorNames src n) f
  else []

/-- Where the types of all members of a class come from. -/
def bodySites (owner : TypeDecl) (n : Node) : List Site :=
  match n.child? "body" with
  | none => []
  | some body => body.children.flatMap (memberSites src scope owner)

theorem annotated_eq (text : Option String) :
    annotated scope text = (annotatedSite scope text).stub stubOf := by
  unfold annotated annotatedSite
  cases text.filter (· ≠ "") with
  | none => rfl
  | some t => simp only [Site.stub, stubOf]

theorem type_makeField (owner : TypeDecl) (name : String) (hint : Option String) :
    (makeField scope owner name hint).type = (fieldSite scope owner name hint).stub stubOf := by
  unfold makeField fieldSite
  split
  · rfl
  · rw [← annotated_eq]
    simp only [annotated]

theorem types_fields (owner : TypeDecl) (n : Node) :
    ((fields src scope owner n).map Member.field).flatMap Member.types =
      (fieldSites src scope owner n).map (Site.stub stubOf) := by
  rw [fields, fieldSites, List.map_map, List.map_map, List.flatMap_map, List.map_eq_flatMap]
  congr 1
  funext name
  exact congrArg (fun t => [t]) (type_makeField scope owner name _)

theorem types_method {decorators : List String} {n : Node} {m : MethodDecl}
    (h : method src scope decorators n = .ok m) :
    (Member.method m).types = (methodSites src scope decorators n).map (Site.stub stubOf) := by
  obtain ⟨ps, hps, heq⟩ := bind_eq_ok_iff.mp h
  obtain rfl := Except.ok.inj heq
  rw [methodSites, hps, List.map_cons, List.map_map, ← annotated_eq]
  simp [Member.types, annotated_eq, Function.comp_def]

theorem types_membersOf {owner : TypeDecl} {n : Node} {ms : List Member}
    (h : membersOf src scope owner n = .ok ms) :
    ms.flatMap Member.types = (memberSites src scope owner n).map (Site.stub stubOf) := by
  unfold membersOf at h
  unfold memberSites
  by_cases hstatement : n.kind = "expression_statement"
  · rw [if_pos hstatement] at h ⊢
    obtain rfl := Except.ok.inj h
    rw [List.flatMap_assoc, List.map_flatMap, funext (types_fields src scope owner)]
  rw [if_neg hstatement] at h ⊢
  by_cases hfunction : n.kind = "function_definition"
  · rw [if_pos hfunction] at h ⊢
    obtain ⟨m, hm, rfl⟩ := map_eq_ok_iff.mp h
    rw [List.flatMap_singleton, types_method src scope hm]
  rw [if_neg hfunction] at h ⊢
  by_cases hdecorated : n.kind = "decorated_definition"
  · rw [if_pos hdecorated] at h ⊢
    cases hdef : (n.child? "definition").filter (·.kind = "function_definition") with
    | none =>
      rw [hdef] at h
      obtain rfl := Except.ok.inj h
      rfl
    | some f =>
      rw [hdef] at h
      obtain ⟨m, hm, rfl⟩ := map_eq_ok_iff.mp h
      rw [List.flatMap_singleton, types_method src scope hm]
  · rw [if_neg hdecorated] at h ⊢
    obtain rfl := Except.ok.inj h
    rfl

theorem types_declaredMembers {t : TypeDecl} {n : Node} {ms : List Member}
    (h : declaredMembers src scope t n = .ok ms) :
    ms.flatMap Member.types =
      (bodySites src scope (.stub t.package.name t.name t.kind) n).map (Site.stub stubOf) := by
  unfold declaredMembers at h
  unfold bodySites
  cases hbody : n.child? "body" with
  | none =>
    rw [hbody] at h
    obtain rfl := Except.ok.inj h
    rfl
  | some body =>
    rw [hbody] at h
    obtain ⟨mss, hmss, rfl⟩ := map_eq_ok_iff.mp h
    have htypes := map_eq_map_of_mapM_eq_ok (fun _ _ _ hm => types_membersOf src scope hm) hmss
    rw [List.map_flatMap, List.flatMap_def (l := body.children), ← htypes, ← List.flatMap_def,
      List.flatten_eq_flatMap, List.flatMap_assoc]
    rfl

/-! ## Whole files -/

/-- Where the stubs inside one class come from. -/
def sitesAt (e : Option String × Declaration) : List Site :=
  let t := header src scope e.1 e.2
  supertypeSites src scope e.2.node ++ bodySites src scope (.stub t.package.name t.name t.kind) e.2.node

/-- Where the stubs of a file come from, in the order of the stubs. -/
def sites (module : String) (root : Node) : List Site :=
  (places src root).flatMap (sitesAt src (fileScope src module root))

/-- The types that a file names. -/
def mentions (module : String) (root : Node) : List Mention :=
  (sites src module root).filterMap Site.mention?

theorem stubs_foundAt {e : Option String × Declaration} {f : Found} (h : foundAt src scope e = .ok f) :
    f.stubs = (sitesAt src scope e).map (Site.stub stubOf) := by
  obtain ⟨htype, hmembers⟩ := of_foundAt_eq_ok h
  rw [Found.stubs, types_declaredMembers src scope hmembers, htype, sitesAt, List.map_append,
    ← supertypes_eq]

/-- **Every stub has its site**: the stubs inside the classes of a file are those of its sites, one
for one. -/
theorem stubs_found {module : String} {root : Node} {fs : List Found}
    (h : (found src module root).result = .ok fs) :
    fs.flatMap Found.stubs = (sites src module root).map (Site.stub stubOf) := by
  rw [result_found] at h
  have hstubs := map_eq_map_of_mapM_eq_ok (fun _ _ _ hf => stubs_foundAt src _ hf) h
  rw [sites, List.map_flatMap, List.flatMap_def, hstubs, ← List.flatMap_def]

/-! ## Scopes -/

section Scopes

variable {src scope}

theorem scope_of_mem_supertypeSites {n : Node} {m : Mention} (h : .named m ∈ supertypeSites src scope n) :
    m.scope = scope := by
  unfold supertypeSites at h
  rcases List.mem_append.mp h with h | h <;>
    (split at h <;> simp at h; obtain ⟨b, -, hb⟩ := h; subst hb; rfl)

theorem scope_of_mem_annotatedSite {text : Option String} {m : Mention}
    (h : .named m = annotatedSite scope text) : m.scope = scope := by
  unfold annotatedSite at h
  split at h <;> cases h
  rfl

theorem scope_of_mem_fieldSites {owner : TypeDecl} {n : Node} {m : Mention}
    (h : .named m ∈ fieldSites src scope owner n) : m.scope = scope := by
  obtain ⟨name, -, hname⟩ := List.mem_map.mp h
  unfold fieldSite at hname
  split at hname
  · cases hname
  · exact scope_of_mem_annotatedSite hname.symm

theorem scope_of_mem_methodSites {decorators : List String} {n : Node} {m : Mention}
    (h : .named m ∈ methodSites src scope decorators n) : m.scope = scope := by
  unfold methodSites at h
  split at h
  · simp at h
  · rcases List.mem_cons.mp h with h | h
    · exact scope_of_mem_annotatedSite h
    · obtain ⟨p, -, hp⟩ := List.mem_map.mp h
      exact scope_of_mem_annotatedSite hp.symm

theorem scope_of_mem_memberSites {owner : TypeDecl} {n : Node} {m : Mention}
    (h : .named m ∈ memberSites src scope owner n) : m.scope = scope := by
  unfold memberSites at h
  split at h
  · obtain ⟨a, -, ha⟩ := List.mem_flatMap.mp h
    exact scope_of_mem_fieldSites ha
  split at h
  · exact scope_of_mem_methodSites h
  split at h
  · split at h
    · simp at h
    · exact scope_of_mem_methodSites h
  · simp at h

theorem scope_of_mem_sitesAt {e : Option String × Declaration} {m : Mention}
    (h : .named m ∈ sitesAt src scope e) : m.scope = scope := by
  unfold sitesAt bodySites at h
  rcases List.mem_append.mp h with h | h
  · exact scope_of_mem_supertypeSites h
  · split at h
    · simp at h
    · obtain ⟨n, -, hn⟩ := List.mem_flatMap.mp h
      exact scope_of_mem_memberSites hn

/-- Everything in a file is looked up in one scope. -/
theorem scope_of_mem_mentions {module : String} {root : Node} {m : Mention}
    (h : m ∈ mentions src module root) : m.scope = fileScope src module root := by
  obtain ⟨e, -, he⟩ := List.mem_flatMap.mp (Site.mem_filterMap_mention?_iff.mp h)
  exact scope_of_mem_sitesAt he

end Scopes

/-! ## Stubs -/

section Stubs

variable {src scope}

theorem isStub_stubOf (m : Mention) : (stubOf m).IsStub := by
  unfold stubOf reference
  dsimp only
  split <;> exact ⟨_, _, _, rfl⟩

theorem isStub_of_annotatedSite {text : Option String} {t : TypeDecl}
    (h : .understood t = annotatedSite scope text) : t.IsStub := by
  unfold annotatedSite at h
  split at h <;> cases h
  exact ⟨_, _, _, rfl⟩

theorem isStub_of_mem_methodSites {decorators : List String} {n : Node} {t : TypeDecl}
    (h : .understood t ∈ methodSites src scope decorators n) : t.IsStub := by
  unfold methodSites at h
  split at h
  · simp at h
  · rcases List.mem_cons.mp h with h | h
    · exact isStub_of_annotatedSite h
    · obtain ⟨p, -, hp⟩ := List.mem_map.mp h
      exact isStub_of_annotatedSite hp.symm

/-- A body takes as understood the type of its owner, and any type. -/
theorem isStub_of_mem_memberSites {owner t : TypeDecl} (howner : owner.IsStub) {n : Node}
    (h : .understood t ∈ memberSites src scope owner n) : t.IsStub := by
  unfold memberSites at h
  split at h
  · obtain ⟨a, -, ha⟩ := List.mem_flatMap.mp h
    obtain ⟨name, -, hname⟩ := List.mem_map.mp ha
    unfold fieldSite at hname
    split at hname
    · cases hname
      exact howner
    · exact isStub_of_annotatedSite hname.symm
  split at h
  · exact isStub_of_mem_methodSites h
  split at h
  · split at h
    · simp at h
    · exact isStub_of_mem_methodSites h
  · simp at h

theorem isStub_of_understood_mem_sitesAt {e : Option String × Declaration} {t : TypeDecl}
    (h : .understood t ∈ sitesAt src scope e) : t.IsStub := by
  unfold sitesAt bodySites supertypeSites at h
  rcases List.mem_append.mp h with h | h
  · rcases List.mem_append.mp h with h | h <;> (split at h <;> simp at h)
  · split at h
    · simp at h
    · obtain ⟨n, -, hn⟩ := List.mem_flatMap.mp h
      exact isStub_of_mem_memberSites ⟨_, _, _, rfl⟩ hn

/-- The types inside a class that was found are stubs. -/
theorem isStub_of_foundAt {e : Option String × Declaration} {f : Found} (h : foundAt src scope e = .ok f)
    {t : TypeDecl} (ht : t ∈ f.stubs) : t.IsStub := by
  rw [stubs_foundAt src scope h] at ht
  exact Site.isStub_of_mem_map_stub isStub_stubOf (fun _ => isStub_of_understood_mem_sitesAt) ht

end Stubs

end SourceOutline.Python
