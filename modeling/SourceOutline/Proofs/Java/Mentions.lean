import SourceOutline.Proofs.Extract.Mentions
import SourceOutline.Proofs.Java.Walk

/-!
# Mentions of types in a Java file

`sites` lists where the stubs of a file come from, in their order: for each declaration the super
class and the interfaces, in the scope around it, then its members, in the scope inside it.

* `stubs_found`: the stubs inside the extracted types are those of the sites, one for one.
* `scope_of_mem_mentions`: all scopes of a file differ in their type variables only.
* `isStub_of_foundAt`: supertypes, and types of members, are stubs.
-/

namespace SourceOutline.Java

/-- The stub for a mention. -/
def stubOf (m : Mention) : TypeDecl :=
  reference m.scope m.text m.kind

/-- All stubs inside a type with its members. -/
def Found.stubs (f : Found) : List TypeDecl :=
  f.type.superClasses ++ f.type.interfaces ++ f.members.flatMap Member.types

variable (src : Source)

/-! ## Supertypes -/

/-- The super class as it is looked up. -/
def superClassText? (n : Node) : Option String :=
  ((n.childOfKind? "superclass").bind fun c => c.namedChildren.head?).map fun t => typeText (src.text t)

/-- The types of one clause as they are looked up. -/
def clauseTexts (n : Node) (clause : String) : List String :=
  match n.childOfKind? clause with
  | none => []
  | some c =>
    (c.namedChildren.filter (·.kind == "type_list")).flatMap fun list =>
      list.namedChildren.map fun t => typeText (src.text t)

/-- Where the supertypes of a declaration come from. -/
def supertypeSites (scope : Scope) (n : Node) : List Site :=
  (superClassText? src n).toList.map (fun t => .named ⟨scope, t, .classType⟩)
    ++ (clauseTexts src n "super_interfaces" ++ clauseTexts src n "extends_interfaces").map
      fun t => .named ⟨scope, t, .interfaceType⟩

theorem superClasses_eq (scope : Scope) (n : Node) :
    superClasses src scope n = (superClassText? src n).toList.map fun t => reference scope t := by
  unfold superClasses superClassText?
  cases (n.childOfKind? "superclass").bind fun c => c.namedChildren.head? <;> rfl

theorem clauseTypes_eq (scope : Scope) (n : Node) (clause : String) :
    clauseTypes src scope n clause =
      (clauseTexts src n clause).map fun t => reference scope t .interfaceType := by
  unfold clauseTypes clauseTexts
  cases n.childOfKind? clause with
  | none => rfl
  | some c => simp [List.map_flatMap, Function.comp_def]

theorem supertypes_eq (scope : Scope) (n : Node) :
    superClasses src scope n ++ interfaces src scope n = (supertypeSites src scope n).map (Site.stub stubOf) := by
  rw [superClasses_eq, interfaces, clauseTypes_eq, clauseTypes_eq, supertypeSites, ← List.map_append]
  simp [Site.stub, stubOf, Function.comp_def]

/-! ## Members -/

/-- The name of a parameter for any number of arguments. -/
def spreadName? (n : Node) : Option String :=
  ((n.namedChildren.filter (·.kind = "variable_declarator")).getLast?.bind fun d =>
    src.fieldText? d "name").filter (· ≠ "")

/-- The type of each argument that such a parameter takes, as it is looked up. -/
def spreadText? (n : Node) : Option String :=
  ((n.namedChildren.filter fun c => c.kind ≠ "variable_declarator" ∧ c.kind ≠ "modifiers").head?.map
    fun c => typeText (src.text c)).filter (· ≠ "")

/-- The name of a parameter and its type as it is looked up. -/
def parameterText? (n : Node) : Option (String × String) :=
  if n.kind = "formal_parameter" then
    match declaredName? src n, n.child? "type" with
    | some name, some type => some (name, typeText (src.text type) ++ dimensions src n)
    | _, _ => none
  else if n.kind = "spread_parameter" then
    match spreadName? src n, spreadText? src n with
    | some name, some type => some (name, type ++ "[]")
    | _, _ => none
  else none

/-- The names of the parameters under a node and their types as they are looked up. -/
def parameterTexts (n : Node) : List (String × String) :=
  match n.child? "parameters" with
  | none => []
  | some ps => ps.namedChildren.filterMap (parameterText? src)

/-- The names that a field declaration declares, and their types as they are looked up. -/
def fieldTexts (n : Node) : List (String × String) :=
  match n.child? "type" with
  | none => []
  | some type =>
    (n.childrenBy "declarator").filterMap fun d =>
      (declaredName? src d).map fun name => (name, typeText (src.text type) ++ dimensions src d)

/-- What a method returns, as it is looked up. -/
def returnText (n : Node) : String :=
  (match n.child? "type" with
    | none => "void"
    | some type => typeText (src.text type)) ++ dimensions src n

/-- Where the types of parameters come from. -/
def parameterSites (scope : Scope) (n : Node) : List Site :=
  (parameterTexts src n).map fun p => .named ⟨scope, p.2, .classType⟩

/-- Where the types of the members come from that one node of a body declares. -/
def memberSites (scope : Scope) (owner : TypeDecl) (n : Node) : List Site :=
  if n.kind = "field_declaration" ∨ n.kind = "constant_declaration" then
    (fieldTexts src n).map fun p => .named ⟨scope, p.2, .classType⟩
  else if n.kind = "method_declaration" then
    .named ⟨inside src n scope, returnText src n, .classType⟩ :: parameterSites src (inside src n scope) n
  else if n.kind = "constructor_declaration" then
    .understood owner :: parameterSites src (inside src n scope) n
  else if n.kind = "enum_constant" then
    (declaredName? src n).toList.map fun _ => .understood owner
  else if n.kind = "annotation_type_element_declaration" then
    match declaredName? src n, n.child? "type" with
    | some _, some type => [.named ⟨scope, typeText (src.text type), .classType⟩]
    | _, _ => []
  else []

/-- Where the types of all members of a declaration come from. -/
def bodySites (scope : Scope) (owner : TypeDecl) (n : Node) : List Site :=
  (if isRecord n then parameterSites src scope n else [])
    ++ (bodyMembers n).flatMap (memberSites src scope owner)

theorem parameter?_eq (scope : Scope) (n : Node) :
    parameter? src scope n = (parameterText? src n).map fun p => ⟨p.1, reference scope p.2⟩ := by
  unfold parameter? parameterText?
  by_cases hformal : n.kind = "formal_parameter"
  · rw [if_pos hformal, if_pos hformal, formalParameter?, ← declaredName?]
    cases declaredName? src n <;> cases n.child? "type" <;> rfl
  · rw [if_neg hformal, if_neg hformal]
    by_cases hspread : n.kind = "spread_parameter"
    · rw [if_pos hspread, if_pos hspread, spreadParameter?]
      change (match spreadName? src n, spreadText? src n with
        | some name, some type => some _
        | _, _ => none) = _
      cases spreadName? src n <;> cases spreadText? src n <;> rfl
    · rw [if_neg hspread, if_neg hspread]
      rfl

theorem parameters_eq (scope : Scope) (n : Node) :
    parameters src scope n = (parameterTexts src n).map fun p => ⟨p.1, reference scope p.2⟩ := by
  unfold parameters parameterTexts
  cases n.child? "parameters" with
  | none => rfl
  | some ps =>
    dsimp only
    rw [List.map_filterMap, funext (parameter?_eq src scope)]

theorem fields_eq (scope : Scope) (implied : List String) (n : Node) :
    fields src scope implied n = (fieldTexts src n).map fun p =>
      .field { name := p.1, type := reference scope p.2, modifiers := modifiers n implied } := by
  unfold fields fieldTexts
  cases n.child? "type" with
  | none => rfl
  | some type =>
    dsimp only
    rw [List.map_filterMap]
    congr 1
    funext d
    rw [← declaredName?]
    cases declaredName? src d <;> rfl

theorem types_membersOf (scope : Scope) (owner : TypeDecl) (n : Node) :
    (membersOf src scope owner n).flatMap Member.types =
      (memberSites src scope owner n).map (Site.stub stubOf) := by
  have hparams : ∀ s : Scope, (parameters src s n).map Parameter.type =
      (parameterSites src s n).map (Site.stub stubOf) := by
    intro s
    rw [parameters_eq, parameterSites, List.map_map, List.map_map]
    rfl
  unfold membersOf memberSites
  dsimp only
  by_cases hfield : n.kind = "field_declaration" ∨ n.kind = "constant_declaration"
  · rw [if_pos hfield, if_pos hfield, fields_eq, List.map_map, List.flatMap_map, List.map_eq_flatMap]
    rfl
  rw [if_neg hfield, if_neg hfield]
  by_cases hmethod : n.kind = "method_declaration"
  · rw [if_pos hmethod, if_pos hmethod, List.map_cons, ← hparams, List.flatMap_singleton]
    rfl
  rw [if_neg hmethod, if_neg hmethod]
  by_cases hconstructor : n.kind = "constructor_declaration"
  · rw [if_pos hconstructor, if_pos hconstructor, List.map_cons, ← hparams, List.flatMap_singleton]
    rfl
  rw [if_neg hconstructor, if_neg hconstructor]
  by_cases hconstant : n.kind = "enum_constant"
  · rw [if_pos hconstant, if_pos hconstant, constant?]
    cases declaredName? src n <;> rfl
  rw [if_neg hconstant, if_neg hconstant]
  by_cases helement : n.kind = "annotation_type_element_declaration"
  · rw [if_pos helement, if_pos helement, element?]
    cases declaredName? src n <;> cases n.child? "type" <;> rfl
  rw [if_neg helement, if_neg helement]
  rfl

theorem types_members (scope : Scope) (t : TypeDecl) (n : Node) :
    (members src scope t n).flatMap Member.types =
      (bodySites src scope (.stub t.package.name t.name t.kind) n).map (Site.stub stubOf) := by
  unfold members bodySites
  dsimp only
  rw [List.flatMap_append, List.map_append, List.flatMap_assoc, List.map_flatMap,
    funext (types_membersOf src scope (.stub t.package.name t.name t.kind))]
  congr 1
  -- the components of a record
  cases isRecord n with
  | false => rfl
  | true =>
    rw [if_pos rfl, if_pos rfl, components, parameters_eq, List.map_map, parameterSites, List.map_map,
      List.flatMap_map, List.map_eq_flatMap]
    rfl

/-! ## Whole files -/

/-- Where the stubs inside one declared type come from. -/
def sitesAt (e : Surroundings × Declaration) : List Site :=
  let t := headerAt src e
  supertypeSites src e.1.scope e.2.node
    ++ bodySites src (inside src e.2.node e.1.scope) (.stub t.package.name t.name t.kind) e.2.node

/-- Where the stubs of a file come from, in the order of the stubs. -/
def sites (root : Node) : List Site :=
  (places src root).flatMap (sitesAt src)

/-- The types that a file names. -/
def mentions (root : Node) : List Mention :=
  (sites src root).filterMap Site.mention?

theorem stubs_foundAt {e : Surroundings × Declaration} {f : Found} (h : foundAt src e = .ok f) :
    f.stubs = (sitesAt src e).map (Site.stub stubOf) := by
  obtain ⟨htype, hmembers⟩ := of_foundAt_eq_ok h
  rw [Found.stubs, hmembers, types_members, htype, sitesAt, List.map_append, ← supertypes_eq]
  rfl

/-- **Every stub has its site**: the stubs inside the types of a file are those of its sites, one for
one. -/
theorem stubs_found {root : Node} {fs : List Found} (h : (found src root).result = .ok fs) :
    fs.flatMap Found.stubs = (sites src root).map (Site.stub stubOf) := by
  rw [result_found] at h
  have hstubs := map_eq_map_of_mapM_eq_ok (fun _ _ _ hf => stubs_foundAt src hf) h
  rw [sites, List.map_flatMap, List.flatMap_def, hstubs, ← List.flatMap_def]

/-! ## Scopes -/

section Scopes

variable {src}

theorem scope_of_mem_parameterSites {scope : Scope} {n : Node} {m : Mention}
    (h : .named m ∈ parameterSites src scope n) : SameFile m.scope scope := by
  obtain ⟨p, -, hp⟩ := List.mem_map.mp h
  cases hp
  exact ⟨rfl, rfl, rfl⟩

theorem scope_of_mem_memberSites {scope : Scope} {owner : TypeDecl} {n : Node} {m : Mention}
    (h : .named m ∈ memberSites src scope owner n) : SameFile m.scope scope := by
  unfold memberSites at h
  split at h
  · obtain ⟨p, -, hp⟩ := List.mem_map.mp h
    cases hp
    exact ⟨rfl, rfl, rfl⟩
  split at h
  · rcases List.mem_cons.mp h with hm | hm
    · cases hm
      exact ⟨rfl, rfl, rfl⟩
    · exact (scope_of_mem_parameterSites hm).of_inside
  split at h
  · rcases List.mem_cons.mp h with hm | hm
    · cases hm
    · exact (scope_of_mem_parameterSites hm).of_inside
  split at h
  · obtain ⟨_, -, hp⟩ := List.mem_map.mp h
    cases hp
  split at h
  · split at h
    · cases List.mem_singleton.mp h
      exact ⟨rfl, rfl, rfl⟩
    · simp at h
  · simp at h

theorem scope_of_mem_sitesAt {e : Surroundings × Declaration} {m : Mention}
    (h : .named m ∈ sitesAt src e) : SameFile m.scope e.1.scope := by
  unfold sitesAt supertypeSites bodySites at h
  rcases List.mem_append.mp h with h | h
  · rcases List.mem_append.mp h with h | h <;>
      (obtain ⟨t, -, ht⟩ := List.mem_map.mp h; cases ht; exact ⟨rfl, rfl, rfl⟩)
  · rcases List.mem_append.mp h with h | h
    · split at h
      · exact (scope_of_mem_parameterSites h).of_inside
      · simp at h
    · obtain ⟨n, -, hn⟩ := List.mem_flatMap.mp h
      exact (scope_of_mem_memberSites hn).of_inside

/-- All scopes of a file differ in their type variables only. -/
theorem scope_of_mem_mentions {root : Node} {m : Mention} (h : m ∈ mentions src root) :
    SameFile m.scope (fileScope src root) := by
  obtain ⟨e, he, hse⟩ := List.mem_flatMap.mp (Site.mem_filterMap_mention?_iff.mp h)
  exact (scope_of_mem_sitesAt hse).trans (scope_of_mem_places he)

end Scopes

/-! ## Stubs -/

section Stubs

variable {src}

theorem isStub_stubOf (m : Mention) : (stubOf m).IsStub :=
  ⟨_, _, _, rfl⟩

/-- The only type that a body takes as understood is that of its owner. -/
theorem eq_of_understood_mem_memberSites {scope : Scope} {owner t : TypeDecl} {n : Node}
    (h : .understood t ∈ memberSites src scope owner n) : t = owner := by
  have hparameters : ∀ s : Scope, .understood t ∉ parameterSites src s n := fun s hp => by
    obtain ⟨p, -, hp⟩ := List.mem_map.mp hp
    cases hp
  unfold memberSites at h
  split at h
  · obtain ⟨p, -, hp⟩ := List.mem_map.mp h
    cases hp
  split at h
  · rcases List.mem_cons.mp h with ht | ht
    · cases ht
    · exact absurd ht (hparameters _)
  split at h
  · rcases List.mem_cons.mp h with ht | ht
    · cases ht
      rfl
    · exact absurd ht (hparameters _)
  split at h
  · obtain ⟨_, -, hp⟩ := List.mem_map.mp h
    cases hp
    rfl
  split at h
  · split at h <;> simp at h
  · simp at h

theorem isStub_of_understood_mem_sitesAt {e : Surroundings × Declaration} {t : TypeDecl}
    (h : .understood t ∈ sitesAt src e) : t.IsStub := by
  unfold sitesAt supertypeSites bodySites at h
  rcases List.mem_append.mp h with h | h
  · rcases List.mem_append.mp h with h | h <;>
      (obtain ⟨u, -, hu⟩ := List.mem_map.mp h; cases hu)
  · rcases List.mem_append.mp h with h | h
    · split at h
      · obtain ⟨p, -, hp⟩ := List.mem_map.mp h
        cases hp
      · simp at h
    · obtain ⟨n, -, hn⟩ := List.mem_flatMap.mp h
      rw [eq_of_understood_mem_memberSites hn]
      exact ⟨_, _, _, rfl⟩

/-- The types inside a type that was found are stubs. -/
theorem isStub_of_foundAt {e : Surroundings × Declaration} {f : Found} (h : foundAt src e = .ok f)
    {t : TypeDecl} (ht : t ∈ f.stubs) : t.IsStub := by
  rw [stubs_foundAt src h] at ht
  exact Site.isStub_of_mem_map_stub isStub_stubOf (fun _ => isStub_of_understood_mem_sitesAt) ht

end Stubs

end SourceOutline.Java
