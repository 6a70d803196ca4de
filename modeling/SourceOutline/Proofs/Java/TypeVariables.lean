import SourceOutline.Java.Grammar
import SourceOutline.Proofs.Java.DocumentOrder
import SourceOutline.Proofs.Java.Mentions
import SourceOutline.Proofs.Java.Reference

/-!
# Type variables in Java

Which type variables are in effect where a file names a type depends on the path to it only.

* `LooksUp`: the types that a file names, each with the path of the declarations and members whose type
  variables are in effect there; `mem_mentions_iff`: they are looked up with just these type variables.
* `filePass`: a pass that keeps one list of type variables, adds to it inside a declaration, a method or a
  constructor, and puts the old one back at the end; `run_filePass`: it looks up the same.
* `taken_for_variable_iff`: a name that is no primitive type is taken for a type variable exactly if it is one.

Main statement: `typeVariables_by_path`.
-/

namespace SourceOutline.Java

open Declaration

/-! ## What is looked up -/

section Texts

variable (src : Source)

/-- The supertypes of a declaration as they are looked up, and their kinds. -/
def supertypeTexts (n : Node) : List (String × TypeKind) :=
  (superClassText? src n).toList.map (fun t => (t, .classType))
    ++ (clauseTexts src n "super_interfaces" ++ clauseTexts src n "extends_interfaces").map
      fun t => (t, .interfaceType)

/-- The types of the components of a record as they are looked up. -/
def componentTexts (n : Node) : List String :=
  if isRecord n then (parameterTexts src n).map Prod.snd else []

/-- The member may have type variables of its own. -/
def isCallable (n : Node) : Bool :=
  n.kind = "method_declaration" || n.kind = "constructor_declaration"

/-- The types that one node of a body names: those of fields, of what a method returns and takes, of what a
constructor takes, and of elements of annotations. -/
def memberTexts (n : Node) : List String :=
  if n.kind = "field_declaration" ∨ n.kind = "constant_declaration" then (fieldTexts src n).map Prod.snd
  else if n.kind = "method_declaration" then returnText src n :: (parameterTexts src n).map Prod.snd
  else if n.kind = "constructor_declaration" then (parameterTexts src n).map Prod.snd
  else if n.kind = "annotation_type_element_declaration" then
    match declaredName? src n, n.child? "type" with
    | some _, some type => [typeText (src.text type)]
    | _, _ => []
  else []

/-- The types that a file names, on the paths whose type variables are in effect: the declarations around a
supertype; for components, fields and elements of annotations the declaration itself as well; for what a method
or a constructor names that member, too. -/
inductive LooksUp (src : Source) (root : Node) : List Node → String → TypeKind → Prop
  | supertype {s : Spot Node} {t : String} {kind : TypeKind} :
    Reached src root s → (t, kind) ∈ supertypeTexts src s.item → LooksUp src root s.outer t kind
  | component {s : Spot Node} {t : String} :
    Reached src root s → t ∈ componentTexts src s.item → LooksUp src root (s.outer ++ [s.item]) t .classType
  | member {s : Spot Node} {p : Position} {m : Node} {t : String} :
    Reached src root s → InBody s.item p m → isCallable m = false → t ∈ memberTexts src m →
      LooksUp src root (s.outer ++ [s.item]) t .classType
  | callable {s : Spot Node} {p : Position} {m : Node} {t : String} :
    Reached src root s → InBody s.item p m → isCallable m = true → t ∈ memberTexts src m →
      LooksUp src root (s.outer ++ [s.item, m]) t .classType

/-- The mentions in one node of a body, given the scope of the body. -/
def memberLookUps (scope : Scope) (m : Node) : List Mention :=
  (memberTexts src m).map fun t => ⟨if isCallable m then inside src m scope else scope, t, .classType⟩

/-- The mentions in a declaration, given the scope it stands in. -/
def lookUps (scope : Scope) (n : Node) : List Mention :=
  (supertypeTexts src n).map (fun t => ⟨scope, t.1, t.2⟩)
    ++ ((componentTexts src n).map (fun t => ⟨inside src n scope, t, .classType⟩)
      ++ (bodyMembers n).flatMap (memberLookUps src (inside src n scope)))

variable {src}

theorem mentions_parameterSites (scope : Scope) (n : Node) :
    (parameterSites src scope n).filterMap Site.mention? =
      ((parameterTexts src n).map Prod.snd).map fun t => ⟨scope, t, .classType⟩ := by
  rw [parameterSites, Site.filterMap_mention?_map_named, List.map_map]
  rfl

theorem mentions_supertypeSites (scope : Scope) (n : Node) :
    (supertypeSites src scope n).filterMap Site.mention? =
      (supertypeTexts src n).map fun t => ⟨scope, t.1, t.2⟩ := by
  have hnamed : supertypeSites src scope n = (supertypeTexts src n).map fun t => .named ⟨scope, t.1, t.2⟩ := by
    simp [supertypeSites, supertypeTexts, Function.comp_def]
  rw [hnamed, Site.filterMap_mention?_map_named]

theorem mentions_memberSites (scope : Scope) (owner : TypeDecl) (n : Node) :
    (memberSites src scope owner n).filterMap Site.mention? = memberLookUps src scope n := by
  unfold memberSites memberLookUps memberTexts isCallable
  by_cases hfield : n.kind = "field_declaration" ∨ n.kind = "constant_declaration"
  · rw [if_pos hfield, if_pos hfield, List.filterMap_map, List.map_map]
    rcases hfield with hkind | hkind <;> simp [hkind, Function.comp_def, Site.mention?]
  rw [if_neg hfield, if_neg hfield]
  by_cases hmethod : n.kind = "method_declaration"
  · rw [if_pos hmethod, if_pos hmethod, List.filterMap_cons, mentions_parameterSites]
    simp [hmethod, Site.mention?]
  rw [if_neg hmethod, if_neg hmethod]
  by_cases hconstructor : n.kind = "constructor_declaration"
  · rw [if_pos hconstructor, if_pos hconstructor, List.filterMap_cons, mentions_parameterSites]
    simp [hconstructor, Site.mention?]
  rw [if_neg hconstructor, if_neg hconstructor]
  by_cases hconstant : n.kind = "enum_constant"
  · simp [hconstant, Site.mention?]
  rw [if_neg hconstant]
  by_cases helement : n.kind = "annotation_type_element_declaration"
  · rw [if_pos helement, if_pos helement]
    cases declaredName? src n <;> cases n.child? "type" <;> simp [helement, Site.mention?]
  · rw [if_neg helement, if_neg helement]
    rfl

theorem mentions_sitesAt (e : Surroundings × Declaration) :
    (sitesAt src e).filterMap Site.mention? = lookUps src e.1.scope e.2.node := by
  unfold sitesAt bodySites lookUps componentTexts
  rw [List.filterMap_append, List.filterMap_append, mentions_supertypeSites, List.filterMap_flatMap,
    funext (mentions_memberSites _ _)]
  cases isRecord e.2.node with
  | false => rfl
  | true =>
    rw [if_pos rfl, if_pos rfl, mentions_parameterSites]

end Texts

/-! ## By path -/

section Paths

variable {src : Source} {root : Node} {m : Mention}

theorem mentions_eq (root : Node) :
    mentions src root = (spots src root).flatMap fun s => lookUps src (scopeIn src root s.outer) s.item := by
  rw [mentions, sites, places_eq, List.flatMap_map, List.filterMap_flatMap]
  refine List.flatMap_congr fun s _ => ?_
  rw [mentions_sitesAt, scope_surroundings]
  rfl

theorem mem_memberLookUps_iff {scope : Scope} {c : Node} :
    m ∈ memberLookUps src scope c ↔
      m.text ∈ memberTexts src c ∧ m.kind = .classType ∧
        m.scope = if isCallable c then inside src c scope else scope := by
  obtain ⟨scope', text, kind⟩ := m
  simp only [memberLookUps, List.mem_map, Mention.mk.injEq]
  constructor
  · rintro ⟨t, ht, rfl, rfl, rfl⟩
    exact ⟨ht, rfl, rfl⟩
  · rintro ⟨ht, rfl, rfl⟩
    exact ⟨text, ht, rfl, rfl, rfl⟩

theorem mem_lookUps_of_member (scope : Scope) {n c : Node} {p : Position} {t : String} (hbody : InBody n p c)
    (ht : t ∈ memberTexts src c) :
    ⟨if isCallable c then inside src c (inside src n scope) else inside src n scope, t, .classType⟩ ∈
      lookUps src scope n := by
  refine List.mem_append_right _ (List.mem_append_right _ (List.mem_flatMap.mpr ⟨c, ?_, ?_⟩))
  · exact mem_bodyMembers_iff.mpr ⟨p, hbody⟩
  · exact mem_memberLookUps_iff.mpr ⟨ht, rfl, rfl⟩

/-- **A type is looked up with the type variables on its path.** -/
theorem mem_mentions_iff :
    m ∈ mentions src root ↔ ∃ path, LooksUp src root path m.text m.kind ∧ m.scope = scopeIn src root path := by
  rw [mentions_eq, List.mem_flatMap]
  constructor
  · rintro ⟨s, hs, hm⟩
    have hreached := mem_spots_iff.mp hs
    rcases List.mem_append.mp hm with hm | hm
    · obtain ⟨t, ht, rfl⟩ := List.mem_map.mp hm
      exact ⟨_, .supertype hreached ht, rfl⟩
    rcases List.mem_append.mp hm with hm | hm
    · obtain ⟨t, ht, rfl⟩ := List.mem_map.mp hm
      exact ⟨_, .component hreached ht, inside_scopeIn _ _⟩
    obtain ⟨c, hc, hm⟩ := List.mem_flatMap.mp hm
    obtain ⟨p, hbody⟩ := mem_bodyMembers_iff.mp hc
    obtain ⟨ht, hkind, hscope⟩ := mem_memberLookUps_iff.mp hm
    rw [hkind, hscope, inside_scopeIn]
    cases hcallable : isCallable c with
    | false => exact ⟨_, .member hreached hbody hcallable ht, rfl⟩
    | true => exact ⟨_, .callable hreached hbody hcallable ht, by simp [inside_scopeIn]⟩
  · obtain ⟨scope, text, kind⟩ := m
    rintro ⟨path, hpath, rfl⟩
    cases hpath with
    | @supertype s _ _ hs ht =>
      exact ⟨s, mem_spots_iff.mpr hs, List.mem_append_left _ (List.mem_map.mpr ⟨_, ht, rfl⟩)⟩
    | @component s _ hs ht =>
      refine ⟨s, mem_spots_iff.mpr hs, List.mem_append_right _ (List.mem_append_left _ ?_)⟩
      exact List.mem_map.mpr ⟨_, ht, by rw [inside_scopeIn]⟩
    | @member s p c _ hs hbody hcallable ht =>
      have hmem := mem_lookUps_of_member (scopeIn src root s.outer) hbody ht
      exact ⟨s, mem_spots_iff.mpr hs, by simpa [hcallable, inside_scopeIn] using hmem⟩
    | @callable s p c _ hs hbody hcallable ht =>
      have hmem := mem_lookUps_of_member (scopeIn src root s.outer) hbody ht
      exact ⟨s, mem_spots_iff.mpr hs, by simpa [hcallable, inside_scopeIn] using hmem⟩

end Paths

/-! ## A pass that puts type variables back -/

section Passes

/-- A pass over a file with the type variables in effect. -/
abbrev Pass := StateM (List String)

/-- A pass with more type variables in effect, and with the old ones again at its end. -/
def extended (names : List String) (p : Pass α) : Pass α := do
  let outer ← get
  set (outer ++ names)
  let a ← p
  set outer
  return a

/-- Looks a type up with the type variables in effect. -/
def lookUp (file : Scope) (text : String) (kind : TypeKind) : Pass Mention := do
  return ⟨{ file with typeVariables := ← get }, text, kind⟩

/-- The pass over one node of a body. -/
def memberPass (src : Source) (file : Scope) (m : Node) : Pass (List Mention) :=
  let p := (memberTexts src m).mapM fun t => lookUp file t .classType
  if isCallable m then extended (typeVariables src m) p else p

mutual

/-- The pass over a declaration: its supertypes, then its members and those nested in it with its own type
variables in effect. -/
def declarationPass (src : Source) (file : Scope) : Declaration → Pass (List Mention)
  | ⟨node, _, _, nested⟩ => do
    let supertypes ← (supertypeTexts src node).mapM fun t => lookUp file t.1 t.2
    let inner ← extended (typeVariables src node) do
      let components ← (componentTexts src node).mapM fun t => lookUp file t .classType
      let members ← (bodyMembers node).mapM (memberPass src file)
      let rest ← declarationsPass src file nested
      return components ++ members.flatten ++ rest
    return supertypes ++ inner

/-- The pass over declarations, one after another. -/
def declarationsPass (src : Source) (file : Scope) : List Declaration → Pass (List Mention)
  | [] => return []
  | d :: ds => do
    let first ← declarationPass src file d
    let rest ← declarationsPass src file ds
    return first ++ rest

end

/-- What a pass gives depends on the type variables in effect, and it leaves them as they were. -/
def Keeps (p : Pass α) (f : List String → α) : Prop :=
  ∀ vs, p.run vs = (f vs, vs)

theorem keeps_pure (a : α) : Keeps (pure a) fun _ => a :=
  fun _ => rfl

theorem Keeps.bind {p : Pass α} {f : List String → α} {q : α → Pass β} {g : α → List String → β}
    (hp : Keeps p f) (hq : ∀ a, Keeps (q a) (g a)) : Keeps (p >>= q) fun vs => g (f vs) vs := by
  intro vs
  show (q (p.run vs).1).run (p.run vs).2 = _
  rw [hp vs]
  exact hq (f vs) vs

theorem keeps_lookUp (file : Scope) (text : String) (kind : TypeKind) :
    Keeps (lookUp file text kind) fun vs => ⟨{ file with typeVariables := vs }, text, kind⟩ :=
  fun _ => rfl

theorem Keeps.extended {p : Pass α} {f : List String → α} (hp : Keeps p f) (names : List String) :
    Keeps (extended names p) fun vs => f (vs ++ names) := by
  intro vs
  show ((p.run (vs ++ names)).1, vs) = _
  rw [hp]

theorem keeps_mapM {p : α → Pass β} {f : α → List String → β} (hp : ∀ a, Keeps (p a) (f a)) :
    ∀ as : List α, Keeps (as.mapM p) fun vs => as.map fun a => f a vs
  | [] => keeps_pure []
  | a :: as => by
    rw [List.mapM_cons]
    exact (hp a).bind fun b => (keeps_mapM hp as).bind fun bs => keeps_pure (b :: bs)

theorem keeps_memberPass (src : Source) (file : Scope) (m : Node) :
    Keeps (memberPass src file m) fun vs => memberLookUps src { file with typeVariables := vs } m := by
  have htexts := keeps_mapM (fun t => keeps_lookUp file t .classType) (memberTexts src m)
  unfold memberPass memberLookUps
  cases isCallable m with
  | false => exact htexts
  | true => exact htexts.extended (typeVariables src m)

/-- The type variables inside a declaration. -/
def variablesIn (src : Source) (vs : List String) (d : Declaration) : List String :=
  vs ++ typeVariables src d.node

/-- The mentions in a declaration, given the type variables around it. -/
def lookUpsAt (src : Source) (file : Scope) (e : List String × Declaration) : List Mention :=
  lookUps src { file with typeVariables := e.1 } e.2.node

variable {src : Source}

mutual

theorem keeps_declarationPass (file : Scope) : ∀ d : Declaration,
    Keeps (declarationPass src file d) fun vs => (walk (variablesIn src) vs d).flatMap (lookUpsAt src file)
  | ⟨node, name, decorators, nested⟩ => by
    have hsupertypes := keeps_mapM (fun t => keeps_lookUp file t.1 t.2) (supertypeTexts src node)
    have hcomponents := keeps_mapM (fun t => keeps_lookUp file t .classType) (componentTexts src node)
    have hmembers := keeps_mapM (keeps_memberPass src file) (bodyMembers node)
    have hinner := hcomponents.bind fun components => hmembers.bind fun members =>
      (keeps_declarationsPass file nested).bind fun rest => keeps_pure (components ++ members.flatten ++ rest)
    have hall := hsupertypes.bind fun supertypes =>
      (hinner.extended (typeVariables src node)).bind fun inner => keeps_pure (supertypes ++ inner)
    intro vs
    dsimp only
    rw [declarationPass, walk, List.flatMap_cons]
    refine (hall vs).trans ?_
    simp only [lookUpsAt, lookUps, List.flatMap_def, List.append_assoc]
    rfl

theorem keeps_declarationsPass (file : Scope) : ∀ ds : List Declaration,
    Keeps (declarationsPass src file ds) fun vs => (walkAll (variablesIn src) vs ds).flatMap (lookUpsAt src file)
  | [] => keeps_pure []
  | d :: ds => by
    intro vs
    dsimp only
    rw [declarationsPass, walkAll, List.flatMap_append]
    exact ((keeps_declarationPass file d).bind fun first =>
      (keeps_declarationsPass file ds).bind fun rest => keeps_pure (first ++ rest)) vs

end

/-- The pass over a file. -/
def filePass (src : Source) (root : Node) : Pass (List Mention) :=
  declarationsPass src (fileScope src root) (declarations src root)

/-- **The pass looks up what the file names**, and no type variables are left. -/
theorem run_filePass (src : Source) (root : Node) : (filePass src root).run [] = (mentions src root, []) := by
  have hwalk : walkAll (variablesIn src) [] (declarations src root) =
      (places src root).map fun e => (e.1.scope.typeVariables, e.2) :=
    walkAll_map (f := fun s : Surroundings => s.scope.typeVariables) (fun _ _ => rfl) (declarations src root)
      { scope := fileScope src root }
  have hmentions : mentions src root =
      (walkAll (variablesIn src) [] (declarations src root)).flatMap (lookUpsAt src (fileScope src root)) := by
    rw [hwalk, mentions, sites, List.filterMap_flatMap, List.flatMap_map]
    refine List.flatMap_congr fun e he => ?_
    rw [mentions_sitesAt, lookUpsAt]
    congr 1
    -- scopes differ in their type variables only
    obtain ⟨hpackage, himports, hdeclared⟩ := scope_of_mem_places he
    rw [← hpackage, ← himports, ← hdeclared]
  rw [filePass, keeps_declarationsPass, hmentions]

end Passes

/-! ## Which names are taken for type variables -/

/-- **A name that is no primitive type is taken for a type variable**, whatever else is in scope, exactly if it is
one. -/
theorem taken_for_variable_iff {text : String} (kind : TypeKind) {vs : List String}
    (hprimitive : (splitDimensions text).1 ∉ primitives) :
    (splitDimensions text).1 ∈ vs ↔
      ∀ scope : Scope, scope.typeVariables = vs → reference scope text kind = .stub "" text kind := by
  constructor
  · rintro hvariable scope rfl
    rw [reference, resolve, if_pos (.inr hvariable), append_splitDimensions]
  · intro htaken
    by_contra hvariable
    -- a declared type of this name in some package
    let scope : Scope :=
      { package := "p", declared := [((splitDimensions text).1, (splitDimensions text).1)], typeVariables := vs }
    have hdeclared : scope.declared.get? (splitDimensions text).1 = some (splitDimensions text).1 := by
      simp [scope, Table.get?]
    have hstub := htaken scope rfl
    rw [reference, resolve_of_declared hprimitive hvariable hdeclared] at hstub
    have hpackage : "p" = "" := congrArg (fun t : TypeDecl => t.package.name) hstub
    simp at hpackage

/-- **Type variables go by path**: a file names just the types that are looked up on some path, each with the type
variables of the declarations and members on it, and a name that is no primitive type is taken for a type variable
exactly if it is among them.  A pass that puts the type variables back after each declaration, method and
constructor looks up the same, and leaves them as they were. -/
theorem typeVariables_by_path (src : Source) (root : Node) :
    (∀ m, m ∈ mentions src root ↔
      ∃ path, LooksUp src root path m.text m.kind ∧ m.scope = scopeIn src root path) ∧
    (∀ path text kind, LooksUp src root path text kind → (splitDimensions text).1 ∉ primitives →
      ((splitDimensions text).1 ∈ path.flatMap (typeVariables src) ↔
        ∀ scope : Scope, scope.typeVariables = (scopeIn src root path).typeVariables →
          reference scope text kind = .stub "" text kind)) ∧
    (filePass src root).run [] = (mentions src root, []) ∧
    (∀ d vs, ((declarationPass src (fileScope src root) d).run vs).2 = vs) ∧
    (∀ m vs, ((memberPass src (fileScope src root) m).run vs).2 = vs) ∧
    ∀ fs, (found src root).result = .ok fs → fs.flatMap Found.stubs = (sites src root).map (Site.stub stubOf) := by
  refine ⟨fun _ => mem_mentions_iff, fun path text kind _ hprimitive => ?_, run_filePass src root,
    fun d vs => ?_, fun m vs => ?_, fun fs hfs => stubs_found src hfs⟩
  · exact taken_for_variable_iff kind hprimitive
  · rw [keeps_declarationPass]
  · rw [keeps_memberPass]

/-- A class with a method and a nested class, each with type variables of its own. -/
def shadowedCode : String :=
  "package p; class A<T> \x7b <U> T[] m(U u) \x7b\x7d class B<T> extends T \x7b U v; \x7d \x7d"

theorem exists_variable_of_method :
    let src := Source.ofString shadowedCode
    let root := parse shadowedCode
    (mentions src root).map (fun m => (m.text, m.scope.typeVariables)) =
        [("T[]", ["T", "U"]), ("U", ["T", "U"]), ("T", ["T"]), ("U", ["T", "T"])] ∧
      ((filePass src root).run []).2 = [] ∧
      ∃ path, LooksUp src root path "T[]" .classType ∧ (scopeIn src root path).typeVariables = ["T", "U"] ∧
        ∀ scope : Scope, scope.typeVariables = ["T", "U"] → reference scope "T[]" = .stub "" "T[]" := by
  intro src root
  have heval : (mentions src root).map (fun m => (m.text, m.scope.typeVariables)) =
        [("T[]", ["T", "U"]), ("U", ["T", "U"]), ("T", ["T"]), ("U", ["T", "T"])] ∧
      (∃ m ∈ mentions src root, m.text = "T[]" ∧ m.kind = .classType ∧ m.scope.typeVariables = ["T", "U"]) ∧
      (splitDimensions "T[]").1 ∉ primitives ∧ (splitDimensions "T[]").1 ∈ ["T", "U"] := by
    decide +kernel
  obtain ⟨htexts, ⟨m, hm, htext, hkind, hscope⟩, hprimitive, hvariable⟩ := heval
  obtain ⟨hlookUps, htaken, hrun, -⟩ := typeVariables_by_path src root
  obtain ⟨path, hpath, hscopeIn⟩ := (hlookUps m).mp hm
  rw [htext, hkind] at hpath
  rw [hscopeIn] at hscope
  have hpathVariables : path.flatMap (typeVariables src) = ["T", "U"] := hscope
  refine ⟨htexts, by rw [hrun], path, hpath, hscope, fun scope h => ?_⟩
  exact (htaken path "T[]" .classType hpath hprimitive).mp (hpathVariables ▸ hvariable) scope (h.trans hscope.symm)

end SourceOutline.Java
