import SourceOutline.Proofs.Python.Walk

/-!
# Python methods that cannot be read

Classes never contradict their kinds (`violation?_header`), so the types of a file fail over one thing
only: a method of a collected class with a typed parameter that has nothing to type.

* `Collected`: the classes that are collected, described without the walk through them;
  `collected_of_mem_places` and `exists_mem_places_of_collected` say that the walk visits just these.
* `exists_details_eq_ok_iff`, `details_eq_error_iff`: when there are types, and when there is an error.
-/

namespace SourceOutline.Python

open Declaration

/-- A class that a block declares, perhaps with decorators, or inside transparent statements. -/
inductive ClassIn (src : Source) : Node → Node → Prop
  | here {block n c : Node} {decorators : List String} :
    n ∈ block.children → classAt? src n = some (c, decorators) → ClassIn src block c
  | within {block n c : Node} :
    n ∈ block.children → isTransparent n = true → ClassIn src n c → ClassIn src block c

/-- The collected classes: named classes of a file, and named ones in the bodies of others. -/
inductive Collected (src : Source) (root : Node) : Node → Prop
  | top {c : Node} : ClassIn src root c → (className? src c).isSome → Collected src root c
  | nested {outer body c : Node} :
    Collected src root outer → outer.child? "body" = some body → ClassIn src body c →
      (className? src c).isSome →
      Collected src root c

/-- The function that a node of a class body defines as a method. -/
def methodAt? (n : Node) : Option Node :=
  if n.kind = "function_definition" then some n
  else if n.kind = "decorated_definition" then
    (n.child? "definition").filter (·.kind = "function_definition")
  else none

/-- A method of a class. -/
def IsMethod (c f : Node) : Prop :=
  ∃ body, c.child? "body" = some body ∧ ∃ n ∈ body.children, methodAt? n = some f

/-- A typed parameter that has nothing to type. -/
def IsBare (p : Node) : Prop :=
  p.kind = "typed_parameter" ∧ p.namedChildren = []

/-- A function with such a parameter. -/
def HasBareParameter (f : Node) : Prop :=
  ∃ ps, f.child? "parameters" = some ps ∧ ∃ p ∈ ps.namedChildren, IsBare p

variable {src : Source} {root : Node}

/-! ## The classes on the walk -/

section Places

/-- The named classes in the body of a class. -/
def nestedIn (src : Source) (c : Node) : List Declaration :=
  match c.child? "body" with
  | none => []
  | some body => classesIn src body

theorem mem_nestedIn_iff {c : Node} {d : Declaration} :
    d ∈ nestedIn src c ↔ ∃ body, c.child? "body" = some body ∧ d ∈ classesIn src body := by
  unfold nestedIn
  cases c.child? "body" <;> simp

/-- The named classes that one node of a block declares. -/
def declarationsAt (src : Source) (n : Node) : List Declaration :=
  match classAt? src n with
  | some (c, decorators) =>
    match className? src c with
    | none => []
    | some name => [{ node := c, name, decorators, nested := nestedIn src c }]
  | none => if isTransparent n then classesIn src n else []

theorem classesIn_eq (src : Source) (block : Node) :
    classesIn src block = block.children.flatMap (declarationsAt src) := by
  rw [classesIn, List.flatMap_subtype (g := declarationsAt src), List.unattach_attach]
  intro n _
  dsimp only
  unfold declarationsAt nestedIn
  split
  · rename_i c decorators hc
    rw [hc]
    dsimp only
    split
    · simp [*]
    · split <;> simp [*]
  · rename_i hc
    rw [hc]

theorem of_mem_declarationsAt {n : Node} {d : Declaration} (h : d ∈ declarationsAt src n) :
    (∃ decorators, classAt? src n = some (d.node, decorators) ∧ (className? src d.node).isSome ∧
      d.nested = nestedIn src d.node) ∨ (isTransparent n = true ∧ d ∈ classesIn src n) := by
  unfold declarationsAt at h
  split at h
  · rename_i c decorators hc
    split at h
    · simp at h
    · rename_i name hname
      obtain rfl := List.mem_singleton.mp h
      exact .inl ⟨decorators, hc, by rw [hname]; rfl, rfl⟩
  · by_cases htransparent : isTransparent n = true
    · rw [if_pos htransparent] at h
      exact .inr ⟨htransparent, h⟩
    · rw [if_neg htransparent] at h
      simp at h

/-- A transparent statement is no class. -/
theorem classAt?_of_isTransparent {n : Node} (h : isTransparent n = true) : classAt? src n = none := by
  have hclass : n.kind ≠ "class_definition" := by
    intro hkind
    simp [isTransparent, hkind] at h
  have hdecorated : n.kind ≠ "decorated_definition" := by
    intro hkind
    simp [isTransparent, hkind] at h
  rw [classAt?, if_neg hclass, if_neg hdecorated]

theorem of_mem_classesIn {block : Node} {d : Declaration} (h : d ∈ classesIn src block) :
    ClassIn src block d.node ∧ (className? src d.node).isSome ∧ d.nested = nestedIn src d.node := by
  rw [classesIn_eq] at h
  obtain ⟨n, hn, hd⟩ := List.mem_flatMap.mp h
  rcases of_mem_declarationsAt hd with ⟨decorators, hc, hname, hnested⟩ | ⟨htransparent, hd⟩
  · exact ⟨.here hn hc, hname, hnested⟩
  · -- what a transparent statement declares, the block around it declares
    have hlt := Node.sizeOf_lt_of_mem_children hn
    obtain ⟨hclass, hd⟩ := of_mem_classesIn hd
    exact ⟨.within hn htransparent hclass, hd⟩
termination_by sizeOf block

theorem exists_mem_classesIn {block c : Node} (h : ClassIn src block c) (hname : (className? src c).isSome) :
    ∃ d ∈ classesIn src block, d.node = c := by
  induction h with
  | @here block n c decorators hn hc =>
    obtain ⟨name, hname⟩ := Option.isSome_iff_exists.mp hname
    refine ⟨⟨c, name, decorators, nestedIn src c⟩, ?_, rfl⟩
    rw [classesIn_eq]
    exact List.mem_flatMap.mpr ⟨n, hn, by simp [declarationsAt, hc, hname]⟩
  | @within block n c hn htransparent _ ih =>
    obtain ⟨d, hd, hnode⟩ := ih hname
    refine ⟨d, ?_, hnode⟩
    rw [classesIn_eq]
    exact List.mem_flatMap.mpr
      ⟨n, hn, by simp [declarationsAt, classAt?_of_isTransparent htransparent, htransparent, hd]⟩

/-- The walk visits collected classes only. -/
theorem collected_of_mem_places {e : Option String × Declaration} (h : e ∈ places src root) :
    Collected src root e.2.node ∧ e.2.nested = nestedIn src e.2.node := by
  refine mem_walkAll_induction (P := fun _ d => Collected src root d.node ∧ d.nested = nestedIn src d.node)
    ?_ ?_ e h
  · rintro ⟨outer, d⟩ - ⟨hcollected, hnested⟩ d' hd'
    rw [hnested] at hd'
    obtain ⟨body, hbody, hd'⟩ := mem_nestedIn_iff.mp hd'
    obtain ⟨hclass, hname, hnested'⟩ := of_mem_classesIn hd'
    exact ⟨.nested hcollected hbody hclass hname, hnested'⟩
  · intro d hd
    obtain ⟨hclass, hname, hnested⟩ := of_mem_classesIn hd
    exact ⟨.top hclass hname, hnested⟩

/-- The walk visits every collected class. -/
theorem exists_mem_places_of_collected {c : Node} (h : Collected src root c) :
    ∃ e ∈ places src root, e.2.node = c := by
  induction h with
  | top hclass hname =>
    obtain ⟨d, hd, hnode⟩ := exists_mem_classesIn hclass hname
    exact ⟨_, mem_walkAll_of_mem hd, hnode⟩
  | nested _ hbody hclass hname ih =>
    obtain ⟨e, he, rfl⟩ := ih
    obtain ⟨d, hd, hnode⟩ := exists_mem_classesIn hclass hname
    have hmem : d ∈ e.2.nested := (collected_of_mem_places he).2 ▸ mem_nestedIn_iff.mpr ⟨_, hbody, hd⟩
    exact ⟨_, mem_walkAll_nested e he d hmem, hnode⟩

end Places

/-! ## Members -/

section Members

variable {scope : Scope} {owner : TypeDecl}

/-- An entry of a parameter list is read unless it is bare. -/
theorem exists_parameter_eq_ok_iff {p : Node} : (∃ ps, parameter src p = .ok ps) ↔ ¬ IsBare p := by
  by_cases hkind : p.kind = "typed_parameter"
  · unfold parameter IsBare
    cases p.namedChildren <;> simp [hkind]
  · have hok : ∃ ps, parameter src p = .ok ps := by
      unfold parameter
      rw [if_neg hkind]
      repeat' split
      all_goals exact ⟨_, rfl⟩
    exact iff_of_true hok fun hbare => hkind hbare.1

theorem exists_method_eq_ok_iff {decorators : List String} {f : Node} :
    (∃ m, method src scope decorators f = .ok m) ↔ ¬ HasBareParameter f := by
  have hparameters : (∃ ps, parameters src (f.child? "parameters") = .ok ps) ↔ ¬ HasBareParameter f := by
    unfold parameters HasBareParameter
    cases f.child? "parameters" with
    | none => simp
    | some ps =>
      simp only [exists_map_eq_ok_iff, exists_mapM_eq_ok_iff, exists_parameter_eq_ok_iff, Option.some.injEq]
      simp
  rw [← hparameters]
  unfold method
  constructor
  · rintro ⟨m, hm⟩
    obtain ⟨ps, hps, -⟩ := bind_eq_ok_iff.mp hm
    exact ⟨ps, hps⟩
  · rintro ⟨ps, hps⟩
    exact ⟨_, bind_eq_ok_iff.mpr ⟨ps, hps, rfl⟩⟩

/-- A node of a class body is read unless it defines a method with a bare parameter. -/
theorem exists_membersOf_eq_ok_iff {n : Node} :
    (∃ ms, membersOf src scope owner n = .ok ms) ↔ ∀ f, methodAt? n = some f → ¬ HasBareParameter f := by
  unfold membersOf methodAt?
  by_cases hfields : n.kind = "expression_statement"
  · simp [hfields]
  rw [if_neg hfields]
  by_cases hfunction : n.kind = "function_definition"
  · rw [if_pos hfunction, if_pos hfunction, exists_map_eq_ok_iff, exists_method_eq_ok_iff]
    simp
  rw [if_neg hfunction, if_neg hfunction]
  by_cases hdecorated : n.kind = "decorated_definition"
  · rw [if_pos hdecorated, if_pos hdecorated]
    cases (n.child? "definition").filter (·.kind = "function_definition") with
    | none => simp
    | some f =>
      rw [exists_map_eq_ok_iff, exists_method_eq_ok_iff]
      simp
  · rw [if_neg hdecorated, if_neg hdecorated]
    simp

theorem exists_declaredMembers_eq_ok_iff (src : Source) (scope : Scope) (type : TypeDecl) (c : Node) :
    (∃ ms, declaredMembers src scope type c = .ok ms) ↔ ∀ f, IsMethod c f → ¬ HasBareParameter f := by
  unfold declaredMembers members IsMethod
  cases c.child? "body" with
  | none => simp
  | some body =>
    rw [exists_map_eq_ok_iff, exists_mapM_eq_ok_iff]
    simp only [exists_membersOf_eq_ok_iff]
    constructor
    · rintro hall f ⟨_, ⟨⟩, n, hn, hf⟩
      exact hall n hn f hf
    · intro hall n hn f hf
      exact hall f ⟨body, rfl, n, hn, hf⟩

end Members

/-! ## Failures -/

section Failures

/-- **Classes agree with their kinds**: only classes have super classes, and none is an annotation. -/
theorem violation?_header (src : Source) (scope : Scope) (outer : Option String) (d : Declaration) :
    (header src scope outer d).violation? = none := by
  rw [TypeDecl.violation?_eq_none_iff]
  constructor
  · rintro ⟨hkind, hsuper⟩
    exact hsuper (if_neg hkind)
  · rintro ⟨hkind, -⟩
    change kindOf _ = _ at hkind
    unfold kindOf at hkind
    split at hkind
    · cases hkind
    · split at hkind <;> cases hkind

variable {scope : Scope} {outer : Option String} {d : Declaration}

/-- A class is found unless its members cannot be read. -/
theorem find_eq (src : Source) (scope : Scope) (outer : Option String) (d : Declaration) :
    find src scope outer d =
      match declaredMembers src scope (header src scope outer d) d.node with
      | .error _ => .error .missingChild
      | .ok ms => .ok ⟨header src scope outer d, ms⟩ := by
  have hmake : TypeDecl.make (header src scope outer d) = .ok (header src scope outer d) :=
    TypeDecl.make_eq_ok_iff.mpr ⟨violation?_header src scope outer d, rfl⟩
  cases hms : declaredMembers src scope (header src scope outer d) d.node <;> simp [find, hmake, hms]

theorem exists_find_eq_ok_iff :
    (∃ f, find src scope outer d = .ok f) ↔ ∀ f, IsMethod d.node f → ¬ HasBareParameter f := by
  rw [find_eq, ← exists_declaredMembers_eq_ok_iff src scope (header src scope outer d)]
  cases declaredMembers src scope (header src scope outer d) d.node <;> simp

theorem eq_missingChild_of_find {e : Failure} (h : find src scope outer d = .error e) : e = .missingChild := by
  rw [find_eq] at h
  cases hms : declaredMembers src scope (header src scope outer d) d.node with
  | error _ => simpa [hms, eq_comm] using h
  | ok ms => simp [hms] at h

variable {module : String}

/-- **There are types unless a method of a collected class has a bare parameter.** -/
theorem exists_details_eq_ok_iff :
    (∃ ds, (details src module root).result = .ok ds) ↔
      ∀ c f, Collected src root c → IsMethod c f → ¬ HasBareParameter f := by
  have hfound : (∃ ds, (details src module root).result = .ok ds) ↔
      ∃ fs, (found src module root).result = .ok fs :=
    exists_map_eq_ok_iff
  rw [hfound, result_found, exists_mapM_eq_ok_iff]
  constructor
  · intro hok c f hc
    obtain ⟨e, he, rfl⟩ := exists_mem_places_of_collected hc
    exact exists_find_eq_ok_iff.mp (hok e he) f
  · intro hall e he
    exact exists_find_eq_ok_iff.mpr fun f => hall e.2.node f (collected_of_mem_places he).1

theorem eq_missingChild_of_details {e : Failure} (h : (details src module root).result = .error e) :
    e = .missingChild := by
  have hfound := map_eq_error_iff.mp h
  rw [result_found] at hfound
  obtain ⟨place, -, hplace⟩ := exists_of_mapM_eq_error hfound
  exact eq_missingChild_of_find hplace

/-- The only error is over such a parameter. -/
theorem details_eq_error_iff :
    (details src module root).result = .error .missingChild ↔
      ∃ c f, Collected src root c ∧ IsMethod c f ∧ HasBareParameter f := by
  have hexcl : (details src module root).result = .error .missingChild ↔
      ¬ ∃ ds, (details src module root).result = .ok ds := by
    cases hds : (details src module root).result with
    | error e => simp [eq_missingChild_of_details hds]
    | ok ds => simp
  rw [hexcl, exists_details_eq_ok_iff]
  simp only [Classical.not_forall, Classical.not_not, exists_prop]

end Failures

end SourceOutline.Python
