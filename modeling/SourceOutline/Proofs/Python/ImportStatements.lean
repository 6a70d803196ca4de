import Mathlib.Data.List.Perm.Basic
import SourceOutline.Proofs.Handler.Answers
import SourceOutline.Proofs.Syntax.Positions
import SourceOutline.Proofs.Syntax.Shape
import SourceOutline.Python.Grammar

/-!
# The import statements of a Python file

The walk for imports does not enter a node without named children.  Where keywords and signs are leaves, it still
comes to every import statement that does not stand inside another one, and to each of them once.

* `OutermostImport`: where such a statement stands below the root.
* `importSites` lists them in document order; `mem_importSites_iff`: no others.
* `statementValues`: what a statement imports; `statementBindings?_values`: that is what it binds.
* `bindings_eq`: what is not entered binds nothing.

Main statement: `imports_of_statements`.
-/

namespace SourceOutline.Python

open Position

/-- The node is an import statement. -/
def isImport (n : Node) : Bool :=
  n.kind ∈ ["import_statement", "import_from_statement", "future_import_statement"]

/-- An import statement below the root, inside no other one. -/
structure OutermostImport (root : Node) (p : Position) (s : Node) : Prop where
  at?_eq : root.at? p = some s
  isImport : isImport s = true
  below : p ≠ []
  outermost : ∀ q r, p = q ++ r → q ≠ [] → r ≠ [] → ∀ m, root.at? q = some m → Python.isImport m = false

/-! ## Where import statements stand -/

section Sites

/-- The import statements below a node that stand inside no other one, with positions. -/
def importSites (n : Node) : List (Position × Node) :=
  placed (fun c : { c : Node // c ∈ n.children } => if isImport c.1 then [([], c.1)] else importSites c.1)
    n.children.attach
termination_by sizeOf n
decreasing_by exact Node.sizeOf_lt_of_mem_children c.2

/-- The import statement that a node is, or else those below it. -/
def importSitesAt (n : Node) : List (Position × Node) :=
  if isImport n then [([], n)] else importSites n

theorem importSites_eq (n : Node) : importSites n = placed importSitesAt n.children := by
  have hattach := placed_map importSitesAt Subtype.val n.children.attach
  rw [List.attach_map_subtype_val] at hattach
  rw [importSites, hattach]
  rfl

theorem mem_importSites_iff {n : Node} {p : Position} {s : Node} :
    (p, s) ∈ importSites n ↔ OutermostImport n p s := by
  rw [importSites_eq, mem_placed_iff]
  constructor
  · rintro ⟨i, c, q, hc, rfl, hq⟩
    have hat : ∀ q, n.at? (i :: q) = c.at? q := fun q => by rw [Node.at?, hc, Option.bind_some]
    unfold importSitesAt at hq
    split at hq
    · rename_i hkind
      obtain ⟨rfl, rfl⟩ := Prod.mk.inj (List.mem_singleton.mp hq)
      refine ⟨hat [], hkind, by simp, fun q r hqr hq hr => ?_⟩
      -- there is nothing between the root and its child
      have hlength := congrArg List.length hqr
      have hqlength := List.length_pos_of_ne_nil hq
      have hrlength := List.length_pos_of_ne_nil hr
      simp only [List.length_singleton, List.length_append] at hlength
      omega
    · rename_i hkind
      have hlt := Node.sizeOf_lt_of_mem_children (List.mem_of_getElem? hc)
      have hs : OutermostImport c q s := mem_importSites_iff.mp hq
      refine ⟨(hat q).trans hs.at?_eq, hs.isImport, by simp, fun q' r hqr hq' hr m hm => ?_⟩
      cases q' with
      | nil => exact absurd rfl hq'
      | cons j q' =>
        obtain ⟨rfl, rfl⟩ := List.cons.inj hqr
        rw [hat] at hm
        cases q' with
        | nil =>
          cases hm
          exact Bool.eq_false_iff.mpr hkind
        | cons j' q' => exact hs.outermost _ r rfl (by simp) hr m hm
  · intro hs
    cases p with
    | nil => exact absurd rfl hs.below
    | cons i q =>
      obtain ⟨c, hc, hq⟩ := Option.bind_eq_some_iff.mp hs.at?_eq
      have hat : ∀ q, n.at? (i :: q) = c.at? q := fun q => by rw [Node.at?, hc, Option.bind_some]
      refine ⟨i, c, q, hc, rfl, ?_⟩
      unfold importSitesAt
      cases q with
      | nil =>
        cases hq
        rw [if_pos hs.isImport]
        exact List.mem_singleton_self _
      | cons j q =>
        have hkind : isImport c = false := hs.outermost [i] (j :: q) rfl (by simp) (by simp) c (hat [])
        rw [if_neg (by rw [hkind]; exact Bool.false_ne_true)]
        have hlt := Node.sizeOf_lt_of_mem_children (List.mem_of_getElem? hc)
        refine mem_importSites_iff.mpr ⟨hq, hs.isImport, by simp, fun q' r hqr hq' hr m hm => ?_⟩
        exact hs.outermost (i :: q') r (by rw [hqr]; rfl) (by simp) hr m ((hat q').trans hm)
termination_by sizeOf n

theorem pairwise_importSites (n : Node) : (importSites n).Pairwise fun d e => LeftOf d.1 e.1 := by
  rw [importSites_eq]
  refine pairwise_placed fun c hc => ?_
  unfold importSitesAt
  split
  · exact List.pairwise_singleton _ _
  · have hlt := Node.sizeOf_lt_of_mem_children hc
    exact pairwise_importSites c
termination_by sizeOf n

end Sites

/-! ## What a statement imports -/

section Values

variable (src : Source)

/-- The module that the names of a statement are taken from; whole modules are taken from none. -/
def sourceModule (s : Node) : String :=
  if s.kind = "import_statement" then ""
  else if s.kind = "future_import_statement" then "__future__"
  else String.ofList (Text.squeeze ((src.fieldText? s "module_name").getD "").toList)

/-- A name and the module it is taken from, with a dot between them if there is none and the module has a name. -/
def memberOf (module name : String) : String :=
  if module = "" ∨ module.toList.getLast? = some '.' then module ++ name else module ++ "." ++ name

/-- The name that is imported; what it is called from then on does not matter. -/
def importedName (c : Node) : String :=
  if c.kind = "aliased_import" then (src.fieldText? c "name").getD "" else src.text c

/-- The star among the children of a statement that takes names from a module. -/
def starValues (s c : Node) : List String :=
  if s.kind ≠ "import_statement" ∧ c.kind = "wildcard_import" then [memberOf (sourceModule src s) "*"] else []

/-- The name that a child of a statement imports. -/
def nameValues (s c : Node) : List String :=
  if c.field = some "name" then [memberOf (sourceModule src s) (importedName src c)] else []

/-- What a statement imports, stars before names. -/
def statementValues (s : Node) : List String :=
  s.children.flatMap (starValues src s) ++ s.children.flatMap (nameValues src s)

/-- No star follows a name. -/
def StarsFirst (s : Node) : Prop :=
  s.children.Pairwise fun a b => a.field = some "name" → b.kind ≠ "wildcard_import"

variable {src}

theorem qualify_eq_memberOf (module name : String) : qualify module name = memberOf module name := by
  unfold qualify memberOf
  by_cases hempty : module = ""
  · simp [hempty]
  · simp [hempty]

theorem flatMap_ite_eq_map_filter {α β : Type} (p : α → Bool) (f : α → β) (as : List α) :
    (as.flatMap fun a => if p a then [f a] else []) = (as.filter p).map f := by
  induction as with
  | nil => rfl
  | cons a as ih =>
    rw [List.flatMap_cons, ih]
    cases hp : p a <;> simp [hp]

theorem flatMap_nameValues (s : Node) :
    s.children.flatMap (nameValues src s) =
      (s.childrenBy "name").map fun c => memberOf (sourceModule src s) (importedName src c) := by
  rw [Node.childrenBy, ← flatMap_ite_eq_map_filter]
  exact List.flatMap_congr fun c _ => by simp [nameValues]

/-- A statement binds what it imports. -/
theorem statementBindings?_values (s : Node) :
    (statementBindings? src s).map (List.map Binding.value) =
      if isImport s then some (statementValues src s) else none := by
  unfold statementBindings?
  by_cases hplain : s.kind = "import_statement"
  · have hmodule : sourceModule src s = "" := if_pos hplain
    have hnostar : s.children.flatMap (starValues src s) = [] :=
      List.flatMap_eq_nil_iff.mpr fun c _ => if_neg fun h => h.1 hplain
    rw [if_pos hplain, if_pos (by simp [isImport, hplain]), statementValues, hnostar, flatMap_nameValues, hmodule,
      Option.map_some, List.map_map, List.nil_append]
    refine congrArg some (List.map_congr_left fun c _ => ?_)
    by_cases haliased : c.kind = "aliased_import"
    · simp [plainBinding, aliased, importedName, memberOf, fieldText, haliased]
    · simp [plainBinding, aliased, importedName, memberOf, haliased]
  rw [if_neg hplain]
  by_cases hfrom : s.kind = "import_from_statement" ∨ s.kind = "future_import_statement"
  · have hmodule : moduleName src s = sourceModule src s := by
      rw [sourceModule, if_neg hplain]
      rfl
    have hstars : s.children.flatMap (starValues src s) =
        (s.children.filter (·.kind == "wildcard_import")).map fun _ => memberOf (sourceModule src s) "*" := by
      rw [← flatMap_ite_eq_map_filter]
      exact List.flatMap_congr fun c _ => by simp [starValues, hplain]
    have himport : isImport s = true := by
      rcases hfrom with h | h <;> simp [isImport, h]
    rw [if_pos hfrom, if_pos himport, statementValues, hstars, flatMap_nameValues, ← hmodule, Option.map_some,
      fromBindings, List.map_append, List.map_map, List.map_map]
    refine congrArg some
      (congrArg₂ (· ++ ·) (List.map_congr_left fun c _ => ?_) (List.map_congr_left fun c _ => ?_))
    · exact qualify_eq_memberOf _ _
    · by_cases haliased : c.kind = "aliased_import"
      · simp [aliased, importedName, qualify_eq_memberOf, fieldText, haliased]
      · simp [aliased, importedName, qualify_eq_memberOf, haliased]
  · rw [if_neg hfrom, if_neg (by simpa [isImport, hplain] using hfrom)]
    rfl

theorem flatMap_append_of_pairwise {α β : Type} {f g : α → List β} {as : List α}
    (h : as.Pairwise fun a b => g a = [] ∨ f b = []) :
    as.flatMap f ++ as.flatMap g = as.flatMap fun a => f a ++ g a := by
  induction as with
  | nil => rfl
  | cons a as ih =>
    obtain ⟨ha, has⟩ := List.pairwise_cons.mp h
    rw [List.flatMap_cons, List.flatMap_cons, List.flatMap_cons, ← ih has]
    by_cases hg : g a = []
    · simp [hg]
    · have hf : as.flatMap f = [] := List.flatMap_eq_nil_iff.mpr fun b hb => (ha b hb).resolve_left hg
      simp [hf]

theorem statementValues_of_starsFirst {s : Node} (h : StarsFirst s) :
    statementValues src s = s.children.flatMap fun c => starValues src s c ++ nameValues src s c := by
  refine flatMap_append_of_pairwise (h.imp fun {a b} hab => ?_)
  by_cases hname : a.field = some "name"
  · exact .inr (if_neg fun hb => hab hname hb.2)
  · exact .inl (if_neg hname)

end Values

/-! ## The walk -/

section Walk

variable {src : Source}

theorem bindingsIn_eq_flatMap (src : Source) (ns : List Node) : bindingsIn src ns = ns.flatMap (bindings src) := by
  induction ns with
  | nil => rfl
  | cons n ns ih => rw [bindingsIn, ih, List.flatMap_cons]

theorem bindings_eq_ite (src : Source) (n : Node) :
    bindings src n = match statementBindings? src n with
      | some bs => bs
      | none => if n.children.any Node.named then n.children.flatMap (bindings src) else [] := by
  obtain ⟨kind, start, stop, field, named, missing, flagged, children⟩ := n
  cases hs : statementBindings? src ⟨kind, start, stop, field, named, missing, flagged, children⟩ with
  | some bs => simp only [bindings, hs]
  | none => simp only [bindings, bindingsIn_eq_flatMap, hs]

/-- A leaf binds nothing, whatever it is called. -/
theorem bindings_of_leaf {n : Node} (h : n.children = []) : bindings src n = [] := by
  rw [bindings_eq_ite]
  unfold statementBindings?
  split
  · rename_i bs hbs
    split_ifs at hbs with hplain hfrom
    · simpa [Node.childrenBy, h] using hbs.symm
    · simpa [fromBindings, Node.childrenBy, h] using hbs.symm
  · simp [h]

theorem bindings_eq (n : Node) (hleaf : ∀ m ∈ n.preorder, m.named = false → m.children = []) :
    (bindings src n).map Binding.value = (importSitesAt n).flatMap fun e => statementValues src e.2 := by
  rw [bindings_eq_ite, importSitesAt]
  have hvalues := @statementBindings?_values src n
  by_cases himport : isImport n = true
  · rw [if_pos himport] at hvalues
    obtain ⟨bs, hbs, hmap⟩ := Option.map_eq_some_iff.mp hvalues
    rw [if_pos himport, hbs, List.flatMap_singleton]
    exact hmap
  rw [if_neg himport] at hvalues
  rw [if_neg himport, Option.map_eq_none_iff.mp hvalues, importSites_eq]
  have hchildren : (n.children.flatMap (bindings src)).map Binding.value =
      (placed importSitesAt n.children).flatMap fun e => statementValues src e.2 := by
    have hsnd := List.flatMap_map Prod.snd (statementValues src) (placed importSitesAt n.children)
    rw [← hsnd, map_snd_placed, List.map_flatMap, List.flatMap_assoc]
    refine List.flatMap_congr fun c hc => ?_
    have hlt := Node.sizeOf_lt_of_mem_children hc
    rw [bindings_eq c fun m hm => hleaf m (Syntax.mem_preorder_iff.mpr (.inr ⟨c, hc, hm⟩)), List.flatMap_map]
  rw [← hchildren]
  split_ifs with hany
  · rfl
  -- no child is named, so all of them are leaves
  · have hnone : n.children.flatMap (bindings src) = [] := by
      refine List.flatMap_eq_nil_iff.mpr fun c hc => bindings_of_leaf ?_
      have hnamed : c.named = false := by
        rw [List.any_eq_true] at hany
        exact Bool.eq_false_iff.mpr fun h => hany ⟨c, hc, h⟩
      exact hleaf c (Syntax.mem_preorder_iff.mpr (.inr ⟨c, hc, Syntax.mem_preorder_iff.mpr (.inl rfl)⟩)) hnamed
    rw [hnone]
termination_by sizeOf n

theorem fileBindings_values {root : Node} (hleaf : ∀ m ∈ root.preorder, m.named = false → m.children = []) :
    (fileBindings src root).map Binding.value = (importSites root).flatMap fun e => statementValues src e.2 := by
  have hsnd := List.flatMap_map Prod.snd (statementValues src) (placed importSitesAt root.children)
  rw [importSites_eq, ← hsnd, map_snd_placed, List.flatMap_assoc, fileBindings, bindingsIn_eq_flatMap,
    List.map_flatMap]
  refine List.flatMap_congr fun c hc => ?_
  rw [bindings_eq c fun m hm => hleaf m (Syntax.mem_preorder_iff.mpr (.inr ⟨c, hc, hm⟩)), List.flatMap_map]

end Walk

/-- **No import is lost, repeated or moved**: where keywords and signs are leaves, the imports of a file are
those of its outermost import statements at any depth, statement by statement in document order.  Those of one
statement are its stars and then its names, which is the order of its children as long as no star follows a
name. -/
theorem imports_of_statements {module : String} {src : Source} {root : Node} (hok : root.hasError = false)
    (hleaf : ∀ m ∈ root.preorder, m.named = false → m.children = []) :
    ((Handler.python module).importsIn src root).result =
      .ok ((importSites root).flatMap fun e => (statementValues src e.2).map Import.mk) ∧
    (∀ p s, (p, s) ∈ importSites root ↔ OutermostImport root p s) ∧
    ((importSites root).map Prod.fst).Pairwise (· < ·) ∧
    (∀ s, (statementValues src s).Perm (s.children.flatMap fun c => starValues src s c ++ nameValues src s c)) ∧
    ∀ s, StarsFirst s →
      statementValues src s = s.children.flatMap fun c => starValues src s c ++ nameValues src s c := by
  refine ⟨?_, fun p s => mem_importSites_iff, ?_, fun s => List.flatMap_append_perm _ _ _,
    fun s => statementValues_of_starsFirst⟩
  · have hvalues := congrArg (List.map Import.mk) (@fileBindings_values src root hleaf)
    rw [List.map_flatMap, List.map_map] at hvalues
    rw [Handler.result_importsIn, hok, if_neg Bool.false_ne_true]
    exact congrArg Except.ok hvalues
  · exact List.pairwise_map.mpr ((pairwise_importSites root).imp lt_of_leftOf)

/-- Imports in a function and at the top, with aliases, a star and a relative module. -/
def scatteredCode : String :=
  "def f():\n  from . import a as b\n  from m . n import *\nimport c.d, e as g\n"

theorem imports_of_scattered :
    let src := Source.ofString scatteredCode
    let root := parse scatteredCode
    root.hasError = false ∧ (∀ m ∈ root.preorder, m.named = false → m.children = []) ∧
      ((Handler.python "").importsIn src root).result = .ok [⟨".a"⟩, ⟨"m.n.*"⟩, ⟨"c.d"⟩, ⟨"e"⟩] ∧
      ∃ p s, OutermostImport root p s ∧ 1 < p.length := by
  intro src root
  have heval : root.hasError = false ∧ (∀ m ∈ root.preorder, m.named = false → m.children = []) ∧
      ((importSites root).flatMap fun e => (statementValues src e.2).map Import.mk) =
        [⟨".a"⟩, ⟨"m.n.*"⟩, ⟨"c.d"⟩, ⟨"e"⟩] ∧
      ∃ e ∈ importSites root, 1 < e.1.length := by
    decide +kernel
  obtain ⟨hok, hleaf, hvalues, e, he, hdeep⟩ := heval
  obtain ⟨himports, hsites, -⟩ := @imports_of_statements "" src root hok hleaf
  exact ⟨hok, hleaf, himports.trans (congrArg Except.ok hvalues), e.1, e.2, (hsites e.1 e.2).mp he, hdeep⟩

end SourceOutline.Python
