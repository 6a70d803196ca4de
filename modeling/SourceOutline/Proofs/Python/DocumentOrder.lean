import SourceOutline.Proofs.Extract.Nesting
import SourceOutline.Proofs.Handler.Answers
import SourceOutline.Proofs.Python.Failures
import SourceOutline.Python.Grammar

/-!
# Python classes in document order

The types of a file are its named classes, in document order.

* `ClassAt`: the classes that a block declares, and where: directly, after decorators, or in transparent
  statements at any depth.  `Reached`: which classes are reached from the root, through bodies of named classes
  only.
* `spots`: the reached classes, each before those in its body; `mem_spots_iff`: no others.
* `places_eq`: the walk through a file visits the spots.
* `final_mem_decorators_iff`: a class is final by the decorators of its own definition.

Main statement: `classes_in_document_order`.
-/

namespace SourceOutline.Python

open Declaration Position

/-- A class definition, with the node that puts decorators before it, if there is one. -/
structure ClassSite where
  node : Node
  decorated : Option Node := none

/-- A block declares a class, at a position below it. -/
inductive ClassAt : Node → Position → ClassSite → Prop
  | plain {block c : Node} {i : Nat} :
    block.children[i]? = some c → c.kind = "class_definition" → ClassAt block [i] ⟨c, none⟩
  | decorated {block n c : Node} {i : Nat} :
    block.children[i]? = some n → n.kind = "decorated_definition" → n.child? "definition" = some c →
      c.kind = "class_definition" → ClassAt block [i, n.fieldIndex "definition"] ⟨c, some n⟩
  | within {block n : Node} {i : Nat} {p : Position} {c : ClassSite} :
    block.children[i]? = some n → isTransparent n = true → ClassAt n p c → ClassAt block (i :: p) c

/-- The named classes that are reached from the root of a file, with those around them: the ones that the file
declares, and the ones that the bodies of others declare. -/
inductive Reached (src : Source) (root : Node) : Spot ClassSite → Prop
  | top {p : Position} {c : ClassSite} :
    ClassAt root p c → (className? src c.node).isSome → Reached src root ⟨p, [], c⟩
  | nested {s : Spot ClassSite} {body : Node} {p : Position} {c : ClassSite} :
    Reached src root s → s.item.node.child? "body" = some body → ClassAt body p c →
      (className? src c.node).isSome →
        Reached src root ⟨s.position ++ s.item.node.fieldIndex "body" :: p, s.outer ++ [s.item], c⟩

/-! ## Blocks -/

section Blocks

/-- The class that a node defines, at a position below the node. -/
def siteAt? (n : Node) : Option (Position × ClassSite) :=
  if n.kind = "class_definition" then some ([], ⟨n, none⟩)
  else if n.kind = "decorated_definition" then
    ((n.child? "definition").filter (·.kind = "class_definition")).map
      fun c => ([n.fieldIndex "definition"], ⟨c, some n⟩)
  else none

/-- The classes that a block declares, with positions. -/
def placedIn (block : Node) : List (Position × ClassSite) :=
  placed (fun n : { n : Node // n ∈ block.children } =>
    match siteAt? n.1 with
    | some e => [e]
    | none => if isTransparent n.1 then placedIn n.1 else []) block.children.attach
termination_by sizeOf block
decreasing_by exact Node.sizeOf_lt_of_mem_children n.2

/-- The classes that one node of a block declares, with positions below the node. -/
def placedAt (n : Node) : List (Position × ClassSite) :=
  match siteAt? n with
  | some e => [e]
  | none => if isTransparent n then placedIn n else []

theorem placedIn_eq (block : Node) : placedIn block = placed placedAt block.children := by
  have hattach := placed_map placedAt Subtype.val block.children.attach
  rw [List.attach_map_subtype_val] at hattach
  rw [placedIn, hattach]
  rfl

theorem siteAt?_eq_some_iff {n : Node} {p : Position} {c : ClassSite} :
    siteAt? n = some (p, c) ↔
      (n.kind = "class_definition" ∧ p = [] ∧ c = ⟨n, none⟩) ∨
      (n.kind = "decorated_definition" ∧ ∃ d, n.child? "definition" = some d ∧ d.kind = "class_definition" ∧
        p = [n.fieldIndex "definition"] ∧ c = ⟨d, some n⟩) := by
  unfold siteAt?
  by_cases hclass : n.kind = "class_definition"
  · simp [hclass, eq_comm]
  rw [if_neg hclass]
  by_cases hdecorated : n.kind = "decorated_definition"
  · rw [if_pos hdecorated, Option.map_eq_some_iff]
    constructor
    · rintro ⟨d, hd, heq⟩
      obtain ⟨hdefinition, hkind⟩ := Option.filter_eq_some_iff.mp hd
      obtain ⟨rfl, rfl⟩ := Prod.mk.inj heq
      exact .inr ⟨hdecorated, d, hdefinition, of_decide_eq_true hkind, rfl, rfl⟩
    · rintro (⟨hkind, -⟩ | ⟨-, d, hdefinition, hkind, rfl, rfl⟩)
      · exact absurd hkind hclass
      · exact ⟨d, Option.filter_eq_some_iff.mpr ⟨hdefinition, decide_eq_true hkind⟩, rfl⟩
  · rw [if_neg hdecorated]
    simp [hclass, hdecorated]

/-- A transparent statement is no class. -/
theorem siteAt?_of_isTransparent {n : Node} (h : isTransparent n = true) : siteAt? n = none := by
  rw [Option.eq_none_iff_forall_ne_some]
  rintro ⟨p, c⟩ hsite
  rcases siteAt?_eq_some_iff.mp hsite with ⟨hkind, -⟩ | ⟨hkind, -⟩ <;> simp [isTransparent, hkind] at h

theorem mem_placedAt_iff {n : Node} {p : Position} {c : ClassSite} :
    (p, c) ∈ placedAt n ↔ siteAt? n = some (p, c) ∨ (isTransparent n = true ∧ (p, c) ∈ placedIn n) := by
  unfold placedAt
  by_cases htransparent : isTransparent n = true
  · simp [htransparent, siteAt?_of_isTransparent htransparent]
  · cases hsite : siteAt? n <;> simp [htransparent, eq_comm]

theorem mem_placedIn_iff {block : Node} {p : Position} {c : ClassSite} :
    (p, c) ∈ placedIn block ↔ ClassAt block p c := by
  constructor
  · intro h
    rw [placedIn_eq] at h
    obtain ⟨i, n, q, hn, rfl, hplaced⟩ := mem_placed_iff.mp h
    rcases mem_placedAt_iff.mp hplaced with hsite | ⟨htransparent, hin⟩
    · rcases siteAt?_eq_some_iff.mp hsite with ⟨hkind, rfl, rfl⟩ | ⟨hkind, d, hd, hclass, rfl, rfl⟩
      · exact .plain hn hkind
      · exact .decorated hn hkind hd hclass
    · have hlt := Node.sizeOf_lt_of_mem_children (List.mem_of_getElem? hn)
      exact .within hn htransparent (mem_placedIn_iff.mp hin)
  · intro h
    induction h with
    | plain hc hkind =>
      rw [placedIn_eq]
      have hsite := siteAt?_eq_some_iff.mpr (.inl ⟨hkind, rfl, rfl⟩)
      exact mem_placed_iff.mpr ⟨_, _, [], hc, rfl, mem_placedAt_iff.mpr (.inl hsite)⟩
    | decorated hn hkind hc hclass =>
      rw [placedIn_eq]
      have hsite := siteAt?_eq_some_iff.mpr (.inr ⟨hkind, _, hc, hclass, rfl, rfl⟩)
      exact mem_placed_iff.mpr ⟨_, _, _, hn, rfl, mem_placedAt_iff.mpr (.inl hsite)⟩
    | within hn htransparent _ ih =>
      rw [placedIn_eq]
      exact mem_placed_iff.mpr ⟨_, _, _, hn, rfl, mem_placedAt_iff.mpr (.inr ⟨htransparent, ih⟩)⟩
termination_by sizeOf block

theorem pairwise_placedIn (block : Node) : (placedIn block).Pairwise fun d e => LeftOf d.1 e.1 := by
  rw [placedIn_eq]
  refine pairwise_placed fun n hn => ?_
  unfold placedAt
  split
  · exact List.pairwise_singleton _ _
  split
  · have hlt := Node.sizeOf_lt_of_mem_children hn
    exact pairwise_placedIn n
  · exact .nil
termination_by sizeOf block

variable {block : Node} {p : Position} {c : ClassSite}

/-- The position of a class in a block is where it stands. -/
theorem ClassAt.at?_eq (h : ClassAt block p c) : block.at? p = some c.node := by
  induction h with
  | plain hc _ => simp [Node.at?, hc]
  | decorated hn _ hd _ => rw [Node.at?, hn, Option.bind_some, Node.at?_fieldIndex_cons hd, Node.at?]
  | within hn _ _ ih => rw [Node.at?, hn, Option.bind_some, ih]

end Blocks

/-! ## Classes -/

section Spots

variable (src : Source)

/-- The named classes among others. -/
def named (es : List (Position × ClassSite)) : List (Position × ClassSite) :=
  es.filter fun e => (className? src e.2.node).isSome

/-- The named classes that the body of a class declares. -/
def inBody (c : ClassSite) : List (Position × ClassSite) :=
  match c.node.child? "body" with
  | none => []
  | some body => under [c.node.fieldIndex "body"] (named src (placedIn body))

variable {src} {root : Node}

theorem mem_named_iff {es : List (Position × ClassSite)} {e : Position × ClassSite} :
    e ∈ named src es ↔ e ∈ es ∧ (className? src e.2.node).isSome := by
  rw [named, List.mem_filter]

theorem mem_inBody_iff {c d : ClassSite} {q : Position} :
    (q, d) ∈ inBody src c ↔ ∃ body p, c.node.child? "body" = some body ∧ q = c.node.fieldIndex "body" :: p ∧
      ClassAt body p d ∧ (className? src d.node).isSome := by
  unfold inBody
  cases hbody : c.node.child? "body" with
  | none => simp
  | some body => simp [mem_under_iff, mem_named_iff, mem_placedIn_iff]

theorem at?_of_mem_inBody {c d : ClassSite} {q : Position} (h : (q, d) ∈ inBody src c) :
    c.node.at? q = some d.node := by
  obtain ⟨body, p, hbody, rfl, hd, -⟩ := mem_inBody_iff.mp h
  rw [Node.at?_fieldIndex_cons hbody, hd.at?_eq]

theorem pairwise_inBody (c : ClassSite) : (inBody src c).Pairwise fun d e => LeftOf d.1 e.1 := by
  unfold inBody
  cases c.node.child? "body" with
  | none => exact .nil
  | some body => exact pairwise_under ((pairwise_placedIn body).filter _) _

variable (src)

/-- Named classes in the bodies of others. -/
def nesting : Nesting ClassSite where
  below := inBody src
  wellFounded := by
    refine Subrelation.wf (fun {d c} h => ?_) (measure fun c : ClassSite => sizeOf c.node).wf
    obtain ⟨q, hq⟩ := h
    obtain ⟨_, p, -, rfl, -⟩ := mem_inBody_iff.mp hq
    exact Node.sizeOf_lt_of_at? (at?_of_mem_inBody hq)
  ne_nil h := by
    obtain ⟨_, p, -, hp, -⟩ := mem_inBody_iff.mp h
    simp [hp]
  pairwise := pairwise_inBody

/-- The classes that are reached from the root of a file, in document order. -/
def spots (root : Node) : List (Spot ClassSite) :=
  (nesting src).spots (named src (placedIn root))

variable {src}

/-- **The spots are the reached classes.** -/
theorem mem_spots_iff {s : Spot ClassSite} : s ∈ spots src root ↔ Reached src root s := by
  constructor
  · refine Nesting.spots_induction (P := Reached src root) (fun e he => ?_) (fun s hs e he => ?_) s
    · obtain ⟨hmem, hname⟩ := mem_named_iff.mp he
      exact .top (mem_placedIn_iff.mp hmem) hname
    · obtain ⟨body, p, hbody, hp, hclass, hname⟩ := mem_inBody_iff.mp he
      rw [hp]
      exact .nested hs hbody hclass hname
  · intro hs
    induction hs with
    | top hclass hname => exact Nesting.mem_spots_top (mem_named_iff.mpr ⟨mem_placedIn_iff.mpr hclass, hname⟩)
    | nested _ hbody hclass hname ih =>
      exact Nesting.mem_spots_nested (N := nesting src) ih (mem_inBody_iff.mpr ⟨_, _, hbody, rfl, hclass, hname⟩)

theorem pairwise_top (root : Node) : (named src (placedIn root)).Pairwise fun d e => LeftOf d.1 e.1 :=
  (pairwise_placedIn root).filter _

theorem Reached.named {s : Spot ClassSite} (h : Reached src root s) : (className? src s.item.node).isSome := by
  cases h <;> assumption

/-- The position of a reached class is where it stands. -/
theorem Reached.at?_eq {s : Spot ClassSite} (h : Reached src root s) : root.at? s.position = some s.item.node := by
  induction h with
  | top hclass _ => exact hclass.at?_eq
  | nested _ hbody hclass _ ih =>
    rw [Node.at?_append, ih, Option.bind_some, Node.at?_fieldIndex_cons hbody, hclass.at?_eq]

end Spots

/-! ## The walk -/

section Walk

variable (src : Source)

/-- The decorators of a class. -/
def ClassSite.decorators (c : ClassSite) : List String :=
  c.decorated.elim [] (decoratorNames src)

/-- The name of a class. -/
def declaredName (c : ClassSite) : String :=
  (className? src c.node).getD ""

/-- The declaration of a named class. -/
def declarationOf (c : ClassSite) : Declaration where
  node := c.node
  name := declaredName src c
  decorators := c.decorators src
  nested := nestedIn src c.node

variable {src} {root : Node}

theorem classAt?_eq (n : Node) :
    classAt? src n = (siteAt? n).map fun e => (e.2.node, e.2.decorators src) := by
  unfold classAt? siteAt?
  split
  · rfl
  split
  · cases (n.child? "definition").filter (·.kind = "class_definition") <;> rfl
  · rfl

theorem map_named (es : List (Position × ClassSite)) :
    (named src es).map (fun e => declarationOf src e.2) =
      ((es.map Prod.snd).filter fun c => (className? src c.node).isSome).map (declarationOf src) := by
  rw [named, List.filter_map, List.map_map]
  rfl

/-- The declarations of a block are those of its named classes. -/
theorem classesIn_eq_map (block : Node) :
    classesIn src block = (named src (placedIn block)).map fun e => declarationOf src e.2 := by
  rw [classesIn_eq, map_named, placedIn_eq, map_snd_placed, List.filter_flatMap, List.map_flatMap]
  refine List.flatMap_congr fun n hn => ?_
  rw [← map_named]
  unfold declarationsAt placedAt
  rw [classAt?_eq]
  cases siteAt? n with
  | none =>
    by_cases htransparent : isTransparent n = true
    · have hlt := Node.sizeOf_lt_of_mem_children hn
      have ih := classesIn_eq_map n
      simp [htransparent, ih]
    · simp [htransparent, named]
  | some e =>
    cases hname : className? src e.2.node <;> simp [named, hname, declarationOf, declaredName]
termination_by sizeOf block

theorem nested_declarationOf (c : ClassSite) :
    (declarationOf src c).nested = ((nesting src).below c).map fun e => declarationOf src e.2 := by
  show nestedIn src c.node = (inBody src c).map _
  unfold nestedIn inBody
  cases c.node.child? "body" with
  | none => rfl
  | some body =>
    dsimp only
    rw [classesIn_eq_map, under, List.map_map]
    rfl

/-- **The walk through a file visits the spots.** -/
theorem places_eq (root : Node) :
    places src root =
      (spots src root).map fun s =>
        ((s.outer.map (declarationOf src)).foldl within none, declarationOf src s.item) := by
  rw [places, declarations, classesIn_eq_map, Nesting.walkAll_eq nested_declarationOf]
  rfl

end Walk

/-! ## The types of a file -/

section Details

variable {src : Source} {module : String} {root : Node}

/-- A decorator of a definition ends in `final`, without the arguments of a call. -/
def HasFinalDecorator (src : Source) (n : Node) : Prop :=
  ∃ d ∈ n.children, d.kind = "decorator" ∧ ∃ e, d.namedChildren.head? = some e ∧
    Dotted.last (src.text (if e.kind = "call" then (e.child? "function").getD e else e)) = "final"

/-- A type with its members is that of a class: it has the module as its package, the names on the path to the
class with dots between them, and it is final if a decorator of the class says so. -/
structure Describes (src : Source) (module : String) (s : Spot ClassSite) (d : TypeDetails) : Prop where
  package : d.type.package.name = module
  name : d.type.name = ".".intercalate ((s.outer ++ [s.item]).map (declaredName src))
  final : d.type.modifiers.isFinal = true ↔ ∃ n, s.item.decorated = some n ∧ HasFinalDecorator src n

theorem final_mem_decoratorNames_iff {n : Node} : "final" ∈ decoratorNames src n ↔ HasFinalDecorator src n := by
  simp [decoratorNames, HasFinalDecorator, and_assoc]

theorem final_mem_decorators_iff {c : ClassSite} :
    "final" ∈ c.decorators src ↔ ∃ n, c.decorated = some n ∧ HasFinalDecorator src n := by
  unfold ClassSite.decorators
  cases c.decorated with
  | none => simp
  | some n => simp [final_mem_decoratorNames_iff]

theorem describes_of_foundAt {scope : Scope} (hscope : scope.package = module) {s : Spot ClassSite} {f : Found}
    (h : foundAt src scope ((s.outer.map (declarationOf src)).foldl within none, declarationOf src s.item) =
      .ok f) : Describes src module s ⟨f.type, .ofList f.members⟩ := by
  obtain ⟨htype, -⟩ := of_foundAt_eq_ok h
  refine ⟨?_, ?_, ?_⟩ <;> dsimp only <;> rw [htype]
  · exact hscope
  · show nest ((s.outer.map (declarationOf src)).foldl within none) (declaredName src s.item) = _
    rw [nest_foldl_within, List.map_map, List.map_append]
    rfl
  · show decide ("final" ∈ s.item.decorators src) = true ↔ _
    rw [decide_eq_true_iff, final_mem_decorators_iff]

/-- The types of a file are those of its spots, one for one. -/
theorem forall₂_describes {ds : List TypeDetails} (h : (details src module root).result = .ok ds) :
    List.Forall₂ (Describes src module) (spots src root) ds := by
  obtain ⟨fs, hfound, rfl⟩ := map_eq_ok_iff.mp h
  change (found src module root).result = .ok fs at hfound
  rw [result_found, places_eq] at hfound
  have hone := List.forall₂_map_left_iff.mp (forall₂_of_mapM_eq_ok hfound)
  exact List.forall₂_map_right_iff.mpr (hone.imp fun s f hf => describes_of_foundAt rfl hf)

/-- **The types of a file are the reached classes in document order**, each one once, with the package, name and
finality of the class.  What is nested in a class follows it in one block. -/
theorem classes_in_document_order {ds : List TypeDetails}
    (h : ((Handler.python module).detailsIn src root).result = .ok ds) :
    (∀ s, s ∈ spots src root ↔ Reached src root s) ∧
    (∀ s ∈ spots src root, root.at? s.position = some s.item.node) ∧
    (spots src root).Pairwise (fun s t => s.position < t.position) ∧
    List.Forall₂ (Describes src module) (spots src root) ds ∧
    (∀ e ∈ (spots src root).zip ds, ∃ before block after,
      (spots src root).zip ds = before ++ e :: (block ++ after) ∧
        (∀ e' ∈ block, e.1.Encloses e'.1) ∧ ∀ e' ∈ before ++ after, ¬ e.1.Encloses e'.1) := by
  have hone := forall₂_describes (Handler.of_result_detailsIn_eq_ok h).2
  have hzip : ((spots src root).zip ds).map Prod.fst = spots src root :=
    List.map_fst_zip (Nat.le_of_eq hone.length_eq)
  exact ⟨fun _ => mem_spots_iff, fun s hs => (mem_spots_iff.mp hs).at?_eq,
    Nesting.pairwise_spots (pairwise_top root), hone,
    fun e he => Nesting.exists_block_of_map_eq hzip (pairwise_top root) he⟩

/-- Classes after decorators, in transparent statements, in a class and in a function. -/
def nestedClassesCode : String :=
  "@final\nclass A:\n if x:\n  class B: pass\n def f():\n  class L: pass\n" ++
  "try:\n @z.final()\n class C: pass\nfinally: pass\n"

theorem spots_of_nested_classes :
    let src := Source.ofString nestedClassesCode
    let root := parse nestedClassesCode
    ∃ ds, ((Handler.python "m").detailsIn src root).result = .ok ds ∧
      ds.map (fun d => (d.type.name, d.type.modifiers.isFinal)) =
        [("A", true), ("A.B", false), ("C", true)] ∧
      List.Forall₂ (Describes src "m") (spots src root) ds := by
  intro src root
  have hgiven : ((Handler.python "m").detailsIn src root).result.toOption.any
      (fun ds => ds.map (fun d => (d.type.name, d.type.modifiers.isFinal)) =
        [("A", true), ("A.B", false), ("C", true)]) = true := by
    decide +kernel
  obtain ⟨ds, hds, hclasses⟩ := exists_eq_ok_of_any hgiven
  obtain ⟨-, -, -, hone, -⟩ := classes_in_document_order hds
  exact ⟨ds, hds, of_decide_eq_true hclasses, hone⟩

end Details

end SourceOutline.Python
