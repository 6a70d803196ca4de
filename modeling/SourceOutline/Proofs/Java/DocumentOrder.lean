import SourceOutline.Java.Grammar
import SourceOutline.Proofs.Extract.Nesting
import SourceOutline.Proofs.Handler.Answers
import SourceOutline.Proofs.Java.Failures

/-!
# Java types in document order

The types of a file are its named declarations, in document order.

* `InBody`: what stands in the body of a declaration, and where; `Reached`: which declarations are reached
  from the root, through bodies of named declarations only.
* `spots`: the reached declarations, each before those in its body; `mem_spots_iff`: no others.
* `places_eq`: the walk through a file visits the spots; the scope and the name at a spot come from the
  declarations around it (`scope_surroundings`, `name_surroundings`).

Main statement: `details_in_document_order`.
-/

namespace SourceOutline.Java

open Declaration Position

/-- A node declares a type, under a name. -/
def Declares (src : Source) (n : Node) : Prop :=
  (declaredKind? n).isSome ∧ (declaredName? src n).isSome

instance (src : Source) (n : Node) : Decidable (Declares src n) :=
  inferInstanceAs (Decidable (_ ∧ _))

/-- A node stands in the body of a declaration, at a position below it: among the children of the body, or
among those of a group of declarations after the constants of an enum. -/
inductive InBody (n : Node) : Position → Node → Prop
  | direct {body c : Node} {i : Nat} :
    n.child? "body" = some body → body.children[i]? = some c → c.kind ≠ "enum_body_declarations" →
      InBody n [n.fieldIndex "body", i] c
  | grouped {body c m : Node} {i j : Nat} :
    n.child? "body" = some body → body.children[i]? = some c → c.kind = "enum_body_declarations" →
      c.children[j]? = some m → InBody n [n.fieldIndex "body", i, j] m

/-- The named declarations that are reached from the root of a file, with those around them: the ones at the
top, and the ones in the bodies of others. -/
inductive Reached (src : Source) (root : Node) : Spot Node → Prop
  | top {n : Node} {i : Nat} : root.children[i]? = some n → Declares src n → Reached src root ⟨[i], [], n⟩
  | nested {s : Spot Node} {p : Position} {n : Node} :
    Reached src root s → InBody s.item p n → Declares src n →
      Reached src root ⟨s.position ++ p, s.outer ++ [s.item], n⟩

/-! ## Bodies -/

section Bodies

variable {n m : Node} {p : Position}

theorem InBody.ne_nil (h : InBody n p m) : p ≠ [] := by
  cases h <;> simp

/-- The position of a node in a body is where it stands. -/
theorem InBody.at?_eq (h : InBody n p m) : n.at? p = some m := by
  cases h with
  | direct hbody hc _ =>
    rw [Node.at?_fieldIndex_cons hbody]
    simp [Node.at?, hc]
  | grouped hbody hc _ hm =>
    rw [Node.at?_fieldIndex_cons hbody]
    simp [Node.at?, hc, hm]

/-- What one child of a body stands for: itself, or what it groups. -/
def ungroup (c : Node) : List (Position × Node) :=
  if c.kind = "enum_body_declarations" then numbered c.children else [([], c)]

/-- What stands in the body of a declaration, with positions. -/
def placedMembers (n : Node) : List (Position × Node) :=
  match n.child? "body" with
  | none => []
  | some body => under [n.fieldIndex "body"] (placed ungroup body.children)

theorem map_snd_placedMembers (n : Node) : (placedMembers n).map Prod.snd = bodyMembers n := by
  unfold placedMembers bodyMembers
  cases n.child? "body" with
  | none => rfl
  | some body =>
    dsimp only
    rw [map_snd_under, map_snd_placed]
    congr 1
    funext c
    rw [ungroup]
    split
    · exact map_snd_numbered c.children
    · rfl

theorem mem_ungroup_iff {c : Node} :
    (p, m) ∈ ungroup c ↔ (c.kind ≠ "enum_body_declarations" ∧ p = [] ∧ m = c) ∨
      (c.kind = "enum_body_declarations" ∧ ∃ j, p = [j] ∧ c.children[j]? = some m) := by
  unfold ungroup
  split <;> simp [mem_numbered_iff, *]

theorem mem_placedMembers_iff : (p, m) ∈ placedMembers n ↔ InBody n p m := by
  constructor
  · intro h
    unfold placedMembers at h
    split at h
    · simp at h
    rename_i body hbody
    obtain ⟨_, rfl, hplaced⟩ := mem_under_iff.mp h
    obtain ⟨i, c, _, hc, rfl, hm⟩ := mem_placed_iff.mp hplaced
    rcases mem_ungroup_iff.mp hm with ⟨hkind, rfl, rfl⟩ | ⟨hkind, j, rfl, hj⟩
    · exact .direct hbody hc hkind
    · exact .grouped hbody hc hkind hj
  · have hplaced : ∀ {body c : Node} {i : Nat} {q : Position}, n.child? "body" = some body →
        body.children[i]? = some c → (q, m) ∈ ungroup c →
          (n.fieldIndex "body" :: i :: q, m) ∈ placedMembers n := by
      intro body c i q hbody hc hm
      rw [placedMembers, hbody]
      exact mem_under_iff.mpr ⟨i :: q, rfl, mem_placed_iff.mpr ⟨i, c, q, hc, rfl, hm⟩⟩
    intro h
    cases h with
    | direct hbody hc hkind => exact hplaced hbody hc (mem_ungroup_iff.mpr (.inl ⟨hkind, rfl, rfl⟩))
    | grouped hbody hc hkind hm => exact hplaced hbody hc (mem_ungroup_iff.mpr (.inr ⟨hkind, _, rfl, hm⟩))

theorem mem_bodyMembers_iff : m ∈ bodyMembers n ↔ ∃ p, InBody n p m := by
  rw [← map_snd_placedMembers]
  simp [mem_placedMembers_iff]

theorem pairwise_placedMembers (n : Node) : (placedMembers n).Pairwise fun d e => LeftOf d.1 e.1 := by
  unfold placedMembers
  cases n.child? "body" with
  | none => exact .nil
  | some body =>
    refine pairwise_under (pairwise_placed fun c _ => ?_) _
    unfold ungroup
    split
    · exact pairwise_numbered c.children
    · exact List.pairwise_singleton _ _

end Bodies

/-! ## Declarations -/

section Spots

variable (src : Source)

/-- The named declarations among placed nodes. -/
def declared (es : List (Position × Node)) : List (Position × Node) :=
  es.filter fun e => Declares src e.2

/-- Named declarations in the bodies of others. -/
def nesting : Nesting Node where
  below n := declared src (placedMembers n)
  wellFounded := by
    refine Subrelation.wf (fun {m n} h => ?_) (measure sizeOf).wf
    obtain ⟨p, hm⟩ := h
    exact sizeOf_lt_of_mem_bodyMembers
      (mem_bodyMembers_iff.mpr ⟨p, mem_placedMembers_iff.mp (List.mem_filter.mp hm).1⟩)
  ne_nil he := (mem_placedMembers_iff.mp (List.mem_filter.mp he).1).ne_nil
  pairwise n := (pairwise_placedMembers n).filter _

/-- The declarations that are reached from the root of a file, in document order. -/
def spots (root : Node) : List (Spot Node) :=
  (nesting src).spots (declared src (numbered root.children))

variable {src} {root : Node}

theorem mem_declared_iff {es : List (Position × Node)} {e : Position × Node} :
    e ∈ declared src es ↔ e ∈ es ∧ Declares src e.2 := by
  simp [declared]

theorem pairwise_declared {es : List (Position × Node)} (h : es.Pairwise fun d e => LeftOf d.1 e.1) :
    (declared src es).Pairwise fun d e => LeftOf d.1 e.1 :=
  h.filter _

/-- **The spots are the reached declarations.** -/
theorem mem_spots_iff {s : Spot Node} : s ∈ spots src root ↔ Reached src root s := by
  constructor
  · refine Nesting.spots_induction (P := Reached src root) (fun e he => ?_) (fun s hs e he => ?_) s
    · obtain ⟨hmem, hdeclares⟩ := mem_declared_iff.mp he
      obtain ⟨i, hposition, hi⟩ := mem_numbered_iff.mp hmem
      rw [hposition]
      exact .top hi hdeclares
    · obtain ⟨hmem, hdeclares⟩ := mem_declared_iff.mp he
      exact .nested hs (mem_placedMembers_iff.mp hmem) hdeclares
  · intro hs
    induction hs with
    | @top n i hi hdeclares =>
      exact Nesting.mem_spots_top (mem_declared_iff.mpr ⟨mem_numbered_iff.mpr ⟨i, rfl, hi⟩, hdeclares⟩)
    | @nested s p n _ hbody hdeclares ih =>
      exact Nesting.mem_spots_nested (N := nesting src) ih (e := (p, n))
        (mem_declared_iff.mpr ⟨mem_placedMembers_iff.mpr hbody, hdeclares⟩)

theorem pairwise_spots (root : Node) : (spots src root).Pairwise fun s t => s.position < t.position :=
  Nesting.pairwise_spots (pairwise_declared (pairwise_numbered root.children))

theorem Reached.declares {s : Spot Node} (h : Reached src root s) : Declares src s.item := by
  cases h <;> assumption

/-- The position of a reached declaration is where it stands. -/
theorem Reached.at?_eq {s : Spot Node} (h : Reached src root s) : root.at? s.position = some s.item := by
  induction h with
  | top hi _ => simp [Node.at?, hi]
  | nested _ hbody _ ih => rw [Node.at?_append, ih, Option.bind_some, hbody.at?_eq]

end Spots

/-! ## The walk -/

section Walk

variable (src : Source)

/-- The name of a declaration. -/
def declaredName (n : Node) : String :=
  (declaredName? src n).getD ""

/-- The declaration at a node that declares a type under a name. -/
def declarationOf (n : Node) : Declaration where
  node := n
  name := declaredName src n
  nested := (bodyMembers n).filterMap (declaration? src)

variable {src} {root : Node}

theorem declaration?_eq_ite (n : Node) :
    declaration? src n = if Declares src n then some (declarationOf src n) else none := by
  by_cases hdeclares : Declares src n
  · obtain ⟨kind, hkind⟩ := Option.isSome_iff_exists.mp hdeclares.1
    obtain ⟨name, hname⟩ := Option.isSome_iff_exists.mp hdeclares.2
    rw [if_pos hdeclares, declaration?_eq, declarationOf, declaredName, hkind, hname]
    rfl
  · rw [if_neg hdeclares, Option.eq_none_iff_forall_ne_some]
    intro d hd
    obtain ⟨-, hkind, hname, -⟩ := of_declaration?_eq_some hd
    exact hdeclares ⟨hkind, hname⟩

theorem filterMap_declaration? (es : List (Position × Node)) :
    (es.map Prod.snd).filterMap (declaration? src) = (declared src es).map fun e => declarationOf src e.2 := by
  induction es with
  | nil => rfl
  | cons e es ih =>
    rw [List.map_cons, List.filterMap_cons, declaration?_eq_ite, declared, List.filter_cons]
    by_cases hdeclares : Declares src e.2
    · rw [if_pos hdeclares, if_pos (decide_eq_true hdeclares), List.map_cons, ih]
      rfl
    · rw [if_neg hdeclares, if_neg (by simpa using hdeclares), ih]
      rfl

theorem nested_declarationOf (n : Node) :
    (declarationOf src n).nested = ((nesting src).below n).map fun e => declarationOf src e.2 := by
  rw [declarationOf, ← map_snd_placedMembers, filterMap_declaration?]
  rfl

/-- What surrounds a spot. -/
def surroundings (src : Source) (root : Node) (s : Spot Node) : Surroundings :=
  (s.outer.map (declarationOf src)).foldl (Surroundings.into src) { scope := fileScope src root }

/-- **The walk through a file visits the spots.** -/
theorem places_eq (root : Node) :
    places src root =
      (spots src root).map fun s => (surroundings src root s, declarationOf src s.item) := by
  have htop : declarations src root =
      (declared src (numbered root.children)).map fun e => declarationOf src e.2 := by
    rw [declarations, ← filterMap_declaration?, map_snd_numbered]
  rw [places, htop, Nesting.walkAll_eq nested_declarationOf]
  rfl

/-- The scope inside declarations and members of a file, given the outermost first. -/
def scopeIn (src : Source) (root : Node) (path : List Node) : Scope :=
  (fileScope src root).withVariables (path.flatMap (typeVariables src))

theorem inside_scopeIn (path : List Node) (n : Node) :
    inside src n (scopeIn src root path) = scopeIn src root (path ++ [n]) := by
  simp [inside, scopeIn, Scope.withVariables]

/-- The scope at a spot is that inside the declarations around it. -/
theorem scope_surroundings (s : Spot Node) : (surroundings src root s).scope = scopeIn src root s.outer := by
  suffices hfold : ∀ (ns path : List Node) (t : Surroundings), t.scope = scopeIn src root path →
      ((ns.map (declarationOf src)).foldl (Surroundings.into src) t).scope = scopeIn src root (path ++ ns) from
    hfold s.outer [] { scope := fileScope src root } (by simp [scopeIn, Scope.withVariables])
  intro ns
  induction ns with
  | nil => simp
  | cons n ns ih =>
    intro path t ht
    have hinto : (t.into src (declarationOf src n)).scope = scopeIn src root (path ++ [n]) := by
      rw [← inside_scopeIn, ← ht]
      rfl
    rw [List.map_cons, List.foldl_cons, ih (path ++ [n]) _ hinto, List.append_assoc]
    rfl

theorem outer_surroundings (s : Spot Node) :
    (surroundings src root s).outer.map Prod.fst = (s.outer.map (declarationOf src)).foldl within none := by
  suffices hfold : ∀ (ds : List Declaration) (t : Surroundings),
      (ds.foldl (Surroundings.into src) t).outer.map Prod.fst = ds.foldl within (t.outer.map Prod.fst) from
    hfold _ _
  intro ds
  induction ds with
  | nil => exact fun _ => rfl
  | cons d ds ih => exact fun t => ih (t.into src d)

/-- The name of the type at a spot puts the names on the path to it together. -/
theorem name_headerAt (s : Spot Node) :
    (headerAt src (surroundings src root s, declarationOf src s.item)).name =
      ".".intercalate ((s.outer ++ [s.item]).map (declaredName src)) := by
  show nest ((surroundings src root s).outer.map Prod.fst) (declaredName src s.item) = _
  rw [outer_surroundings, nest_foldl_within, List.map_map, List.map_append]
  rfl

end Walk

/-! ## The types of a file -/

section Details

variable {src : Source} {root : Node}

/-- A type with its members is that of a declaration: it has the package of the file, the kind that the node
declares and the names on the path to it, with dots between them. -/
structure Describes (src : Source) (root : Node) (s : Spot Node) (d : TypeDetails) : Prop where
  package : d.type.package.name = packageName src root
  kind : declaredKind? s.item = some d.type.kind
  name : d.type.name = ".".intercalate ((s.outer ++ [s.item]).map (declaredName src))

theorem describes_of_foundAt {s : Spot Node} {f : Found} (hs : Reached src root s)
    (h : foundAt src (surroundings src root s, declarationOf src s.item) = .ok f) :
    Describes src root s ⟨f.type, .ofList f.members⟩ := by
  obtain ⟨htype, -⟩ := of_foundAt_eq_ok h
  obtain ⟨kind, hkind⟩ := Option.isSome_iff_exists.mp hs.declares.1
  refine ⟨?_, ?_, ?_⟩ <;> dsimp only <;> rw [htype]
  · show (surroundings src root s).scope.package = _
    rw [scope_surroundings]
    rfl
  · show _ = some ((declaredKind? s.item).getD .classType)
    rw [hkind, Option.getD_some]
  · exact name_headerAt s

/-- What is given for a spot is what is found there. -/
def FoundAt (src : Source) (root : Node) (s : Spot Node) (d : TypeDetails) : Prop :=
  ∃ f, foundAt src (surroundings src root s, declarationOf src s.item) = .ok f ∧ d = ⟨f.type, .ofList f.members⟩

/-- The types of a file are what is found at its spots, one for one. -/
theorem forall₂_foundAt {ds : List TypeDetails} (h : (details src root).result = .ok ds) :
    List.Forall₂ (FoundAt src root) (spots src root) ds := by
  obtain ⟨fs, hfound, rfl⟩ := exists_found_of_details h
  rw [result_found, places_eq] at hfound
  have hone := List.forall₂_map_left_iff.mp (forall₂_of_mapM_eq_ok hfound)
  exact List.forall₂_map_right_iff.mpr (hone.imp fun _ f hf => ⟨f, hf, rfl⟩)

/-- The types of a file are those of its spots, one for one. -/
theorem forall₂_describes {ds : List TypeDetails} (h : (details src root).result = .ok ds) :
    List.Forall₂ (Describes src root) (spots src root) ds := by
  have hone := (List.forall₂_and_left _ _).mpr ⟨fun s hs => mem_spots_iff.mp hs, forall₂_foundAt h⟩
  refine hone.imp ?_
  rintro s _ ⟨hs, f, hf, rfl⟩
  exact describes_of_foundAt hs hf

/-- **The types of a file are the reached declarations in document order**, each one once, with the package,
kind and name of the declaration.  What is nested in a type follows it in one block. -/
theorem details_in_document_order {ds : List TypeDetails} (h : (Handler.java.detailsIn src root).result = .ok ds) :
    (∀ s, s ∈ spots src root ↔ Reached src root s) ∧
    (∀ s ∈ spots src root, root.at? s.position = some s.item) ∧
    (spots src root).Pairwise (fun s t => s.position < t.position) ∧
    List.Forall₂ (Describes src root) (spots src root) ds ∧
    (∀ e ∈ (spots src root).zip ds, ∃ before block after,
      (spots src root).zip ds = before ++ e :: (block ++ after) ∧
        (∀ e' ∈ block, e.1.Encloses e'.1) ∧ ∀ e' ∈ before ++ after, ¬ e.1.Encloses e'.1) ∧
    (Handler.java.typesIn src root).result = .ok (ds.map TypeDetails.type) := by
  have hone := forall₂_describes (Handler.of_result_detailsIn_eq_ok h).2
  have hzip : ((spots src root).zip ds).map Prod.fst = spots src root :=
    List.map_fst_zip (Nat.le_of_eq hone.length_eq)
  refine ⟨fun _ => mem_spots_iff, fun s hs => (mem_spots_iff.mp hs).at?_eq, pairwise_spots root, hone,
    fun e he => ?_, ?_⟩
  · exact Nesting.exists_block_of_map_eq hzip (pairwise_declared (pairwise_numbered root.children)) he
  · rw [Handler.result_typesIn, h]
    rfl

/-- Types in a class and in an enum, after its constants. -/
def nestedTypesCode : String :=
  "package p; class A \x7b interface B \x7b\x7d enum E \x7b X; record R() \x7b\x7d \x7d \x7d @interface C \x7b\x7d"

theorem spots_of_nested_types :
    let src := Source.ofString nestedTypesCode
    let root := parse nestedTypesCode
    ∃ ds, (Handler.java.detailsIn src root).result = .ok ds ∧
      ds.map (fun d => d.type.name) = ["A", "A.B", "A.E", "A.E.R", "C"] ∧
      List.Forall₂ (Describes src root) (spots src root) ds := by
  intro src root
  have hgiven : (Handler.java.detailsIn src root).result.toOption.any
      (fun ds => ds.map (fun d => d.type.name) = ["A", "A.B", "A.E", "A.E.R", "C"]) = true := by
    decide +kernel
  obtain ⟨ds, hds, hnames⟩ := exists_eq_ok_of_any hgiven
  obtain ⟨-, -, -, hone, -⟩ := details_in_document_order hds
  exact ⟨ds, hds, of_decide_eq_true hnames, hone⟩

end Details

end SourceOutline.Java
