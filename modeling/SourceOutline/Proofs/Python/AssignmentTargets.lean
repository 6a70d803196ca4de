import SourceOutline.Proofs.Python.Insertions
import SourceOutline.Proofs.Syntax.Positions
import SourceOutline.Python.Grammar

/-!
# Assignments in Python classes

An assignment in the body of a class binds names, in its own target and in those of the assignments to its right.
Targets are put together from lists and tuples of targets, and from targets after a star.  Each name that is bound
becomes a field, in document order, but for names that stand under a star.

* `BoundIn`, `AssignedIn`: the names that a target, or an assignment, binds, and where.
* `boundNames`, `assignedAt`: these names in document order; `mem_boundNames_iff`, `mem_assignedAt_iff`: no others.
* `targetNames_eq_plain`, `assignedNames_eq_plain`: those of them that are read.

Main statement: `fields_of_bound_names`.
-/

namespace SourceOutline.Python

open Position

/-- A name that is bound. -/
structure BoundName where
  node : Node
  /-- A star stands before the name, or before a pattern that it is part of. -/
  starred : Bool

/-- The patterns that targets are put together to. -/
def patternKinds : List String :=
  ["pattern_list", "tuple_pattern", "list_pattern", "list_splat_pattern"]

/-- The same name as a part of a pattern. -/
def BoundName.inside (n : Node) (b : BoundName) : BoundName :=
  { b with starred := b.starred || n.kind == "list_splat_pattern" }

/-- A target binds a name, at a position below it.  Attributes and subscripts bind none. -/
inductive BoundIn : Node → Position → BoundName → Prop
  | name {n : Node} : n.kind = "identifier" → BoundIn n [] ⟨n, false⟩
  | item {n c : Node} {i : Nat} {p : Position} {b : BoundName} :
    n.kind ∈ patternKinds → n.children[i]? = some c → c.named = true → BoundIn c p b →
      BoundIn n (i :: p) (b.inside n)

/-- An assignment binds a name, at a position below it: in its target, or in one of an assignment to its right. -/
inductive AssignedIn : Node → Position → BoundName → Prop
  | left {n target : Node} {p : Position} {b : BoundName} :
    n.kind = "assignment" → n.child? "left" = some target → BoundIn target p b →
      AssignedIn n (n.fieldIndex "left" :: p) b
  | right {n value : Node} {p : Position} {b : BoundName} :
    n.kind = "assignment" → n.child? "right" = some value → AssignedIn value p b →
      AssignedIn n (n.fieldIndex "right" :: p) b

/-- Wherever an assignment stands to the right of another one, the target of this one stands before it. -/
inductive TargetsFirst : Node → Prop
  | last {n : Node} : (∀ value, n.child? "right" = some value → value.kind ≠ "assignment") → TargetsFirst n
  | chained {n value : Node} :
    n.child? "right" = some value → n.fieldIndex "left" < n.fieldIndex "right" → TargetsFirst value →
      TargetsFirst n

/-! ## Targets -/

section Targets

/-- Names as parts of a pattern. -/
def insideAll (n : Node) (es : List (Position × BoundName)) : List (Position × BoundName) :=
  es.map fun e => (e.1, e.2.inside n)

/-- The names that a target binds, with positions. -/
def boundNames (n : Node) : List (Position × BoundName) :=
  if n.kind = "identifier" then [([], ⟨n, false⟩)]
  else if n.kind ∈ patternKinds then
    placed (fun c : { c : Node // c ∈ n.children } => if c.1.named then insideAll n (boundNames c.1) else [])
      n.children.attach
  else []
termination_by sizeOf n
decreasing_by exact Node.sizeOf_lt_of_mem_children c.2

/-- The names that a part of a pattern binds. -/
def boundNamesAt (n c : Node) : List (Position × BoundName) :=
  if c.named then insideAll n (boundNames c) else []

/-- The texts of the names that stand under no star. -/
def plainNames (src : Source) (bs : List BoundName) : List String :=
  (bs.filter fun b => !b.starred).map fun b => src.text b.node

theorem boundNames_eq (n : Node) : boundNames n =
    if n.kind = "identifier" then [([], ⟨n, false⟩)]
    else if n.kind ∈ patternKinds then placed (boundNamesAt n) n.children else [] := by
  have hattach := placed_map (boundNamesAt n) Subtype.val n.children.attach
  rw [List.attach_map_subtype_val] at hattach
  rw [boundNames, hattach]
  rfl

theorem mem_insideAll_iff {n : Node} {es : List (Position × BoundName)} {p : Position} {b : BoundName} :
    (p, b) ∈ insideAll n es ↔ ∃ c, (p, c) ∈ es ∧ b = c.inside n := by
  simp only [insideAll, List.mem_map, Prod.mk.injEq, Prod.exists]
  constructor
  · rintro ⟨_, c, hc, rfl, rfl⟩
    exact ⟨c, hc, rfl⟩
  · rintro ⟨c, hc, rfl⟩
    exact ⟨p, c, hc, rfl, rfl⟩

theorem mem_boundNames_iff {n : Node} {p : Position} {b : BoundName} :
    (p, b) ∈ boundNames n ↔ BoundIn n p b := by
  constructor
  · intro h
    rw [boundNames_eq] at h
    split at h
    · rename_i hkind
      obtain ⟨rfl, rfl⟩ := Prod.mk.inj (List.mem_singleton.mp h)
      exact .name hkind
    split at h
    · rename_i hkind
      obtain ⟨i, c, q, hc, rfl, hq⟩ := mem_placed_iff.mp h
      unfold boundNamesAt at hq
      split at hq
      · rename_i hnamed
        obtain ⟨b, hb, rfl⟩ := mem_insideAll_iff.mp hq
        have hlt := Node.sizeOf_lt_of_mem_children (List.mem_of_getElem? hc)
        exact .item hkind hc hnamed (mem_boundNames_iff.mp hb)
      · cases hq
    · cases h
  · intro h
    induction h with
    | name hkind =>
      rw [boundNames_eq, if_pos hkind]
      exact List.mem_singleton_self _
    | @item n c i q b hkind hc hnamed _ ih =>
      have hname : n.kind ≠ "identifier" := fun heq => absurd (heq ▸ hkind) (by decide)
      rw [boundNames_eq, if_neg hname, if_pos hkind]
      refine mem_placed_iff.mpr ⟨i, c, q, hc, rfl, ?_⟩
      rw [boundNamesAt, if_pos hnamed]
      exact mem_insideAll_iff.mpr ⟨b, ih, rfl⟩
termination_by sizeOf n

theorem pairwise_boundNames (n : Node) : (boundNames n).Pairwise fun d e => LeftOf d.1 e.1 := by
  rw [boundNames_eq]
  split
  · exact List.pairwise_singleton _ _
  split
  · refine pairwise_placed fun c hc => ?_
    unfold boundNamesAt
    split
    · have hlt := Node.sizeOf_lt_of_mem_children hc
      exact List.pairwise_map.mpr (pairwise_boundNames c)
    · exact .nil
  · exact .nil
termination_by sizeOf n

/-- The position of a name is where it stands. -/
theorem BoundIn.at?_eq {n : Node} {p : Position} {b : BoundName} (h : BoundIn n p b) : n.at? p = some b.node := by
  induction h with
  | name _ => rfl
  | item _ hc _ _ ih => rw [Node.at?, hc, Option.bind_some, ih]; rfl

theorem plainNames_inside {n : Node} (src : Source) (bs : List BoundName) :
    plainNames src (bs.map (BoundName.inside n)) =
      if n.kind = "list_splat_pattern" then [] else plainNames src bs := by
  split
  · rename_i hstar
    have hnone : (bs.map (BoundName.inside n)).filter (fun b => !b.starred) = [] := by
      rw [List.filter_eq_nil_iff, List.forall_mem_map]
      intro b _
      simp [BoundName.inside, hstar]
    rw [plainNames, hnone, List.map_nil]
  · rename_i hstar
    have hsame : BoundName.inside n = id := by
      funext b
      simp [BoundName.inside, beq_false_of_ne hstar]
    rw [hsame, List.map_id]

theorem flatMap_filter_eq {α β : Type} (p : α → Bool) (f : α → List β) (as : List α) :
    (as.filter p).flatMap f = as.flatMap fun a => if p a then f a else [] := by
  induction as with
  | nil => rfl
  | cons a as ih => cases hp : p a <;> simp [hp, ih]

/-- The names that are read off a target are those it binds under no star. -/
theorem targetNames_eq_plain (src : Source) (n : Node) :
    targetNames src n = plainNames src ((boundNames n).map Prod.snd) := by
  rw [targetNames_eq, boundNames_eq]
  by_cases hname : n.kind = "identifier"
  · simp [hname, plainNames]
  rw [if_neg hname, if_neg hname]
  have hpart : ∀ c, plainNames src ((boundNamesAt n c).map Prod.snd) =
      if c.named = true ∧ n.kind ≠ "list_splat_pattern" then plainNames src ((boundNames c).map Prod.snd)
      else [] := by
    intro c
    unfold boundNamesAt
    cases c.named with
    | false => rfl
    | true =>
      have hsnd : (insideAll n (boundNames c)).map Prod.snd =
          ((boundNames c).map Prod.snd).map (BoundName.inside n) := by
        rw [insideAll, List.map_map, List.map_map]
        rfl
      rw [if_pos rfl, hsnd, plainNames_inside]
      split <;> simp_all
  have hparts : plainNames src ((placed (boundNamesAt n) n.children).map Prod.snd) =
      n.children.flatMap fun c => plainNames src ((boundNamesAt n c).map Prod.snd) := by
    rw [map_snd_placed, plainNames, List.filter_flatMap, List.map_flatMap]
    rfl
  by_cases hstar : n.kind = "list_splat_pattern"
  · have hnone : (n.children.flatMap fun c => plainNames src ((boundNamesAt n c).map Prod.snd)) = [] :=
      List.flatMap_eq_nil_iff.mpr fun c _ => by rw [hpart, if_neg fun h => h.2 hstar]
    rw [if_pos (show n.kind ∈ patternKinds by rw [hstar]; decide), hparts, hnone, hstar]
    rfl
  by_cases hgroup : n.kind = "pattern_list" ∨ n.kind = "tuple_pattern" ∨ n.kind = "list_pattern"
  · have hkind : n.kind ∈ patternKinds := by
      rcases hgroup with h | h | h <;> simp [patternKinds, h]
    rw [if_pos hgroup, if_pos hkind, hparts, Node.namedChildren, flatMap_filter_eq]
    refine List.flatMap_congr fun c hc => ?_
    have hlt := Node.sizeOf_lt_of_mem_children hc
    rw [hpart, targetNames_eq_plain src c]
    simp [hstar]
  · have hkind : n.kind ∉ patternKinds := by
      simp only [patternKinds, List.mem_cons, List.not_mem_nil, or_false, not_or] at hgroup ⊢
      exact ⟨hgroup.1, hgroup.2.1, hgroup.2.2, hstar⟩
    rw [if_neg hgroup, if_neg hkind]
    rfl
termination_by sizeOf n

end Targets

/-! ## Assignments -/

section Assignments

/-- The names that an assignment binds, with positions. -/
def assignedAt (n : Node) : List (Position × BoundName) :=
  if n.kind = "assignment" then
    (match n.child? "left" with
      | none => []
      | some target => under [n.fieldIndex "left"] (boundNames target)) ++
    match _h : n.child? "right" with
      | none => []
      | some value => under [n.fieldIndex "right"] (assignedAt value)
  else []
termination_by sizeOf n
decreasing_by exact Node.sizeOf_lt_of_mem_children (Node.mem_of_child? _h)

theorem assignedAt_eq (n : Node) : assignedAt n =
    if n.kind = "assignment" then
      ((n.child? "left").elim [] fun target => under [n.fieldIndex "left"] (boundNames target)) ++
        (n.child? "right").elim [] fun value => under [n.fieldIndex "right"] (assignedAt value)
    else [] := by
  rw [assignedAt]
  split
  · cases n.child? "left" <;> cases n.child? "right" <;> rfl
  · rfl

theorem mem_elim_under_iff {o : Option Node} {i : Nat} {f : Node → List (Position × BoundName)} {p : Position}
    {b : BoundName} :
    (p, b) ∈ (o.elim [] fun c => under [i] (f c)) ↔ ∃ c q, o = some c ∧ p = i :: q ∧ (q, b) ∈ f c := by
  cases o with
  | none => simp
  | some c => simp [mem_under_iff]

theorem mem_assignedAt_iff {n : Node} {p : Position} {b : BoundName} :
    (p, b) ∈ assignedAt n ↔ AssignedIn n p b := by
  constructor
  · intro h
    rw [assignedAt_eq] at h
    split at h
    · rename_i hkind
      rcases List.mem_append.mp h with h | h
      · obtain ⟨target, q, htarget, rfl, hq⟩ := mem_elim_under_iff.mp h
        exact .left hkind htarget (mem_boundNames_iff.mp hq)
      · obtain ⟨value, q, hvalue, rfl, hq⟩ := mem_elim_under_iff.mp h
        have hlt := Node.sizeOf_lt_of_mem_children (Node.mem_of_child? hvalue)
        exact .right hkind hvalue (mem_assignedAt_iff.mp hq)
    · cases h
  · intro h
    induction h with
    | left hkind htarget hb =>
      rw [assignedAt_eq, if_pos hkind]
      exact List.mem_append_left _ (mem_elim_under_iff.mpr ⟨_, _, htarget, rfl, mem_boundNames_iff.mpr hb⟩)
    | right hkind hvalue _ ih =>
      rw [assignedAt_eq, if_pos hkind]
      exact List.mem_append_right _ (mem_elim_under_iff.mpr ⟨_, _, hvalue, rfl, ih⟩)
termination_by sizeOf n

/-- The position of a name is where it stands. -/
theorem AssignedIn.at?_eq {n : Node} {p : Position} {b : BoundName} (h : AssignedIn n p b) :
    n.at? p = some b.node := by
  induction h with
  | left _ htarget hb => rw [Node.at?_fieldIndex_cons htarget, hb.at?_eq]
  | right _ hvalue _ ih => rw [Node.at?_fieldIndex_cons hvalue, ih]

theorem assignedAt_of_kind_ne {n : Node} (h : n.kind ≠ "assignment") : assignedAt n = [] := by
  rw [assignedAt, if_neg h]

theorem pairwise_assignedAt {n : Node} (h : TargetsFirst n) :
    (assignedAt n).Pairwise fun d e => LeftOf d.1 e.1 := by
  have htarget : ∀ {o : Option Node} {i : Nat},
      (o.elim [] fun c => under [i] (boundNames c)).Pairwise fun d e => LeftOf d.1 e.1 := by
    intro o i
    cases o with
    | none => exact .nil
    | some c => exact pairwise_under (pairwise_boundNames c) [i]
  induction h with
  | @last n hlast =>
    rw [assignedAt_eq]
    split
    · have hnone :
          ((n.child? "right").elim [] fun value => under [n.fieldIndex "right"] (assignedAt value)) = [] := by
        cases hvalue : n.child? "right" with
        | none => rfl
        | some value => rw [Option.elim_some, assignedAt_of_kind_ne (hlast value hvalue)]; rfl
      rw [hnone, List.append_nil]
      exact htarget
    · exact .nil
  | @chained n value hvalue hfirst _ ih =>
    rw [assignedAt_eq]
    split
    · rw [hvalue, Option.elim_some]
      refine List.pairwise_append.mpr ⟨htarget, pairwise_under ih _, fun d hd e he => ?_⟩
      obtain ⟨_, p, -, hp, -⟩ := mem_elim_under_iff.mp hd
      obtain ⟨q, hq, -⟩ := mem_under_iff.mp he
      rw [hp, hq]
      exact leftOf_cons hfirst p q
    · exact .nil

/-- The names that are read off an assignment are those it binds under no star. -/
theorem assignedNames_eq_plain (src : Source) (n : Node) :
    assignedNames src n = plainNames src ((assignedAt n).map Prod.snd) := by
  rw [assignedNames_eq, assignedAt_eq]
  split
  · have happend : ∀ as bs : List BoundName, plainNames src (as ++ bs) = plainNames src as ++ plainNames src bs :=
      fun as bs => by rw [plainNames, plainNames, plainNames, List.filter_append, List.map_append]
    rw [List.map_append, happend]
    congr 1
    · cases n.child? "left" with
      | none => rfl
      | some target => rw [Option.elim_some, Option.elim_some, map_snd_under, targetNames_eq_plain]
    · cases hvalue : n.child? "right" with
      | none => rfl
      | some value =>
        have hlt := Node.sizeOf_lt_of_mem_children (Node.mem_of_child? hvalue)
        rw [Option.elim_some, Option.elim_some, map_snd_under, assignedNames_eq_plain src value]
  · rfl
termination_by sizeOf n

/-- The fields of an assignment have the names that are read off it. -/
theorem names_fields (src : Source) (scope : Scope) (owner : TypeDecl) (n : Node) :
    (fields src scope owner n).map FieldDecl.name = assignedNames src n := by
  rw [fields, List.map_map]
  refine (List.map_congr_left fun name _ => ?_).trans (List.map_id _)
  show (makeField scope owner name _).name = name
  unfold makeField
  split <;> rfl

/-- **Each name that an assignment binds becomes a field, in document order, unless it stands under a star.**
So all of them do just if there is no name under a star. -/
theorem fields_of_bound_names (src : Source) (scope : Scope) (owner : TypeDecl) (n : Node) :
    (∀ p b, (p, b) ∈ assignedAt n ↔ AssignedIn n p b) ∧
    (∀ e ∈ assignedAt n, n.at? e.1 = some e.2.node) ∧
    (TargetsFirst n → ((assignedAt n).map Prod.fst).Pairwise (· < ·)) ∧
    fields src scope owner n = ((assignedAt n).filter fun e => !e.2.starred).map
      (fun e => makeField scope owner (src.text e.2.node) (src.fieldText? n "type")) ∧
    ((fields src scope owner n).map FieldDecl.name = (assignedAt n).map (fun e => src.text e.2.node) ↔
      ∀ p b, AssignedIn n p b → b.starred = false) := by
  have hnames : assignedNames src n =
      ((assignedAt n).filter fun e => !e.2.starred).map fun e => src.text e.2.node := by
    rw [assignedNames_eq_plain, plainNames, List.filter_map, List.map_map]
    rfl
  refine ⟨fun p b => mem_assignedAt_iff, fun e he => (mem_assignedAt_iff.mp he).at?_eq, fun hfirst => ?_, ?_, ?_⟩
  · exact List.pairwise_map.mpr ((pairwise_assignedAt hfirst).imp lt_of_leftOf)
  · rw [fields, hnames, List.map_map]
    rfl
  · rw [names_fields, hnames]
    constructor
    · intro hall p b hb
      have hlength := congrArg List.length hall
      rw [List.length_map, List.length_map, List.length_filter_eq_length_iff] at hlength
      simpa using hlength (p, b) (mem_assignedAt_iff.mpr hb)
    · intro hplain
      have hkept : (assignedAt n).filter (fun e => !e.2.starred) = assignedAt n :=
        List.filter_eq_self.mpr fun e he => by simp [hplain e.1 e.2 (mem_assignedAt_iff.mp he)]
      rw [hkept]

/-- A chain of assignments with a pattern in a pattern, an attribute and a subscript. -/
def chainedCode : String :=
  "class C:\n  a = (b, [c, d.e]) = f[0] = 1\n"

theorem fields_of_chained_targets :
    let src := Source.ofString chainedCode
    let root := parse chainedCode
    ∃ n ∈ root.preorder, n.kind = "assignment" ∧ TargetsFirst n ∧
      ((assignedAt n).map Prod.fst).Pairwise (· < ·) ∧ (∀ p b, AssignedIn n p b → b.starred = false) ∧
      (fields src {} (.stub "" "C") n).map FieldDecl.name = ["a", "b", "c"] := by
  intro src root
  have heval : ∃ n ∈ root.preorder, n.kind = "assignment" ∧
      (∃ v ∈ n.child? "right", n.fieldIndex "left" < n.fieldIndex "right" ∧
        ∃ w ∈ v.child? "right", v.fieldIndex "left" < v.fieldIndex "right" ∧
          ∀ x ∈ w.child? "right", x.kind ≠ "assignment") ∧
      (assignedAt n).map (fun e => (src.text e.2.node, e.2.starred)) =
        [("a", false), ("b", false), ("c", false)] := by
    decide +kernel
  obtain ⟨n, hn, hkind, ⟨v, hv, hfirst, w, hw, hfirst', hlast⟩, hnames⟩ := heval
  have hchain : TargetsFirst n := .chained hv hfirst (.chained hw hfirst' (.last hlast))
  obtain ⟨hbound, -, hordered, -, hall⟩ := fields_of_bound_names src {} (.stub "" "C") n
  have hplain : ∀ p b, AssignedIn n p b → b.starred = false := by
    intro p b hb
    have hmem := List.mem_map_of_mem (f := fun e => (src.text e.2.node, e.2.starred)) ((hbound p b).mpr hb)
    rw [hnames] at hmem
    simp only [List.mem_cons, List.not_mem_nil, or_false, Prod.mk.injEq] at hmem
    rcases hmem with h | h | h <;> exact h.2
  refine ⟨n, hn, hkind, hchain, hordered hchain, hplain, ?_⟩
  rw [hall.mpr hplain]
  have htexts := congrArg (List.map Prod.fst) hnames
  rwa [List.map_map] at htexts

/-- An assignment with a starred target. -/
def starredCode : String :=
  "class C:\n  a, *rest = b\n"

/-- **A name under a star becomes no field**, though the assignment binds it. -/
theorem exists_starred_name_lost :
    let src := Source.ofString starredCode
    let root := parse starredCode
    (∃ n ∈ root.preorder, n.kind = "assignment" ∧ ∃ p b, AssignedIn n p b ∧ src.text b.node = "rest") ∧
      ∃ ds, (details src "" root).result = .ok ds ∧
        ds.map (fun d => d.members.items.map Member.name) = [["a"]] := by
  intro src root
  have heval :
      (∃ n ∈ root.preorder, n.kind = "assignment" ∧ ∃ e ∈ assignedAt n, src.text e.2.node = "rest") ∧
      (details src "" root).result.toOption.any (fun ds =>
        ds.map (fun d => d.members.items.map Member.name) = [["a"]]) := by
    decide +kernel
  obtain ⟨⟨n, hn, hkind, e, he, htext⟩, hgiven⟩ := heval
  obtain ⟨ds, hds, hnames⟩ := exists_eq_ok_of_any hgiven
  exact ⟨⟨n, hn, hkind, e.1, e.2, mem_assignedAt_iff.mp he, htext⟩, ds, hds, of_decide_eq_true hnames⟩

end Assignments

end SourceOutline.Python
