import SourceOutline.Proofs.Syntax.Gains
import SourceOutline.Syntax.Node

/-!
# Trees with more comments

`Commented opens n n'` says that `n'` is the tree `n` with comments put in.  Where they may stand is a
parameter: among the children of a node there may be comments once a child has come that opens the place
for them.  If every child does, comments stand anywhere after the first child of a node, which is where
grammars with comments allow them.

* `Padded`: the same for lists of nodes.  The longer list has comments as further items (`Padded.gains`);
  the first node of a sort is the same if only such nodes open the list (`Padded.find?_cases`).
* `Commented.child?_cases`, `Commented.childOfKind?_cases`, `Commented.fieldText?_eq`: what is picked by
  field name or kind.
* `Commented.hasError_eq`: comments are no errors.
-/

namespace SourceOutline.Node

/-- A comment: a named node without field name and children. -/
structure IsComment (n : Node) : Prop where
  kind : n.kind = "line_comment" ∨ n.kind = "block_comment"
  named : n.named = true
  field : n.field = none
  missing : n.missing = false
  flagged : n.flagged = false
  children : n.children = []

/-- Where comments may be put in among nodes. -/
structure Gate where
  /-- After this node they may. -/
  opens : Node → Bool
  /-- They may here. -/
  free : Bool := false

/-- The gate after a node. -/
def Gate.after (g : Gate) (c : Node) : Gate :=
  { g with free := g.free || g.opens c }

/-- The gate that lets comments in everywhere. -/
def Gate.open : Gate where
  opens := fun _ => true
  free := true

/-- The longer list has comments put in, and related nodes for the others. -/
inductive Padded (R : Node → Node → Prop) : Gate → List Node → List Node → Prop
  | nil {g : Gate} : Padded R g [] []
  | cons {g : Gate} {c c' : Node} {cs cs' : List Node} :
    R c c' → Padded R (g.after c) cs cs' → Padded R g (c :: cs) (c' :: cs')
  | comment {g : Gate} {x : Node} {cs cs' : List Node} :
    g.free = true → IsComment x → Padded R g cs cs' → Padded R g cs (x :: cs')

/-- The same tree with comments put in; `opens kind c` says that comments may follow the child `c` of a
node of this kind. -/
inductive Commented (opens : String → Node → Bool) : Node → Node → Prop
  | node {kind : String} {start stop : Nat} {field : Option String} {named missing flagged : Bool}
    {cs cs' : List Node} :
    Padded (Commented opens) { opens := opens kind } cs cs' →
      Commented opens ⟨kind, start, stop, field, named, missing, flagged, cs⟩
        ⟨kind, start, stop, field, named, missing, flagged, cs'⟩

namespace IsComment

variable {x : Node}

theorem field_ne (h : IsComment x) (field : String) : (x.field == some field) = false := by
  rw [h.field]
  rfl

theorem kind_ne (h : IsComment x) (kind : String) (hkind : kind ∉ ["line_comment", "block_comment"]) :
    x.kind ≠ kind := by
  rintro rfl
  rcases h.kind with hx | hx <;> simp [hx] at hkind

theorem hasError_eq (h : IsComment x) : x.hasError = false := by
  obtain ⟨kind, start, stop, field, named, missing, flagged, children⟩ := x
  obtain ⟨hkind, -, -, rfl, rfl, rfl⟩ := h
  rcases hkind with rfl | rfl <;> rfl

end IsComment

/-! ## Lists -/

namespace Padded

variable {R : Node → Node → Prop} {g : Gate} {cs cs' ds ds' : List Node}

/-- Wherever comments may be put in, they may where everything is free. -/
theorem mono (h : Padded R g cs cs') : ∀ {g' : Gate}, g'.free = true → Padded R g' cs cs' := by
  induction h with
  | nil => exact fun _ => .nil
  | cons hc _ ih =>
    intro g' hfree
    exact .cons hc (ih (by simp [Gate.after, hfree]))
  | comment _ hx _ ih => exact fun hfree => .comment hfree hx (ih hfree)

theorem append (h : Padded R g cs cs') (h' : Padded R g ds ds') (hfree : g.free = true) :
    Padded R g (cs ++ ds) (cs' ++ ds') := by
  induction h with
  | nil => exact h'
  | @cons g c _ _ _ hc _ ih =>
    have hafter : (g.after c).free = true := by simp [Gate.after, hfree]
    exact .cons hc (ih (h'.mono hafter) hafter)
  | comment hx hfree' _ ih => exact .comment hx hfree' (ih h' hfree)

/-- Comments are further items of the longer list. -/
theorem gains (h : Padded R g cs cs') : Gains R IsComment cs cs' := by
  induction h with
  | nil => exact .nil
  | cons hc _ ih => exact .keep hc ih
  | comment _ hx _ ih => exact .gain hx ih

/-- The first node of a sort is the same in a list that only such nodes open. -/
theorem find?_cases {p : Node → Bool} (h : Padded R g cs cs') (hfree : g.free = false)
    (hopens : ∀ c, g.opens c = true → p c = true) (hsame : ∀ c c', R c c' → p c = p c') :
    (cs.find? p = none ∧ cs'.find? p = none) ∨
      ∃ c c', cs.find? p = some c ∧ cs'.find? p = some c' ∧ R c c' := by
  induction h with
  | nil => exact .inl ⟨rfl, rfl⟩
  | @cons g c c' _ _ hc _ ih =>
    rw [List.find?_cons, List.find?_cons, ← hsame c c' hc]
    cases hp : p c with
    | true => exact .inr ⟨c, c', rfl, rfl, hc⟩
    | false =>
      have hclosed : g.opens c = false := Bool.eq_false_iff.mpr fun ho => Bool.false_ne_true (hp ▸ hopens c ho)
      exact ih (by simp [Gate.after, hfree, hclosed]) hopens
  | comment hfree' => exact absurd (hfree ▸ hfree') Bool.false_ne_true

/-- Nothing is put into a list that nothing opens. -/
theorem forall₂_of_closed (h : Padded R g cs cs') (hfree : g.free = false)
    (hclosed : ∀ c, g.opens c = false) : List.Forall₂ R cs cs' := by
  induction h with
  | nil => exact .nil
  | @cons g c _ _ _ hc _ ih => exact .cons hc (ih (by simp [Gate.after, hfree, hclosed c]) hclosed)
  | comment hfree' => exact absurd (hfree ▸ hfree') Bool.false_ne_true

end Padded

section Related

variable {R : Node → Node → Prop} {cs cs' : List Node}

/-- Related lists have related first nodes. -/
theorem head?_cases_of_forall₂ (h : List.Forall₂ R cs cs') :
    (cs.head? = none ∧ cs'.head? = none) ∨
      ∃ c c', cs.head? = some c ∧ cs'.head? = some c' ∧ R c c' := by
  cases h with
  | nil => exact .inl ⟨rfl, rfl⟩
  | cons hc _ => exact .inr ⟨_, _, rfl, rfl, hc⟩

/-- Related lists have related last nodes. -/
theorem getLast?_cases_of_forall₂ (h : List.Forall₂ R cs cs') :
    (cs.getLast? = none ∧ cs'.getLast? = none) ∨
      ∃ c c', cs.getLast? = some c ∧ cs'.getLast? = some c' ∧ R c c' := by
  rw [← List.head?_reverse, ← List.head?_reverse]
  exact head?_cases_of_forall₂ (List.forall₂_reverse_iff.mpr h)

theorem map_eq_of_forall₂ {R : α → β → Prop} {as : List α} {bs : List β} {f : α → γ} {g : β → γ}
    (h : List.Forall₂ R as bs) (hsame : ∀ a b, R a b → f a = g b) : as.map f = bs.map g := by
  rw [← List.forall₂_eq_eq_eq, List.forall₂_map_left_iff, List.forall₂_map_right_iff]
  exact h.imp hsame

theorem filterMap_eq_of_forall₂ {f f' : Node → Option α} (h : List.Forall₂ R cs cs')
    (hsame : ∀ c c', R c c' → f c = f' c') : cs.filterMap f = cs'.filterMap f' := by
  have hmap := congrArg (List.filterMap id) (map_eq_of_forall₂ h hsame)
  rwa [List.filterMap_map, List.filterMap_map] at hmap

theorem flatMap_eq_of_forall₂ {f f' : Node → List α} (h : List.Forall₂ R cs cs')
    (hsame : ∀ c ∈ cs, ∀ c', R c c' → f c = f' c') : cs.flatMap f = cs'.flatMap f' :=
  (Gains.of_forall₂ (P := fun _ => False) h).flatMap_eq (fun _ hx => hx.elim) hsame

end Related

/-! ## Nodes -/

namespace Commented

variable {opens : String → Node → Bool} {n n' : Node}

theorem kind_eq (h : Commented opens n n') : n'.kind = n.kind := by
  cases h
  rfl

theorem field_eq (h : Commented opens n n') : n'.field = n.field := by
  cases h
  rfl

theorem named_eq (h : Commented opens n n') : n'.named = n.named := by
  cases h
  rfl

/-- Comments that are put in leave the text of a node as it is. -/
theorem text_eq (h : Commented opens n n') (src : Source) : src.text n' = src.text n := by
  cases h
  rfl

theorem padded (h : Commented opens n n') :
    Padded (Commented opens) { opens := opens n.kind } n.children n'.children := by
  cases h
  assumption

/-- Children of a sort that comments are not of. -/
theorem filter_children (h : Commented opens n n') {p : Node → Bool}
    (hcomment : ∀ x, IsComment x → p x = false) (hsame : ∀ c c', Commented opens c c' → p c = p c') :
    List.Forall₂ (Commented opens) (n.children.filter p) (n'.children.filter p) :=
  h.padded.gains.forall₂_filter hcomment hsame

/-- The first child of a sort that comments are not of. -/
theorem find?_children (h : Commented opens n n') {p : Node → Bool}
    (hcomment : ∀ x, IsComment x → p x = false) (hsame : ∀ c c', Commented opens c c' → p c = p c') :
    (n.children.find? p = none ∧ n'.children.find? p = none) ∨
      ∃ c c', n.children.find? p = some c ∧ n'.children.find? p = some c' ∧ Commented opens c c' := by
  rw [← List.head?_filter, ← List.head?_filter]
  exact head?_cases_of_forall₂ (h.filter_children hcomment hsame)

theorem child?_cases (h : Commented opens n n') (field : String) :
    (n.child? field = none ∧ n'.child? field = none) ∨
      ∃ c c', n.child? field = some c ∧ n'.child? field = some c' ∧ Commented opens c c' :=
  h.find?_children (fun _ hx => hx.field_ne field) fun _ _ hc => by rw [hc.field_eq]

theorem isSome_child?_eq (h : Commented opens n n') (field : String) :
    (n.child? field).isSome = (n'.child? field).isSome := by
  rcases h.child?_cases field with ⟨hn, hn'⟩ | ⟨c, c', hn, hn', -⟩
  · rw [hn, hn']
  · rw [hn, hn', Option.isSome_some, Option.isSome_some]

theorem childOfKind?_cases (h : Commented opens n n') (kind : String)
    (hkind : kind ∉ ["line_comment", "block_comment"]) :
    (n.childOfKind? kind = none ∧ n'.childOfKind? kind = none) ∨
      ∃ c c', n.childOfKind? kind = some c ∧ n'.childOfKind? kind = some c' ∧ Commented opens c c' :=
  h.find?_children (fun _ hx => beq_false_of_ne (hx.kind_ne kind hkind)) fun _ _ hc => by rw [hc.kind_eq]

theorem childrenBy_rel (h : Commented opens n n') (field : String) :
    List.Forall₂ (Commented opens) (n.childrenBy field) (n'.childrenBy field) :=
  h.filter_children (fun _ hx => hx.field_ne field) fun _ _ hc => by rw [hc.field_eq]

theorem fieldText?_eq (h : Commented opens n n') (src : Source) (field : String) :
    src.fieldText? n field = src.fieldText? n' field := by
  unfold Source.fieldText?
  rcases h.child?_cases field with ⟨hn, hn'⟩ | ⟨c, c', hn, hn', hc⟩
  · rw [hn, hn']
  · rw [hn, hn', Option.map_some, Option.map_some, hc.text_eq]

/-- What named children of other kinds give. -/
theorem filterMap_namedChildren_eq (h : Commented opens n n') {f : Node → Option α}
    (hcomment : ∀ x, IsComment x → f x = none)
    (hsame : ∀ c c', Commented opens c c' → f c = f c') :
    n.namedChildren.filterMap f = n'.namedChildren.filterMap f := by
  have hflat : ∀ cs : List Node, (cs.filter Node.named).filterMap f =
      cs.flatMap fun c => if c.named then (f c).toList else [] := by
    intro cs
    induction cs with
    | nil => rfl
    | cons c cs ih => cases hnamed : c.named <;> cases hf : f c <;> simp [hnamed, hf, ih]
  rw [namedChildren, namedChildren, hflat, hflat]
  refine h.padded.gains.flatMap_eq (fun x hx => ?_) fun c _ c' hc => ?_
  · rw [hcomment x hx]
    simp
  · rw [hsame c c' hc, hc.named_eq]

/-- Every tree is itself with no comments put in. -/
theorem refl (opens : String → Node → Bool) (n : Node) : Commented opens n n := by
  obtain ⟨kind, start, stop, field, named, missing, flagged, cs⟩ := n
  have hlist : ∀ ds : List Node, ds ⊆ cs → ∀ g : Gate, Padded (Commented opens) g ds ds := by
    intro ds
    induction ds with
    | nil => exact fun _ _ => .nil
    | cons c ds ih =>
      intro hds g
      have hc : c ∈ cs := hds List.mem_cons_self
      exact .cons (refl opens c) (ih (fun d hd => hds (List.mem_cons_of_mem _ hd)) _)
  exact .node (hlist cs (List.Subset.refl cs) _)
termination_by sizeOf n
decreasing_by
  have hlt := List.sizeOf_lt_of_mem hc
  simp only [Node.mk.sizeOf_spec]
  omega

theorem anyError_eq_any (ns : List Node) : anyError ns = ns.any hasError := by
  induction ns with
  | nil => rfl
  | cons n ns ih => rw [anyError, List.any_cons, ih]

/-- Comments are no errors. -/
theorem hasError_eq {a a' : Node} (h : Commented opens a a') : a.hasError = a'.hasError := by
  match a, a', h with
  | _, _, @node _ kind start stop field named missing flagged cs cs' hcs =>
    rw [hasError, hasError, anyError_eq_any, anyError_eq_any]
    congr 1
    exact hcs.gains.any_eq (fun _ hx => hx.hasError_eq) fun c hc c' hcc' => hasError_eq hcc'
termination_by sizeOf a
decreasing_by
  have hlt := List.sizeOf_lt_of_mem hc
  simp only [Node.mk.sizeOf_spec]
  omega

end Commented

end SourceOutline.Node
