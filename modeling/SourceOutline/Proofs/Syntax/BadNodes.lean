import SourceOutline.Syntax.Node

/-!
# The first bad node

`Node.preorder` lists all nodes of a tree, each before those below it.  A node has an error if it or
a node below it is bad or flagged; so the search that enters only children with errors finds what the
plain search through all nodes finds (`Node.firstBad?_eq_find?`), although a flag may lead it into
subtrees without a bad node.
-/

namespace SourceOutline.Node

mutual

/-- A node and all nodes below it, in the order in which they begin. -/
def preorder : Node → List Node
  | ⟨kind, start, stop, field, named, missing, flagged, children⟩ =>
    ⟨kind, start, stop, field, named, missing, flagged, children⟩ :: preorderAll children

/-- The nodes of several trees, one tree after another. -/
def preorderAll : List Node → List Node
  | [] => []
  | n :: ns => preorder n ++ preorderAll ns

end

mutual

/-- Nothing is bad in a tree without errors. -/
theorem find?_preorder_of_not_hasError : ∀ {n : Node}, n.hasError = false → n.preorder.find? isBad = none
  | ⟨kind, start, stop, field, named, missing, flagged, children⟩, h => by
    simp only [hasError, Bool.or_eq_false_iff] at h
    obtain ⟨⟨⟨-, hkind⟩, hmissing⟩, hchildren⟩ := h
    rw [preorder, List.find?_cons, find?_preorderAll_of_not_anyError hchildren]
    simp [isBad, hkind, hmissing]

theorem find?_preorderAll_of_not_anyError : ∀ {ns : List Node}, anyError ns = false →
    (preorderAll ns).find? isBad = none
  | [], _ => rfl
  | n :: ns, h => by
    simp only [anyError, Bool.or_eq_false_iff] at h
    rw [preorderAll, List.find?_append, find?_preorder_of_not_hasError h.1,
      find?_preorderAll_of_not_anyError h.2]
    rfl

end

mutual

theorem firstBad?_eq_find? : ∀ n : Node, n.firstBad? = n.preorder.find? isBad
  | ⟨kind, start, stop, field, named, missing, flagged, children⟩ => by
    rw [firstBad?, preorder, List.find?_cons, firstBadIn?_eq_find? children]
    cases hbad : kind == "ERROR" || missing <;> simp [isBad, hbad]

theorem firstBadIn?_eq_find? : ∀ ns : List Node, firstBadIn? ns = (preorderAll ns).find? isBad
  | [] => rfl
  | n :: ns => by
    rw [firstBadIn?, preorderAll, List.find?_append, firstBadIn?_eq_find? ns]
    -- a child that is not entered holds no bad node
    cases herr : n.hasError with
    | true => rw [if_pos rfl, firstBad?_eq_find? n]
    | false => rw [if_neg Bool.false_ne_true, find?_preorder_of_not_hasError herr]

end

end SourceOutline.Node
