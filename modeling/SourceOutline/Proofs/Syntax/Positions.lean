import Mathlib.Data.List.Forall2
import SourceOutline.Syntax.Node

/-!
# Positions in a tree

A position is the list of the numbers of the children on the way down from the root.  In document order a
node stands before all that is below it, and this before the later children: that is the order `<` of lists.

* `Node.at?`: the node at a position; `Node.setChild`: the node with another child in a place.
* `LeftOf p q`: the positions part, with `p` to the left.  It passes to what is below either (`LeftOf.append`)
  and to the same two positions below another one (`LeftOf.below`).
* `lt_of_leftOf`, `lt_append`: document order is being to the left, or being above.
* `placed`: what the items of a list stand for, with positions; `pairwise_placed`: it stands side by side.
-/

namespace SourceOutline

/-- The numbers of the children on the way down from the root of a tree. -/
abbrev Position := List Nat

namespace Node

/-- The node at a position below a node. -/
def at? (n : Node) : Position → Option Node
  | [] => some n
  | i :: p => (n.children[i]?).bind fun c => c.at? p

/-- The number of the first child under a field name. -/
def fieldIndex (n : Node) (field : String) : Nat :=
  n.children.findIdx fun c => c.field == some field

theorem at?_append (n : Node) (p q : Position) : n.at? (p ++ q) = (n.at? p).bind fun c => c.at? q := by
  induction p generalizing n with
  | nil => rfl
  | cons i p ih =>
    rw [List.cons_append, at?, at?]
    cases n.children[i]? with
    | none => rfl
    | some c => exact ih c

theorem getElem?_fieldIndex {n c : Node} {field : String} (h : n.child? field = some c) :
    n.children[n.fieldIndex field]? = some c := by
  rw [child?, List.find?_eq_some_iff_getElem] at h
  obtain ⟨hc, i, hi, rfl, hfirst⟩ := h
  have hindex : n.fieldIndex field = i := by
    rw [fieldIndex, List.findIdx_eq hi]
    exact ⟨hc, fun j hj => by simpa using hfirst j hj⟩
  rw [hindex, List.getElem?_eq_getElem hi]

theorem child?_eq_getElem? (n : Node) (field : String) : n.child? field = n.children[n.fieldIndex field]? := by
  cases hc : n.child? field with
  | some c => exact (getElem?_fieldIndex hc).symm
  | none =>
    have hnone : n.fieldIndex field = n.children.length := by
      rw [child?, List.find?_eq_none] at hc
      rw [fieldIndex, List.findIdx_eq_length]
      simpa using hc
    rw [hnone, List.getElem?_eq_none (Nat.le_refl _)]

theorem at?_fieldIndex_cons {n c : Node} {field : String} (h : n.child? field = some c) (p : Position) :
    n.at? (n.fieldIndex field :: p) = c.at? p := by
  rw [at?, getElem?_fieldIndex h, Option.bind_some]

/-- What is below a node is smaller. -/
theorem sizeOf_lt_of_at? {n m : Node} {i : Nat} {p : Position} (h : n.at? (i :: p) = some m) :
    sizeOf m < sizeOf n := by
  obtain ⟨c, hc, hm⟩ := Option.bind_eq_some_iff.mp h
  have hlt := sizeOf_lt_of_mem_children (List.mem_of_getElem? hc)
  cases p with
  | nil =>
    cases hm
    exact hlt
  | cons j q => exact Nat.lt_trans (sizeOf_lt_of_at? hm) hlt

/-- The node with another child in a place. -/
def setChild (n : Node) (i : Nat) (c : Node) : Node :=
  { n with children := n.children.set i c }

/-- A child under the same field name does not change which children are picked. -/
theorem fieldIndex_setChild {n c c' : Node} {i : Nat} (hc : n.children[i]? = some c) (hfield : c'.field = c.field)
    (field : String) : (n.setChild i c').fieldIndex field = n.fieldIndex field := by
  have hfields : (n.children.set i c').map Node.field = n.children.map Node.field := by
    obtain ⟨hi, rfl⟩ := List.getElem?_eq_some_iff.mp hc
    rw [List.map_set, hfield, ← List.getElem_map Node.field (h := by simpa using hi), List.set_getElem_self]
  have hindex : ∀ cs : List Node, cs.findIdx (fun c => c.field == some field) =
      (cs.map Node.field).findIdx fun f => f == some field := by
    intro cs
    rw [List.findIdx_map]
    rfl
  rw [fieldIndex, fieldIndex, hindex, hindex, setChild, hfields]

end Node

namespace Position

/-! ## Document order -/

section Order

/-- Two positions part, the first one to the left. -/
def LeftOf (p q : Position) : Prop :=
  ∃ r i j p' q', p = r ++ i :: p' ∧ q = r ++ j :: q' ∧ i < j

variable {p q : Position}

theorem LeftOf.append (h : LeftOf p q) (s t : Position) : LeftOf (p ++ s) (q ++ t) := by
  obtain ⟨r, i, j, p', q', rfl, rfl, hij⟩ := h
  exact ⟨r, i, j, p' ++ s, q' ++ t, by simp, by simp, hij⟩

theorem LeftOf.below (h : LeftOf p q) (s : Position) : LeftOf (s ++ p) (s ++ q) := by
  obtain ⟨r, i, j, p', q', rfl, rfl, hij⟩ := h
  exact ⟨s ++ r, i, j, p', q', by simp, by simp, hij⟩

theorem leftOf_cons {i j : Nat} (h : i < j) (p q : Position) : LeftOf (i :: p) (j :: q) :=
  ⟨[], i, j, p, q, rfl, rfl, h⟩

theorem lt_of_leftOf (h : LeftOf p q) : p < q := by
  obtain ⟨r, i, j, p', q', rfl, rfl, hij⟩ := h
  exact List.append_left_lt (List.cons_lt_cons_iff.mpr (.inl hij))

/-- What is below a position is nowhere to the right of it. -/
theorem not_leftOf_append (p q : Position) : ¬ LeftOf p (p ++ q) := by
  rintro ⟨r, i, j, p', q', rfl, hq, hij⟩
  rw [List.append_assoc, List.cons_append] at hq
  obtain ⟨hsame, -⟩ := List.cons_eq_cons.mp (List.append_cancel_left hq)
  omega

theorem lt_append (p : Position) (hq : q ≠ []) : p < p ++ q := by
  obtain ⟨i, q, rfl⟩ := List.exists_cons_of_ne_nil hq
  have hlt : p ++ [] < p ++ i :: q := List.append_left_lt (List.nil_lt_cons i q)
  rwa [List.append_nil] at hlt

end Order

/-! ## Things with their positions -/

section Placed

variable {α β γ : Type}

/-- The same things, below a position. -/
def under (p : Position) (es : List (Position × β)) : List (Position × β) :=
  es.map fun e => (p ++ e.1, e.2)

/-- What the items of a list stand for, below the numbers of the items. -/
def placed (f : α → List (Position × β)) (as : List α) : List (Position × β) :=
  as.zipIdx.flatMap fun e => under [e.2] (f e.1)

/-- The items of a list with their numbers. -/
def numbered (as : List α) : List (Position × α) :=
  placed (fun a => [([], a)]) as

theorem mem_under_iff {p q : Position} {es : List (Position × β)} {b : β} :
    (q, b) ∈ under p es ↔ ∃ r, q = p ++ r ∧ (r, b) ∈ es := by
  simp only [under, List.mem_map, Prod.mk.injEq, Prod.exists]
  constructor
  · rintro ⟨r, _, hr, rfl, rfl⟩
    exact ⟨r, rfl, hr⟩
  · rintro ⟨r, rfl, hr⟩
    exact ⟨r, b, hr, rfl, rfl⟩

theorem mem_placed_iff {f : α → List (Position × β)} {as : List α} {p : Position} {b : β} :
    (p, b) ∈ placed f as ↔ ∃ i a q, as[i]? = some a ∧ p = i :: q ∧ (q, b) ∈ f a := by
  simp only [placed, List.mem_flatMap, List.mem_zipIdx_iff_getElem?, mem_under_iff, Prod.exists]
  constructor
  · rintro ⟨a, i, ha, q, rfl, hq⟩
    exact ⟨i, a, q, ha, rfl, hq⟩
  · rintro ⟨i, a, q, ha, rfl, hq⟩
    exact ⟨a, i, ha, q, rfl, hq⟩

theorem mem_numbered_iff {as : List α} {p : Position} {a : α} :
    (p, a) ∈ numbered as ↔ ∃ i, p = [i] ∧ as[i]? = some a := by
  simp only [numbered, mem_placed_iff, List.mem_singleton, Prod.mk.injEq]
  constructor
  · rintro ⟨i, _, _, ha, rfl, rfl, rfl⟩
    exact ⟨i, rfl, ha⟩
  · rintro ⟨i, rfl, ha⟩
    exact ⟨i, a, [], ha, rfl, rfl, rfl⟩

@[simp] theorem map_snd_under (p : Position) (es : List (Position × β)) :
    (under p es).map Prod.snd = es.map Prod.snd := by
  rw [under, List.map_map]
  rfl

theorem map_snd_placed (f : α → List (Position × β)) (as : List α) :
    (placed f as).map Prod.snd = as.flatMap fun a => (f a).map Prod.snd := by
  have hitems := List.flatMap_map Prod.fst (fun a => (f a).map Prod.snd) as.zipIdx
  rw [List.zipIdx_map_fst] at hitems
  rw [placed, List.map_flatMap, hitems]
  simp only [map_snd_under]

@[simp] theorem map_snd_numbered (as : List α) : (numbered as).map Prod.snd = as := by
  rw [numbered, map_snd_placed]
  simp

theorem numbered_eq_map (as : List α) : numbered as = as.zipIdx.map fun e => ([e.2], e.1) := by
  rw [numbered, placed, List.map_eq_flatMap]
  rfl

theorem placed_eq_flatMap (f : α → List (Position × β)) (as : List α) :
    placed f as = (numbered as).flatMap fun e => under e.1 (f e.2) := by
  rw [numbered_eq_map, List.flatMap_map]
  rfl

/-- Two lists that differ in one place, with numbers. -/
theorem forall₂_numbered_set {R : Position × α → Position × α → Prop} {as : List α} {i : Nat} {a' : α}
    (hplace : ∀ a, as[i]? = some a → R ([i], a) ([i], a'))
    (hrest : ∀ j a, j ≠ i → as[j]? = some a → R ([j], a) ([j], a)) :
    List.Forall₂ R (numbered as) (numbered (as.set i a')) := by
  rw [numbered_eq_map, numbered_eq_map, List.forall₂_map_left_iff, List.forall₂_map_right_iff,
    List.forall₂_iff_get]
  refine ⟨by simp, fun j hj hj' => ?_⟩
  simp only [List.get_eq_getElem, List.getElem_zipIdx, Nat.zero_add]
  rw [List.length_zipIdx] at hj
  have hget : as[j]? = some as[j] := List.getElem?_eq_getElem hj
  by_cases hji : j = i
  · subst hji
    rw [List.getElem_set_self]
    exact hplace _ hget
  · rw [List.getElem_set_ne (Ne.symm hji)]
    exact hrest j _ hji hget

theorem placed_map (f : β → List (Position × γ)) (g : α → β) (as : List α) :
    placed f (as.map g) = placed (fun a => f (g a)) as := by
  rw [placed, List.zipIdx_map, List.flatMap_map]
  rfl

theorem pairwise_under {es : List (Position × β)} (h : es.Pairwise fun d e => LeftOf d.1 e.1) (p : Position) :
    (under p es).Pairwise fun d e => LeftOf d.1 e.1 :=
  List.pairwise_map.mpr (h.imp fun hleft => LeftOf.below hleft p)

/-- What the items of a list stand for stands side by side. -/
theorem pairwise_placed {f : α → List (Position × β)} {as : List α}
    (h : ∀ a ∈ as, (f a).Pairwise fun d e => LeftOf d.1 e.1) :
    (placed f as).Pairwise fun d e => LeftOf d.1 e.1 := by
  have hnumbers : as.zipIdx.Pairwise fun d e => d.2 < e.2 := by
    have hmap : (as.zipIdx.map Prod.snd).Pairwise (· < ·) := by
      rw [List.zipIdx_map_snd]
      exact List.pairwise_lt_range'
    exact List.pairwise_map.mp hmap
  refine List.pairwise_flatMap.mpr ⟨fun e he => ?_, hnumbers.imp fun hlt d hd e he => ?_⟩
  · have hitem : as[e.2]? = some e.1 := List.mem_zipIdx_iff_getElem?.mp he
    exact pairwise_under (h e.1 (List.mem_of_getElem? hitem)) [e.2]
  · obtain ⟨p, hp, -⟩ := mem_under_iff.mp hd
    obtain ⟨q, hq, -⟩ := mem_under_iff.mp he
    rw [hp, hq]
    exact leftOf_cons hlt p q

theorem pairwise_numbered (as : List α) : (numbered as).Pairwise fun d e => LeftOf d.1 e.1 :=
  pairwise_placed fun _ _ => List.pairwise_singleton _ _

end Placed

end Position

end SourceOutline
