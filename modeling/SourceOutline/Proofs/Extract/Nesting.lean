import Mathlib.Data.List.Nodup
import SourceOutline.Proofs.Extract.Walk
import SourceOutline.Proofs.Syntax.Positions

/-!
# Nested things in document order

The declarations of a file are nested in each other: a `Nesting` says which ones stand directly in which, and
at which positions.  `Nesting.spots` lists all of them, each before those nested in it.

* `mem_spots_top`, `mem_spots_nested`, `spots_induction`: which spots are listed.
* `pairwise_spots`: the list is in document order, so nothing is listed twice.
* `exists_block`: what is nested in an item follows it in one block, and `exists_block_of_map_eq` says so of
  what is read off the spots.
* `forall₂_spots`: two lists of spots are related one for one if what is nested in related items is.
* `walkAll_eq`: a walk through the declarations at the spots visits them in this order, and hands on to each
  what those around it hand on, from the outermost inwards.
-/

namespace SourceOutline

open Declaration Position

variable {α : Type}

/-- Something at a position of a tree, with what is around it, the outermost first. -/
structure Spot (α : Type) where
  position : Position
  outer : List α
  item : α

/-- The second spot lies inside the first one. -/
def Spot.Encloses (s t : Spot α) : Prop :=
  ∃ p inner, p ≠ [] ∧ t.position = s.position ++ p ∧ t.outer = s.outer ++ s.item :: inner

/-- What stands directly in what: side by side, at positions below it. -/
structure Nesting (α : Type) where
  below : α → List (Position × α)
  wellFounded : WellFounded fun b a => ∃ p, (p, b) ∈ below a
  ne_nil : ∀ {a e}, e ∈ below a → e.1 ≠ []
  pairwise : ∀ a, (below a).Pairwise fun d e => LeftOf d.1 e.1

namespace Nesting

variable (N : Nesting α)

/-- An item at a position and all that is nested in it, each before what is nested in that. -/
def spotsFrom (outer : List α) (p : Position) (a : α) : List (Spot α) :=
  ⟨p, outer, a⟩ :: (N.below a).attach.flatMap fun e => spotsFrom (outer ++ [a]) (p ++ e.1.1) e.1.2
termination_by N.wellFounded.wrap a
decreasing_by exact ⟨e.1.1, e.2⟩

/-- The spots of several items, one after another, whose positions are given below another one. -/
def spotsIn (outer : List α) (p : Position) (es : List (Position × α)) : List (Spot α) :=
  es.flatMap fun e => N.spotsFrom outer (p ++ e.1) e.2

/-- All spots, given the items that stand in nothing else. -/
def spots (top : List (Position × α)) : List (Spot α) :=
  N.spotsIn [] [] top

theorem spotsFrom_eq (outer : List α) (p : Position) (a : α) :
    N.spotsFrom outer p a = ⟨p, outer, a⟩ :: N.spotsIn (outer ++ [a]) p (N.below a) := by
  rw [spotsFrom, spotsIn, List.flatMap_subtype (g := fun e => N.spotsFrom (outer ++ [a]) (p ++ e.1) e.2)
    fun _ _ => rfl, List.unattach_attach]

variable {N}

/-! ## What is listed -/

section Membership

variable {outer : List α} {p : Position} {a : α} {es top : List (Position × α)}

theorem mem_spotsFrom_self : ⟨p, outer, a⟩ ∈ N.spotsFrom outer p a := by
  rw [spotsFrom_eq]
  exact List.mem_cons_self

theorem mem_spotsFrom_nested {s : Spot α} (hs : s ∈ N.spotsFrom outer p a) {e : Position × α}
    (he : e ∈ N.below s.item) : ⟨s.position ++ e.1, s.outer ++ [s.item], e.2⟩ ∈ N.spotsFrom outer p a := by
  induction outer, p, a using spotsFrom.induct N with
  | case1 outer p a ih =>
    rw [spotsFrom_eq] at hs ⊢
    rcases List.mem_cons.mp hs with rfl | hs
    · exact List.mem_cons_of_mem _ (List.mem_flatMap.mpr ⟨e, he, mem_spotsFrom_self⟩)
    · obtain ⟨d, hd, hs⟩ := List.mem_flatMap.mp hs
      exact List.mem_cons_of_mem _ (List.mem_flatMap.mpr ⟨d, hd, ih ⟨d, hd⟩ hs⟩)

theorem spotsFrom_induction {P : Spot α → Prop} (hself : P ⟨p, outer, a⟩)
    (hnested : ∀ s, P s → ∀ e ∈ N.below s.item, P ⟨s.position ++ e.1, s.outer ++ [s.item], e.2⟩) :
    ∀ s ∈ N.spotsFrom outer p a, P s := by
  intro s hs
  induction outer, p, a using spotsFrom.induct N with
  | case1 outer p a ih =>
    rw [spotsFrom_eq] at hs
    rcases List.mem_cons.mp hs with rfl | hs
    · exact hself
    · obtain ⟨e, he, hs⟩ := List.mem_flatMap.mp hs
      exact ih ⟨e, he⟩ (hnested _ hself e he) hs

theorem mem_spots_top {e : Position × α} (he : e ∈ top) : ⟨e.1, [], e.2⟩ ∈ N.spots top :=
  List.mem_flatMap.mpr ⟨e, he, mem_spotsFrom_self⟩

/-- What is nested in a listed item is listed. -/
theorem mem_spots_nested {s : Spot α} (hs : s ∈ N.spots top) {e : Position × α} (he : e ∈ N.below s.item) :
    ⟨s.position ++ e.1, s.outer ++ [s.item], e.2⟩ ∈ N.spots top := by
  obtain ⟨d, hd, hs⟩ := List.mem_flatMap.mp hs
  exact List.mem_flatMap.mpr ⟨d, hd, mem_spotsFrom_nested hs he⟩

/-- Nothing else is listed: what holds at the top, and of what is nested in an item if it holds of the item,
holds of all spots. -/
theorem spots_induction {P : Spot α → Prop} (htop : ∀ e ∈ top, P ⟨e.1, [], e.2⟩)
    (hnested : ∀ s, P s → ∀ e ∈ N.below s.item, P ⟨s.position ++ e.1, s.outer ++ [s.item], e.2⟩) :
    ∀ s ∈ N.spots top, P s := by
  intro s hs
  obtain ⟨e, he, hs⟩ := List.mem_flatMap.mp hs
  exact spotsFrom_induction (htop e he) hnested s hs

/-- What is listed after an item as its part lies inside it. -/
theorem encloses_of_mem_below {s t : Spot α}
    (ht : t ∈ N.spotsIn (s.outer ++ [s.item]) s.position (N.below s.item)) : s.Encloses t := by
  obtain ⟨e, he, ht⟩ := List.mem_flatMap.mp ht
  refine spotsFrom_induction (P := s.Encloses) ⟨e.1, [], N.ne_nil he, rfl, rfl⟩ ?_ t ht
  rintro t ⟨p, inner, hp, hposition, houter⟩ e' -
  exact ⟨p ++ e'.1, inner ++ [t.item], by simp [hp], by simp [hposition], by simp [houter]⟩

/-- The positions of what is nested in an item are below its position. -/
theorem exists_position_eq {t : Spot α} (ht : t ∈ N.spotsFrom outer p a) : ∃ q, t.position = p ++ q := by
  rw [spotsFrom_eq] at ht
  rcases List.mem_cons.mp ht with rfl | ht
  · exact ⟨[], by simp⟩
  · obtain ⟨q, -, -, hposition, -⟩ := encloses_of_mem_below (s := ⟨p, outer, a⟩) ht
    exact ⟨q, hposition⟩

end Membership

/-! ## The order -/

section Order

variable {outer : List α} {p : Position} {a : α} {es top : List (Position × α)}

theorem pairwise_spotsIn (hes : es.Pairwise fun d e => LeftOf d.1 e.1)
    (hfrom : ∀ e ∈ es, (N.spotsFrom outer (p ++ e.1) e.2).Pairwise fun s t => s.position < t.position) :
    (N.spotsIn outer p es).Pairwise fun s t => s.position < t.position := by
  refine List.pairwise_flatMap.mpr ⟨hfrom, hes.imp fun hleft s hs t ht => ?_⟩
  obtain ⟨q, hq⟩ := exists_position_eq hs
  obtain ⟨r, hr⟩ := exists_position_eq ht
  rw [hq, hr]
  exact lt_of_leftOf ((hleft.below p).append q r)

theorem pairwise_spotsFrom (outer : List α) (p : Position) (a : α) :
    (N.spotsFrom outer p a).Pairwise fun s t => s.position < t.position := by
  induction outer, p, a using spotsFrom.induct N with
  | case1 outer p a ih =>
    rw [spotsFrom_eq]
    refine List.pairwise_cons.mpr ⟨fun t ht => ?_, pairwise_spotsIn (N.pairwise a) fun e he => ih ⟨e, he⟩⟩
    obtain ⟨q, -, hq, hposition, -⟩ := encloses_of_mem_below (s := ⟨p, outer, a⟩) ht
    rw [hposition]
    exact lt_append p hq

/-- **The spots are in document order.** -/
theorem pairwise_spots (htop : top.Pairwise fun d e => LeftOf d.1 e.1) :
    (N.spots top).Pairwise fun s t => s.position < t.position :=
  pairwise_spotsIn htop fun e _ => pairwise_spotsFrom [] ([] ++ e.1) e.2

theorem exists_split_spotsIn (hes : es.Pairwise fun d e => LeftOf d.1 e.1) {e : Position × α} (he : e ∈ es) :
    ∃ before after, N.spotsIn outer p es = before ++ (N.spotsFrom outer (p ++ e.1) e.2 ++ after) ∧
      ∀ t ∈ after, LeftOf (p ++ e.1) t.position := by
  obtain ⟨ds, rest, rfl⟩ := List.append_of_mem he
  refine ⟨N.spotsIn outer p ds, N.spotsIn outer p rest, by simp [spotsIn], fun t ht => ?_⟩
  obtain ⟨e', he', ht⟩ := List.mem_flatMap.mp ht
  obtain ⟨q, hq⟩ := exists_position_eq ht
  have hleft : LeftOf e.1 e'.1 := (List.pairwise_cons.mp (List.pairwise_append.mp hes).2.1).1 e' he'
  have happend := (hleft.below p).append [] q
  rwa [List.append_nil, ← hq] at happend

/-- What is nested in a listed item comes right after it, and then only what is to its right. -/
theorem exists_split_spots (htop : top.Pairwise fun d e => LeftOf d.1 e.1) :
    ∀ s ∈ N.spots top, ∃ before after,
      N.spots top = before ++ (N.spotsFrom s.outer s.position s.item ++ after) ∧
        ∀ t ∈ after, LeftOf s.position t.position := by
  refine spots_induction (fun e he => exists_split_spotsIn htop he) ?_
  rintro s ⟨before, after, hsplit, hafter⟩ e he
  obtain ⟨before', after', hsplit', hafter'⟩ : ∃ before' after',
      N.spotsIn (s.outer ++ [s.item]) s.position (N.below s.item) =
        before' ++ (N.spotsFrom (s.outer ++ [s.item]) (s.position ++ e.1) e.2 ++ after') ∧
      ∀ t ∈ after', LeftOf (s.position ++ e.1) t.position := exists_split_spotsIn (N.pairwise s.item) he
  refine ⟨before ++ s :: before', after' ++ after, ?_, fun t ht => ?_⟩
  · rw [hsplit, spotsFrom_eq, hsplit']
    simp
  · rcases List.mem_append.mp ht with ht | ht
    · exact hafter' t ht
    · -- what is to the right of an item is to the right of all that is nested in it
      have hright := (hafter t ht).append e.1 []
      rwa [List.append_nil] at hright

/-- **What is nested in an item follows it in one block**, and nothing else of it is listed. -/
theorem exists_block (htop : top.Pairwise fun d e => LeftOf d.1 e.1) {s : Spot α} (hs : s ∈ N.spots top) :
    ∃ before block after, N.spots top = before ++ s :: (block ++ after) ∧ (∀ t ∈ block, s.Encloses t) ∧
      ∀ t ∈ before ++ after, ¬ s.Encloses t := by
  obtain ⟨before, after, hsplit, hafter⟩ := exists_split_spots htop s hs
  rw [spotsFrom_eq, List.cons_append] at hsplit
  refine ⟨before, _, after, hsplit, fun t ht => encloses_of_mem_below ht, fun t ht => ?_⟩
  rintro ⟨p, -, hp, hposition, -⟩
  rcases List.mem_append.mp ht with ht | ht
  · have hsorted := pairwise_spots (N := N) htop
    rw [hsplit] at hsorted
    have hlt : t.position < s.position := (List.pairwise_append.mp hsorted).2.2 t ht s List.mem_cons_self
    rw [hposition] at hlt
    exact List.lt_irrefl _ (List.lt_trans hlt (lt_append s.position hp))
  · have hleft := hafter t ht
    rw [hposition] at hleft
    exact not_leftOf_append s.position p hleft

/-- The same of things that are read off the spots, one for each. -/
theorem exists_block_of_map_eq {β : Type} {f : β → Spot α} {bs : List β} (hbs : bs.map f = N.spots top)
    (htop : top.Pairwise fun d e => LeftOf d.1 e.1) {b : β} (hb : b ∈ bs) :
    ∃ before block after, bs = before ++ b :: (block ++ after) ∧ (∀ c ∈ block, (f b).Encloses (f c)) ∧
      ∀ c ∈ before ++ after, ¬ (f b).Encloses (f c) := by
  obtain ⟨before, block, after, hsplit, hblock, hrest⟩ :=
    exists_block htop (s := f b) (hbs ▸ List.mem_map_of_mem hb)
  rw [← hbs] at hsplit
  obtain ⟨before, _, rfl, rfl, htail⟩ := List.map_eq_append_iff.mp hsplit
  obtain ⟨c, _, rfl, hc, htail⟩ := List.map_eq_cons_iff.mp htail
  obtain ⟨block, after, rfl, rfl, rfl⟩ := List.map_eq_append_iff.mp htail
  -- no two spots have the same position
  have hnodup : ((before ++ c :: (block ++ after)).map f).Nodup := by
    rw [hbs]
    refine List.Pairwise.imp (fun {s t} hlt heq => ?_) (pairwise_spots htop)
    rw [heq] at hlt
    exact List.lt_irrefl _ hlt
  obtain rfl : c = b := List.inj_on_of_nodup_map hnodup (by simp) hb hc
  refine ⟨before, block, after, rfl, fun d hd => hblock _ (List.mem_map_of_mem hd), fun d hd => hrest _ ?_⟩
  rw [← List.map_append]
  exact List.mem_map_of_mem hd

end Order

/-! ## Two lists of spots -/

section Simulation

variable {R : Spot α → Spot α → Prop} {top top' : List (Position × α)}

theorem forall₂_spotsFrom
    (hnested : ∀ s t, R s t → List.Forall₂
      (fun d e => R ⟨s.position ++ d.1, s.outer ++ [s.item], d.2⟩ ⟨t.position ++ e.1, t.outer ++ [t.item], e.2⟩)
      (N.below s.item) (N.below t.item))
    (outer outer' : List α) (p p' : Position) (a a' : α) (h : R ⟨p, outer, a⟩ ⟨p', outer', a'⟩) :
    List.Forall₂ R (N.spotsFrom outer p a) (N.spotsFrom outer' p' a') := by
  induction outer, p, a using spotsFrom.induct N generalizing outer' p' a' with
  | case1 outer p a ih =>
    rw [spotsFrom_eq, spotsFrom_eq]
    have hbelow := (List.forall₂_and_left _ _).mpr ⟨fun e he => he, hnested _ _ h⟩
    exact .cons h (List.rel_flatMap hbelow fun d e hde => ih ⟨d, hde.1⟩ _ _ _ hde.2)

/-- What relates the items that stand in nothing else, and with two items those nested in them, relates all
spots one for one. -/
theorem forall₂_spots
    (htop : List.Forall₂ (fun d e => R ⟨d.1, [], d.2⟩ ⟨e.1, [], e.2⟩) top top')
    (hnested : ∀ s t, R s t → List.Forall₂
      (fun d e => R ⟨s.position ++ d.1, s.outer ++ [s.item], d.2⟩ ⟨t.position ++ e.1, t.outer ++ [t.item], e.2⟩)
      (N.below s.item) (N.below t.item)) :
    List.Forall₂ R (N.spots top) (N.spots top') :=
  List.rel_flatMap htop fun d e h => forall₂_spotsFrom hnested [] [] ([] ++ d.1) ([] ++ e.1) d.2 e.2 h

end Simulation

/-! ## Walks -/

section Walks

variable {σ : Type} {D : α → Declaration}

theorem walk_eq (hD : ∀ a, (D a).nested = (N.below a).map fun e => D e.2) (into : σ → Declaration → σ) (s : σ)
    (outer : List α) (p : Position) (a : α) :
    walk into ((outer.map D).foldl into s) (D a) =
      (N.spotsFrom outer p a).map fun t => ((t.outer.map D).foldl into s, D t.item) := by
  induction outer, p, a using spotsFrom.induct N with
  | case1 outer p a ih =>
    have hinto : into ((outer.map D).foldl into s) (D a) = ((outer ++ [a]).map D).foldl into s := by
      rw [List.map_append, List.foldl_append]
      rfl
    rw [walk_eq_cons, hinto, hD, walkAll_eq_flatMap, spotsFrom_eq, List.map_cons, spotsIn, List.map_flatMap,
      List.flatMap_map]
    congr 1
    exact List.flatMap_congr fun e he => ih ⟨e, he⟩

/-- A walk through declarations visits them in document order. -/
theorem walkAll_eq (hD : ∀ a, (D a).nested = (N.below a).map fun e => D e.2) (into : σ → Declaration → σ)
    (s : σ) (top : List (Position × α)) :
    walkAll into s (top.map fun e => D e.2) =
      (N.spots top).map fun t => ((t.outer.map D).foldl into s, D t.item) := by
  rw [walkAll_eq_flatMap, spots, spotsIn, List.map_flatMap, List.flatMap_map]
  exact List.flatMap_congr fun e _ => walk_eq hD into s [] ([] ++ e.1) e.2

end Walks

end Nesting

end SourceOutline
