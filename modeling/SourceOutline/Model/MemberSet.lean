import SourceOutline.Model.Dump

/-!
# Sets of members

The members of a type form a set. It is kept as the list of its members in the order of their
keys, each once, so that two sets with the same members are equal.

* `MemberSet.ofList` forgets order and repetition.
* `MemberSet.fields` and `MemberSet.methods` are the sorted views: fields by name, methods by name
  and number of parameters, ties in the order of keys.
-/

namespace SourceOutline

/-- Members in the order of their keys, each once. -/
structure MemberSet where
  items : List Member
  ordered : items.Pairwise fun a b => a.key < b.key

namespace MemberSet

theorem eq_iff {s t : MemberSet} : s = t ↔ s.items = t.items := by
  cases s
  cases t
  simp

instance : DecidableEq MemberSet := fun _ _ => decidable_of_iff _ eq_iff.symm

/-- Puts a member in its place in a list that is in order. -/
def place (m : Member) : List Member → List Member
  | [] => [m]
  | a :: r =>
    if m.key < a.key then m :: a :: r
    else if a.key < m.key then a :: place m r
    else a :: r

theorem mem_place_imp {m x : Member} {l : List Member} (h : x ∈ place m l) : x = m ∨ x ∈ l := by
  induction l with
  | nil => simpa [place] using h
  | cons a r ih =>
    rw [place] at h
    split at h
    · simpa using h
    · split at h
      · rcases List.mem_cons.1 h with rfl | h
        · simp
        · rcases ih h with h | h <;> simp [h]
      · exact .inr h

theorem pairwise_place (m : Member) {l : List Member}
    (h : l.Pairwise fun a b => a.key < b.key) :
    (place m l).Pairwise fun a b => a.key < b.key := by
  induction l with
  | nil => simp [place]
  | cons a r ih =>
    have ⟨ha, hr⟩ := List.pairwise_cons.1 h
    rw [place]
    split
    · rename_i hlt
      refine List.pairwise_cons.2 ⟨fun x hx => ?_, h⟩
      rcases List.mem_cons.1 hx with rfl | hx
      · exact hlt
      · exact String.lt_trans hlt (ha x hx)
    · split
      · rename_i hlt
        refine List.pairwise_cons.2 ⟨fun x hx => ?_, ih hr⟩
        rcases mem_place_imp hx with rfl | hx
        · exact hlt
        · exact ha x hx
      · exact h

/-- Adds a member. -/
def insert (s : MemberSet) (m : Member) : MemberSet :=
  ⟨place m s.items, pairwise_place m s.ordered⟩

/-- No members. -/
def empty : MemberSet := ⟨[], .nil⟩

instance : Inhabited MemberSet := ⟨empty⟩

/-- The set of the members of a list. -/
def ofList (ms : List Member) : MemberSet :=
  ms.foldl insert empty

/-- The fields by name. -/
def fields (s : MemberSet) : List FieldDecl :=
  (s.items.filterMap Member.field?).mergeSort fun a b => decide (a.name ≤ b.name)

/-- The methods by name, then by number of parameters. -/
def methods (s : MemberSet) : List MethodDecl :=
  (s.items.filterMap Member.method?).mergeSort fun a b =>
    decide (a.name < b.name) || (decide (a.name = b.name)
      && decide (a.parameters.length ≤ b.parameters.length))

end MemberSet

end SourceOutline
