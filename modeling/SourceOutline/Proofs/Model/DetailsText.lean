import SourceOutline.Proofs.Extract.Mentions
import SourceOutline.Proofs.Model.OutlineText

/-!
# Types with members and their JSON

A type with its members is read back from its JSON if the type and all types in its members are
consistent.

* `MemberSet.ofList_items`: a set is made again from its members in their order.
* `Member.ofJson_toJson`: a field is read as a field and a method as a method, by `kind`.

Main statements: `TypeDetails.ofJson_toJson` and `TypeDetails.plain_toJson`.
-/

namespace SourceOutline

open Checked

theorem TypeDecl.consistent_stub (package name : String) (kind : TypeKind) :
    (stub package name kind).consistent = true := by
  have h := violation?_stub package name kind
  unfold stub at h
  rw [stub, consistent, h]
  rfl

/-- All types in the declaration of a member are consistent. -/
def Member.Consistent (m : Member) : Prop :=
  ∀ t ∈ m.types, t.consistent = true

/-- The type is consistent, and so are the types in its members. -/
def TypeDetails.Consistent (d : TypeDetails) : Prop :=
  d.type.consistent = true ∧ ∀ m ∈ d.members.items, m.Consistent

/-! ## Sets of members -/

namespace MemberSet

/-- A member whose key comes after all others stands last. -/
theorem place_of_forall_lt {m : Member} {l : List Member} (h : ∀ a ∈ l, a.key < m.key) :
    place m l = l ++ [m] := by
  induction l with
  | nil => rfl
  | cons a l ih =>
    have ha := h a List.mem_cons_self
    have hle : ¬ m.key < a.key := fun hlt => String.lt_irrefl _ (String.lt_trans hlt ha)
    rw [place, if_neg hle, if_pos ha, ih fun b hb => h b (List.mem_cons_of_mem _ hb)]
    rfl

theorem items_foldl_insert {l : List Member} {s : MemberSet}
    (h : (s.items ++ l).Pairwise fun a b => a.key < b.key) : (l.foldl insert s).items = s.items ++ l := by
  induction l generalizing s with
  | nil => simp
  | cons m l ih =>
    have hlast : ∀ a ∈ s.items, a.key < m.key := fun a ha =>
      (List.pairwise_append.mp h).2.2 a ha m List.mem_cons_self
    have hinsert : (s.insert m).items = s.items ++ [m] := place_of_forall_lt hlast
    rw [List.foldl_cons, ih (by rwa [hinsert, List.append_assoc]), hinsert, List.append_assoc]
    rfl

/-- The members of a set, in their order, make the set again. -/
theorem ofList_items (s : MemberSet) : ofList s.items = s :=
  eq_iff.mpr (items_foldl_insert (s := empty) s.ordered)

theorem mem_items_foldl_insert {m : Member} {l : List Member} {s : MemberSet}
    (h : m ∈ (l.foldl insert s).items) : m ∈ s.items ∨ m ∈ l := by
  induction l generalizing s with
  | nil => exact .inl h
  | cons a l ih =>
    rcases ih h with h | h
    · rcases mem_place_imp h with rfl | h
      · exact .inr List.mem_cons_self
      · exact .inl h
    · exact .inr (List.mem_cons_of_mem _ h)

theorem mem_of_mem_ofList {m : Member} {l : List Member} (h : m ∈ (ofList l).items) : m ∈ l := by
  rcases mem_items_foldl_insert h with h | h
  · simp [empty] at h
  · exact h

end MemberSet

/-! ## Members are plain -/

section Plain

theorem Parameter.plain_toJson (p : Parameter) : p.toJson.Plain :=
  ⟨by simp, trivial, p.type.plain_toJson, trivial⟩

theorem FieldDecl.plain_toJson (f : FieldDecl) : f.toJson.Plain :=
  ⟨by simp, trivial, f.modifiers.plain_toJson, trivial, f.type.plain_toJson, trivial⟩

theorem MethodDecl.plain_toJson (m : MethodDecl) : m.toJson.Plain :=
  ⟨by simp, trivial, m.modifiers.plain_toJson, trivial, m.returnType.plain_toJson,
    Json.plainItems_map fun p _ => p.plain_toJson, trivial⟩

theorem Member.plain_toJson (m : Member) : m.toJson.Plain := by
  cases m with
  | field f => exact f.plain_toJson
  | method m => exact m.plain_toJson

theorem TypeDetails.plain_toJson (d : TypeDetails) : d.toJson.Plain :=
  ⟨by simp, d.type.plain_toJson, Json.plainItems_map fun m _ => m.plain_toJson, trivial⟩

end Plain

/-! ## Members are read back -/

section Reading

theorem Parameter.ofJson_toJson {p : Parameter} (h : p.type.consistent = true) :
    Parameter.ofJson p.toJson = .ok p := by
  unfold Parameter.ofJson Parameter.toJson
  rw [object, required_of_find? rfl (string_str p.name), required_of_find? rfl (TypeDecl.ofJson_toJson h)]
  exact closed_ok rfl p

theorem literal_self (w : String) : literal w (.str w) = .ok () :=
  if_pos rfl

theorem FieldDecl.ofJson_toJson {f : FieldDecl} (h : f.type.consistent = true) :
    FieldDecl.ofJson f.toJson = .ok f := by
  unfold FieldDecl.ofJson FieldDecl.toJson
  rw [object, required_of_find? rfl (string_str f.name),
    optional_of_find? rfl (Modifiers.ofJson_toJson f.modifiers), optional_of_find? rfl (literal_self "field"),
    required_of_find? rfl (TypeDecl.ofJson_toJson h)]
  exact closed_ok rfl f

theorem MethodDecl.ofJson_toJson {m : MethodDecl} (h : (Member.method m).Consistent) :
    MethodDecl.ofJson m.toJson = .ok m := by
  have hreturn : m.returnType.consistent = true := h _ List.mem_cons_self
  have hparameters : sequence Parameter.ofJson (.arr (m.parameters.map Parameter.toJson)) = .ok m.parameters :=
    itemsFrom_map 0 m.parameters fun p hp =>
      Parameter.ofJson_toJson (h _ (List.mem_cons_of_mem _ (List.mem_map_of_mem hp)))
  unfold MethodDecl.ofJson MethodDecl.toJson
  rw [object, required_of_find? rfl (string_str m.name),
    optional_of_find? rfl (Modifiers.ofJson_toJson m.modifiers), optional_of_find? rfl (literal_self "method"),
    required_of_find? rfl (TypeDecl.ofJson_toJson hreturn), optional_of_find? rfl hparameters]
  exact closed_ok rfl m

/-- A member is read back as what it is. -/
theorem Member.ofJson_toJson {m : Member} (h : m.Consistent) : Member.ofJson m.toJson = .ok m := by
  cases m with
  | field f =>
    show under (.key "field") ((FieldDecl.ofJson f.toJson).map Member.field) = _
    rw [FieldDecl.ofJson_toJson (h _ List.mem_cons_self)]
    rfl
  | method m =>
    show under (.key "method") ((MethodDecl.ofJson m.toJson).map Member.method) = _
    rw [MethodDecl.ofJson_toJson h]
    rfl

theorem MemberSet.ofJson_toJson {s : MemberSet} (h : ∀ m ∈ s.items, m.Consistent) :
    MemberSet.ofJson (.arr (s.items.map Member.toJson)) = .ok s := by
  rw [MemberSet.ofJson, itemsFrom_map 0 s.items fun m hm => Member.ofJson_toJson (h m hm)]
  show Except.ok (ofList s.items) = _
  rw [ofList_items]

/-- **A type with its members is read back.** -/
theorem TypeDetails.ofJson_toJson {d : TypeDetails} (h : d.Consistent) : TypeDetails.ofJson d.toJson = .ok d := by
  unfold TypeDetails.ofJson TypeDetails.toJson
  rw [object, required_of_find? rfl (TypeDecl.ofJson_toJson h.1),
    optional_of_find? rfl (MemberSet.ofJson_toJson h.2)]
  exact closed_ok rfl d

end Reading

end SourceOutline
