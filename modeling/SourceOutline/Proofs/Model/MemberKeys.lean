import SourceOutline.Proofs.Model.DetailsText
import SourceOutline.Proofs.Model.Respelling

/-!
# Keys of members

The key of a member is the text of its JSON with the keys of every object in order.  It tells members apart:
the text is read back, and what stands in an object under a key does not depend on the order of its keys.

* `Json.get?_of_sortKeys_eq`: objects that agree in order have the same values under the same keys.
* `TypeDecl.eq_of_sortKeys_eq`: hence types whose JSON agrees in order are the same, and so are members.

Main statement: `Member.key_injective`.
-/

namespace SourceOutline

open Json

/-! ## Values with their keys in order -/

namespace Json

mutual

theorem respelled_sortKeys (names : List FieldName) : ∀ v : Json, Respelled names v v.sortKeys
  | .null => .null
  | .bool b => .bool b
  | .int n => .int n
  | .float x => .float x
  | .str s => .str s
  | .arr items => .arr (respelled_sortItems names items)
  | .obj fields => .obj (renamed_sortFields names fields) (List.mergeSort_perm _ _).symm

theorem respelled_sortItems (names : List FieldName) : ∀ vs : List Json,
    List.Forall₂ (Respelled names) vs
      (mapItems (fun fields => .obj (fields.mergeSort fun a b => decide (a.1 ≤ b.1))) vs)
  | [] => .nil
  | v :: vs => .cons (respelled_sortKeys names v) (respelled_sortItems names vs)

theorem renamed_sortFields (names : List FieldName) : ∀ fs : List (String × Json),
    Renamed names (Respelled names) fs
      (mapFields (fun fields => .obj (fields.mergeSort fun a b => decide (a.1 ≤ b.1))) fs)
  | [] => .nil
  | (_, v) :: fs => .cons (.inl rfl) (respelled_sortKeys names v) (renamed_sortFields names fs)

end

/-- A respelled plain value is plain, if it is a proper value at all. -/
theorem Plain.of_respelled {names : List FieldName} {v w : Json} (hv : v.Plain)
    (h : Respelled names v w) (hw : w.Distinct) : w.Plain := by
  induction v using forall_of_parts generalizing w with
  | h v ih =>
    cases h with
    | arr hitems =>
      refine plainItems_iff.mpr fun u hu => ?_
      obtain ⟨u', hu', hrel⟩ := exists_of_mem_of_forall₂ hitems hu
      exact ih u' hu' (plainItems_iff.mp hv u' hu') hrel (everyObject_arr_iff.mp hw u hu)
    | obj hrenamed hperm =>
      obtain ⟨hkeys, hfields⟩ := everyObject_obj_iff.mp hw
      refine ⟨hkeys, plainFields_iff.mpr fun e he => ?_⟩
      obtain ⟨e', he', -, hrel⟩ := hrenamed.exists_of_mem (hperm.mem_iff.mpr he)
      exact ih e'.2 (mem_parts_obj he') (plainFields_iff.mp hv.2 e' he') hrel (hfields e he)
    | _ => exact hv

theorem distinct_sortKeys {v : Json} (h : v.Distinct) : v.sortKeys.Distinct := by
  -- without any names nothing is spelled in two ways
  have honce : SpelledOnce [] v := everyObject_of_forall (by simp) v
  exact (respelled_sortKeys [] v).distinct (by simp [FieldName.Apart]) h honce

/-! ## What stands under a key -/

theorem mapItems_eq (f : List (String × Json) → Json) : ∀ vs : List Json, mapItems f vs = vs.map (mapObjects f)
  | [] => rfl
  | v :: vs => by rw [mapItems, mapItems_eq f vs, List.map_cons]

theorem mapFields_eq (f : List (String × Json) → Json) :
    ∀ fs : List (String × Json), mapFields f fs = fs.map fun e => (e.1, mapObjects f e.2)
  | [] => rfl
  | (_, v) :: fs => by rw [mapFields, mapFields_eq f fs, List.map_cons]

theorem sortKeys_str (s : String) : (Json.str s).sortKeys = .str s := rfl

theorem sortKeys_bool (b : Bool) : (Json.bool b).sortKeys = .bool b := rfl

theorem sortKeys_arr (items : List Json) : (Json.arr items).sortKeys = .arr (items.map sortKeys) := by
  rw [sortKeys, mapObjects, mapItems_eq]
  rfl

/-- Two objects that are the same in order have the same values, up to order. -/
theorem get?_of_sortKeys_eq {fs gs : List (String × Json)} (hfs : (Table.keys fs).Nodup)
    (hgs : (Table.keys gs).Nodup) (h : (Json.obj fs).sortKeys = (Json.obj gs).sortKeys) (key : String) :
    (Table.get? fs key).map sortKeys = (Table.get? gs key).map sortKeys := by
  have hsorted : ∀ hs : List (String × Json), (Table.keys hs).Nodup →
      ∃ ordered, (Json.obj hs).sortKeys = .obj ordered ∧
        Table.get? ordered key = (Table.get? hs key).map sortKeys := by
    intro hs hnodup
    refine ⟨_, rfl, ?_⟩
    have hkeys : Table.keys (hs.map fun e => (e.1, e.2.sortKeys)) = Table.keys hs := by
      rw [Table.keys, Table.keys, List.map_map]
      rfl
    rw [mapFields_eq, ← Table.get?_of_perm (hkeys ▸ hnodup) (List.mergeSort_perm _ _).symm]
    exact Table.get?_map_values sortKeys hs key
  obtain ⟨fs', hf, hget⟩ := hsorted fs hfs
  obtain ⟨gs', hg, hget'⟩ := hsorted gs hgs
  rw [hf, hg] at h
  rw [← hget, ← hget', Json.obj.inj h]

end Json

/-! ## Records with their keys in order -/

section Ordered

theorem Visibility.word_injective : Function.Injective Visibility.word := by
  intro v w h
  rw [← Option.some.injEq, ← Visibility.ofWord?_word v, ← Visibility.ofWord?_word w, h]

theorem TypeKind.word_injective : Function.Injective TypeKind.word := by
  intro k l h
  rw [← Option.some.injEq, ← TypeKind.ofWord?_word k, ← TypeKind.ofWord?_word l, h]

theorem Package.eq_of_sortKeys_eq {p q : Package} (h : p.toJson.sortKeys = q.toJson.sortKeys) : p = q := by
  have hget := get?_of_sortKeys_eq p.plain_toJson.1 q.plain_toJson.1 h "name"
  have hname : p.name = q.name := by simpa [Table.get?, sortKeys_str] using hget
  exact congrArg Package.mk hname

theorem Modifiers.eq_of_sortKeys_eq {a b : Modifiers} (h : a.toJson.sortKeys = b.toJson.sortKeys) : a = b := by
  have hget := get?_of_sortKeys_eq a.plain_toJson.1 b.plain_toJson.1 h
  obtain ⟨isStatic, isFinal, isAbstract, visibility⟩ := a
  obtain ⟨isStatic', isFinal', isAbstract', visibility'⟩ := b
  obtain rfl : isStatic = isStatic' := by simpa [Table.get?, sortKeys_bool] using hget "isStatic"
  obtain rfl : isFinal = isFinal' := by simpa [Table.get?, sortKeys_bool] using hget "isFinal"
  obtain rfl : isAbstract = isAbstract' := by simpa [Table.get?, sortKeys_bool] using hget "isAbstract"
  obtain rfl : visibility = visibility' :=
    Visibility.word_injective (by simpa [Table.get?, sortKeys_str] using hget "visibility")
  rfl

mutual

theorem TypeDecl.eq_of_sortKeys_eq : ∀ {t u : TypeDecl}, t.toJson.sortKeys = u.toJson.sortKeys → t = u
  | ⟨package, name, modifiers, kind, superClasses, interfaces⟩,
    ⟨package', name', modifiers', kind', superClasses', interfaces'⟩, h => by
    have hget := get?_of_sortKeys_eq
      (TypeDecl.plain_toJson ⟨package, name, modifiers, kind, superClasses, interfaces⟩).1
      (TypeDecl.plain_toJson ⟨package', name', modifiers', kind', superClasses', interfaces'⟩).1 h
    obtain rfl : package = package' :=
      Package.eq_of_sortKeys_eq (by simpa [Table.get?] using hget "package")
    obtain rfl : name = name' := by simpa [Table.get?, sortKeys_str] using hget "name"
    obtain rfl : modifiers = modifiers' :=
      Modifiers.eq_of_sortKeys_eq (by simpa [Table.get?] using hget "modifiers")
    obtain rfl : kind = kind' :=
      TypeKind.word_injective (by simpa [Table.get?, sortKeys_str] using hget "type")
    obtain rfl : superClasses = superClasses' :=
      TypeDecl.eq_of_sortKeysAll_eq (by simpa [Table.get?, sortKeys_arr] using hget "superClasses")
    obtain rfl : interfaces = interfaces' :=
      TypeDecl.eq_of_sortKeysAll_eq (by simpa [Table.get?, sortKeys_arr] using hget "interfaces")
    rfl

theorem TypeDecl.eq_of_sortKeysAll_eq : ∀ {ts us : List TypeDecl},
    (TypeDecl.toJsonAll ts).map sortKeys = (TypeDecl.toJsonAll us).map sortKeys → ts = us
  | [], [], _ => rfl
  | [], _ :: _, h => by simp [TypeDecl.toJsonAll] at h
  | _ :: _, [], h => by simp [TypeDecl.toJsonAll] at h
  | t :: ts, u :: us, h => by
    rw [TypeDecl.toJsonAll, TypeDecl.toJsonAll, List.map_cons, List.map_cons, List.cons.injEq] at h
    rw [TypeDecl.eq_of_sortKeys_eq h.1, TypeDecl.eq_of_sortKeysAll_eq h.2]

end

theorem Parameter.eq_of_sortKeys_eq {p q : Parameter} (h : p.toJson.sortKeys = q.toJson.sortKeys) : p = q := by
  have hget := get?_of_sortKeys_eq p.plain_toJson.1 q.plain_toJson.1 h
  obtain ⟨name, type⟩ := p
  obtain ⟨name', type'⟩ := q
  obtain rfl : name = name' := by simpa [Table.get?, sortKeys_str] using hget "name"
  obtain rfl : type = type' := TypeDecl.eq_of_sortKeys_eq (by simpa [Table.get?] using hget "type")
  rfl

theorem FieldDecl.eq_of_sortKeys_eq {f g : FieldDecl} (h : f.toJson.sortKeys = g.toJson.sortKeys) : f = g := by
  have hget := get?_of_sortKeys_eq f.plain_toJson.1 g.plain_toJson.1 h
  obtain ⟨name, modifiers, type⟩ := f
  obtain ⟨name', modifiers', type'⟩ := g
  obtain rfl : name = name' := by simpa [Table.get?, sortKeys_str] using hget "name"
  obtain rfl : modifiers = modifiers' :=
    Modifiers.eq_of_sortKeys_eq (by simpa [Table.get?] using hget "modifiers")
  obtain rfl : type = type' := TypeDecl.eq_of_sortKeys_eq (by simpa [Table.get?] using hget "type")
  rfl

theorem MethodDecl.eq_of_sortKeys_eq {m n : MethodDecl} (h : m.toJson.sortKeys = n.toJson.sortKeys) :
    m = n := by
  have hget := get?_of_sortKeys_eq m.plain_toJson.1 n.plain_toJson.1 h
  obtain ⟨name, modifiers, returnType, parameters⟩ := m
  obtain ⟨name', modifiers', returnType', parameters'⟩ := n
  obtain rfl : name = name' := by simpa [Table.get?, sortKeys_str] using hget "name"
  obtain rfl : modifiers = modifiers' :=
    Modifiers.eq_of_sortKeys_eq (by simpa [Table.get?] using hget "modifiers")
  obtain rfl : returnType = returnType' :=
    TypeDecl.eq_of_sortKeys_eq (by simpa [Table.get?] using hget "returnType")
  have hall : parameters.map (fun p => p.toJson.sortKeys) = parameters'.map fun p => p.toJson.sortKeys := by
    simpa [Table.get?, sortKeys_arr, Function.comp_def] using hget "parameters"
  obtain rfl : parameters = parameters' :=
    List.map_injective_iff.mpr (fun _ _ hp => Parameter.eq_of_sortKeys_eq hp) hall
  rfl

theorem Member.eq_of_sortKeys_eq {m m' : Member} (h : m.toJson.sortKeys = m'.toJson.sortKeys) : m = m' := by
  cases m with
  | field f =>
    cases m' with
    | field g => rw [FieldDecl.eq_of_sortKeys_eq h]
    | method m =>
      have hkind := get?_of_sortKeys_eq f.plain_toJson.1 m.plain_toJson.1 h "kind"
      simp [Table.get?, sortKeys_str] at hkind
  | method m =>
    cases m' with
    | field f =>
      have hkind := get?_of_sortKeys_eq m.plain_toJson.1 f.plain_toJson.1 h "kind"
      simp [Table.get?, sortKeys_str] at hkind
    | method n => rw [MethodDecl.eq_of_sortKeys_eq h]

end Ordered

/-! ## Keys -/

namespace Member

theorem parse?_key (m : Member) : Json.parse? m.key = some m.toJson.sortKeys := by
  have hplain := m.plain_toJson.of_respelled (Json.respelled_sortKeys [] _)
    (Json.distinct_sortKeys m.plain_toJson.distinct)
  exact Json.parse?_render Json.Style.spaced_legal hplain

/-- **A key tells members apart.** -/
theorem key_injective : Function.Injective key := by
  intro m m' h
  have hsorted : some m.toJson.sortKeys = some m'.toJson.sortKeys := by
    rw [← parse?_key, ← parse?_key, h]
  exact eq_of_sortKeys_eq (Option.some.inj hsorted)

end Member

end SourceOutline
