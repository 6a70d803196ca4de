import SourceOutline.Model.RecordClass
import SourceOutline.Proofs.Model.Reading
import SourceOutline.Proofs.Validation.Respelling

/-!
# Records in other spellings

A record is read alike under either spelling of its fields and in any order of them, at every depth.

* `FieldName.all`: the fields of all records, no two of which share a spelling.
* `TypeDecl.steady_ofJson`, `Member.steady_ofJson`: the two records that are not read field by field.

Main statement: `RecordClass.ofJson_of_respelled`.
-/

namespace SourceOutline

open Checked

namespace FieldName

/-- The fields of all records. -/
def all : List FieldName :=
  [name, package, modifiers, type, kind, interfaces, superClasses, isStatic, isFinal, isAbstract, visibility,
    returnType, parameters, typeMembers, value, imports, types]

theorem apart_all : Apart all := by
  have hspells : ∀ f ∈ all, ∀ g ∈ all, g.spells f.key = true ∨ g.spells f.other = true → f = g := by
    decide +kernel
  intro f hf g hg key hkey hkey'
  rcases spells_iff.mp hkey with rfl | rfl
  · exact hspells f hf g hg (.inl hkey')
  · exact hspells f hf g hg (.inr hkey')

end FieldName

/-- A reader gives the same under all spellings of the fields of records. -/
abbrev IgnoresSpelling (read : Json → Checked α) : Prop :=
  ∀ v, Steady FieldName.all read v

/-! ## Single values -/

section Plain

theorem steady_string : IgnoresSpelling string :=
  steady_of_plain (fun _ => ⟨_, rfl⟩) fun _ => ⟨_, rfl⟩

theorem steady_bool : IgnoresSpelling bool :=
  steady_of_plain (fun _ => ⟨_, rfl⟩) fun _ => ⟨_, rfl⟩

theorem steady_word (ofWord? : String → Option α) : IgnoresSpelling (word ofWord?) :=
  steady_of_plain (fun _ => ⟨_, rfl⟩) fun _ => ⟨_, rfl⟩

theorem steady_literal (w : String) : IgnoresSpelling (literal w) :=
  steady_of_plain (fun _ => ⟨_, rfl⟩) fun _ => ⟨_, rfl⟩

end Plain

/-! ## Records without types -/

section Records

/-- A record whose fields are read alike is read alike. -/
theorem steady_record {ns : List FieldName} {body : List (String × Json) → Checked α}
    (hns : ns ⊆ FieldName.all)
    (hbody : ∀ fs hs, Matching FieldName.all ns fs hs → Agree (body fs) (body hs)) :
    IgnoresSpelling (object fun fields => closed ns fields (body fields)) := fun v =>
  steady_object FieldName.apart_all hns v fun fs _ hs => hbody fs hs

theorem steady_optional {ns : List FieldName} {fs hs : List (String × Json)} {f : FieldName} {default : α}
    {read : Json → Checked α} (h : Matching FieldName.all ns fs hs) (hf : f ∈ ns)
    (hread : IgnoresSpelling read) : Agree (optional f default read fs) (optional f default read hs) :=
  h.optional hf fun v _ => hread v

theorem steady_required {ns : List FieldName} {fs hs : List (String × Json)} {f : FieldName}
    {read : Json → Checked α} (h : Matching FieldName.all ns fs hs) (hf : f ∈ ns)
    (hread : IgnoresSpelling read) : Agree (required f read fs) (required f read hs) :=
  h.required hf fun v _ => hread v

theorem Package.steady_ofJson : IgnoresSpelling Package.ofJson :=
  steady_record (by simp [FieldName.all]) fun fs hs h => (steady_optional h (by simp) steady_string).map _

theorem Modifiers.steady_ofJson : IgnoresSpelling Modifiers.ofJson :=
  steady_record (by simp [FieldName.all]) fun fs hs h =>
    ((steady_optional h (by simp) steady_bool).both <| (steady_optional h (by simp) steady_bool).both <|
      (steady_optional h (by simp) steady_bool).both (steady_optional h (by simp) (steady_word _))).map _

theorem Import.steady_ofJson : IgnoresSpelling Import.ofJson :=
  steady_record (by simp [FieldName.all]) fun fs hs h => (steady_required h (by simp) steady_string).map _

theorem PlainMember.steady_ofJson : IgnoresSpelling PlainMember.ofJson :=
  steady_record (by simp [FieldName.all]) fun fs hs h =>
    ((steady_required h (by simp) steady_string).both
      (steady_optional h (by simp) Modifiers.steady_ofJson)).map _

end Records

/-! ## Types -/

section Types

/-- Both for a value that is a type and for one that is a list of types: the one has the other for a
part, and the other way around. -/
theorem TypeDecl.steady_ofJson_and (v : Json) :
    Steady FieldName.all TypeDecl.ofJson v ∧ Steady FieldName.all (sequence TypeDecl.ofJson) v := by
  induction v using Json.forall_of_parts with
  | h v ih =>
    refine ⟨fun w h hv hw => ?_, steady_sequence v fun u hu => (ih u hu).1⟩
    rw [ofJson_eq, ofJson_eq]
    refine (steady_object FieldName.apart_all ?_ v (fun fs hfs hs hm => ?_) w h hv hw).bind _
    · simp [fieldNames, FieldName.all]
    · subst hfs
      unfold fieldNames at hm
      have hlist : ∀ u ∈ (Json.obj fs).parts, Steady FieldName.all (sequence TypeDecl.ofJson) u :=
        fun u hu => (ih u hu).2
      exact ((steady_optional hm (by simp) Package.steady_ofJson).both <|
        (steady_required hm (by simp) steady_string).both <|
        (steady_optional hm (by simp) Modifiers.steady_ofJson).both <|
        (steady_optional hm (by simp) (steady_word _)).both <|
        (hm.optional (by simp) hlist).both (hm.optional (by simp) hlist)).map _

theorem TypeDecl.steady_ofJson : IgnoresSpelling TypeDecl.ofJson := fun v => (steady_ofJson_and v).1

theorem TypeDecl.steady_listOfJson : IgnoresSpelling TypeDecl.listOfJson := by
  rw [listOfJson_eq]
  exact fun v => (steady_ofJson_and v).2

end Types

/-! ## Members and files -/

section Members

theorem Parameter.steady_ofJson : IgnoresSpelling Parameter.ofJson :=
  steady_record (by simp [FieldName.all]) fun fs hs h =>
    ((steady_required h (by simp) steady_string).both
      (steady_required h (by simp) TypeDecl.steady_ofJson)).map _

theorem FieldDecl.steady_ofJson : IgnoresSpelling FieldDecl.ofJson :=
  steady_record (by simp [FieldName.all]) fun fs hs h =>
    ((steady_required h (by simp) steady_string).both <|
      (steady_optional h (by simp) Modifiers.steady_ofJson).both <|
      (steady_optional h (by simp) (steady_literal _)).both
      (steady_required h (by simp) TypeDecl.steady_ofJson)).map _

theorem MethodDecl.steady_ofJson : IgnoresSpelling MethodDecl.ofJson :=
  steady_record (by simp [FieldName.all]) fun fs hs h =>
    ((steady_required h (by simp) steady_string).both <|
      (steady_optional h (by simp) Modifiers.steady_ofJson).both <|
      (steady_optional h (by simp) (steady_literal _)).both <|
      (steady_required h (by simp) TypeDecl.steady_ofJson).both
      (steady_optional h (by simp) fun v => steady_sequence v fun u _ => Parameter.steady_ofJson u)).map _

/-- The word that tells members apart has one spelling, and may stand anywhere. -/
theorem get?_kind_of_respelled {fs gs hs : List (String × Json)}
    (hrenamed : Renamed FieldName.all (Respelled FieldName.all) fs gs) (hperm : gs.Perm hs)
    (hfs : (Json.obj fs).Distinct) (hhs : (Json.obj hs).Distinct) (w : String) :
    Table.get? fs "kind" = some (.str w) ↔ Table.get? hs "kind" = some (.str w) := by
  have hfind : ∀ fields : List (String × Json),
      FieldName.kind.find? fields = (Table.get? fields "kind").map fun v => ("kind", v) := by
    intro fields
    rw [FieldName.find?]
    cases h : Table.get? fields "kind" <;> simp [FieldName.kind, FieldName.plain, h]
  have honce : ∀ f ∈ [FieldName.kind], f.Once fs := by
    intro f hf
    rw [List.mem_singleton.mp hf]
    exact (FieldName.once_iff_not_twofold (Json.everyObject_obj_iff.mp hfs).1).mpr fun htwo => htwo.1 rfl
  have hmatching : Matching FieldName.all [.kind] fs hs :=
    Respelled.matching hrenamed hperm FieldName.apart_all (by simp [FieldName.all]) hfs hhs honce
  have hkind := hmatching .kind List.mem_cons_self
  rw [hfind, hfind] at hkind
  obtain ⟨hfs, hhs⟩ | ⟨key, v, key', v', hfs, hhs, -, hrel, -, -⟩ := hkind
  · rw [Option.map_eq_none_iff.mp hfs, Option.map_eq_none_iff.mp hhs]
  · obtain ⟨u, hu, huv⟩ := Option.map_eq_some_iff.mp hfs
    obtain ⟨u', hu', huv'⟩ := Option.map_eq_some_iff.mp hhs
    obtain rfl := (Prod.mk.inj huv).2
    obtain rfl := (Prod.mk.inj huv').2
    rw [hu, hu']
    cases hrel <;> simp

theorem Member.steady_ofJson : IgnoresSpelling Member.ofJson := by
  intro v w h hv hw
  cases h with
  | @obj fs gs hs hrenamed hperm =>
    have hfield := FieldDecl.steady_ofJson _ _ (.obj hrenamed hperm) hv hw
    have hmethod := MethodDecl.steady_ofJson _ _ (.obj hrenamed hperm) hv hw
    have hkind := get?_kind_of_respelled hrenamed hperm hv hw
    by_cases hf : Table.get? fs "kind" = some (.str "field")
    · rw [ofJson_of_field hf, ofJson_of_field ((hkind "field").mp hf)]
      exact (hfield.map _).under _ _
    · by_cases hm : Table.get? fs "kind" = some (.str "method")
      · rw [ofJson_of_method hm, ofJson_of_method ((hkind "method").mp hm)]
        exact (hmethod.map _).under _ _
      · obtain ⟨c, -, hc⟩ := ofJson_of_other hf hm
        obtain ⟨c', -, hc'⟩ := ofJson_of_other (mt (hkind "field").mpr hf) (mt (hkind "method").mpr hm)
        rw [hc, hc']
        exact agree_error _ _
  | _ => exact agree_error _ _

theorem MemberSet.steady_ofJson : IgnoresSpelling MemberSet.ofJson := by
  intro v w h hv hw
  cases h with
  | arr hitems =>
    exact (agree_itemsFrom hitems (fun u _ => Member.steady_ofJson u) (Json.everyObject_arr_iff.mp hv)
      (Json.everyObject_arr_iff.mp hw) 0).map _
  | _ => exact agree_error _ _

theorem TypeDetails.steady_ofJson : IgnoresSpelling TypeDetails.ofJson :=
  steady_record (by simp [FieldName.all]) fun fs hs h =>
    ((steady_required h (by simp) TypeDecl.steady_ofJson).both
      (steady_optional h (by simp) MemberSet.steady_ofJson)).map _

theorem ParsedFile.steady_ofJson : IgnoresSpelling ParsedFile.ofJson :=
  steady_record (by simp [FieldName.all]) fun fs hs h =>
    ((steady_optional h (by simp) fun v => steady_sequence v fun u _ => Import.steady_ofJson u).both
      (steady_optional h (by simp) TypeDecl.steady_listOfJson)).map _

theorem RecordClass.steady_ofJson (c : RecordClass) : IgnoresSpelling c.ofJson := by
  cases c with
  | package => exact Package.steady_ofJson
  | modifiers => exact Modifiers.steady_ofJson
  | type => exact TypeDecl.steady_ofJson
  | plainMember => exact PlainMember.steady_ofJson
  | field => exact FieldDecl.steady_ofJson
  | method => exact MethodDecl.steady_ofJson
  | parameter => exact Parameter.steady_ofJson
  | details => exact TypeDetails.steady_ofJson
  | importEntry => exact Import.steady_ofJson
  | file => exact ParsedFile.steady_ofJson

end Members

/-! ## The result -/

section Result

/-- **Records in other spellings.**  An input and the same input with fields under their other spelling
and in another order, at any places and depths, are accepted as records of a class together, and then as
the same record.  The input is made of proper objects, and so is the other one: that is sure if no object
gives both spellings of a field. -/
theorem RecordClass.ofJson_of_respelled (c : RecordClass) (r : c.Record) {v w : Json}
    (h : Respelled FieldName.all v w) (hv : v.Distinct) (hw : SpelledOnce FieldName.all v ∨ w.Distinct) :
    c.ofJson v = .ok r ↔ c.ofJson w = .ok r := by
  have hw : w.Distinct := hw.elim (fun honce => h.distinct FieldName.apart_all hv honce) id
  exact c.steady_ofJson v w h hv hw r

/-- A class with a super class, read with two of its fields in snake case and in another order. -/
theorem RecordClass.ofJson_of_respelled_type :
    TypeDecl.ofJson (.obj [("super_classes", .arr [.obj [("name", .str "B")]]), ("name", .str "A"),
      ("modifiers", .obj [("is_static", .bool true)])]) =
    .ok ⟨{}, "A", { isStatic := true }, .classType, [.stub "" "B"], []⟩ := by
  have hmodifiers : Respelled FieldName.all (.obj [("isStatic", .bool true)])
      (.obj [("is_static", .bool true)]) :=
    .obj (.cons (.inr ⟨.isStatic, by decide, by decide, by decide⟩) (.bool true) .nil) (.refl _)
  have hclasses : Respelled FieldName.all (.arr [.obj [("name", .str "B")]])
      (.arr [.obj [("name", .str "B")]]) :=
    .arr (.cons (.obj (.cons (.inl rfl) (.str "B") .nil) (.refl _)) .nil)
  have hrenamed : Renamed FieldName.all (Respelled FieldName.all)
      [("name", .str "A"), ("modifiers", .obj [("isStatic", .bool true)]),
        ("superClasses", .arr [.obj [("name", .str "B")]])]
      [("name", .str "A"), ("modifiers", .obj [("is_static", .bool true)]),
        ("super_classes", .arr [.obj [("name", .str "B")]])] :=
    .cons (.inl rfl) (.str "A") <| .cons (.inl rfl) hmodifiers <|
      .cons (.inr ⟨.superClasses, by decide, by decide, by decide⟩) hclasses .nil
  have hperm : ([("name", Json.str "A"), ("modifiers", .obj [("is_static", .bool true)])] ++
      [("super_classes", Json.arr [.obj [("name", .str "B")]])]).Perm
      [("super_classes", .arr [.obj [("name", .str "B")]]), ("name", .str "A"),
        ("modifiers", .obj [("is_static", .bool true)])] := List.perm_append_comm
  refine (RecordClass.ofJson_of_respelled .type _ (.obj hrenamed hperm) ?_ (.inl ?_)).mp rfl
  · exact ⟨by decide, trivial, ⟨by decide, trivial, trivial⟩, ⟨⟨by decide, trivial, trivial⟩, trivial⟩,
      trivial⟩
  · exact ⟨by decide, trivial, ⟨by decide, trivial, trivial⟩, ⟨⟨by decide, trivial, trivial⟩, trivial⟩,
      trivial⟩

end Result

end SourceOutline
