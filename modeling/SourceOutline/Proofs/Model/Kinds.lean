import SourceOutline.Proofs.Model.Layout
import SourceOutline.Proofs.Model.Records
import SourceOutline.Proofs.Validation.Reports

/-!
# Kinds of types, at every depth

The rules on kinds and supertypes are looked at only when a type has no other issue, inner types first.
So a broken rule hides those of the types around it, and what is reported of a value that is well formed
field by field are the innermost types that break a rule.

`Tells p read` says so of one reader of a part `p` of a record.  It is shown for each reader from its parts;
the types are the one place where a rule comes in (`TypeDecl.reports_checkKind`).

Main statement: `RecordClass.kinds_at_every_depth`.
-/

namespace SourceOutline

open Checked

/-- What a reader reports of a value is what is wrong with it as a part of a record. -/
abbrev TellsOf (p : Part) (read : Json → Checked α) (v : Json) : Prop :=
  Reports (read v) (Fits p v) (Blamed p v)

/-- The same of all values. -/
abbrev Tells (p : Part) (read : Json → Checked α) : Prop :=
  ∀ v, TellsOf p read v

/-! ## Single values -/

section Single

theorem tells_of {read : Json → Checked α}
    (h : ∀ v, (∃ a, read v = .ok a) ∨ ∃ c : Complaint, c.code ≠ "value_error" ∧ read v = fail c) :
    Tells (.of read) read := by
  intro v
  rcases h v with ⟨a, ha⟩ | ⟨c, hc, hfail⟩
  · rw [TellsOf, ha]
    exact .of_ok a (.single ⟨a, ha⟩) fun i => not_blamed_single
  · rw [TellsOf, hfail]
    refine .of_fail hc fun hfits => ?_
    obtain ⟨a, ha⟩ := fits_single_iff.mp hfits
    simp [hfail, fail] at ha

theorem tells_string : Tells (.of string) string := tells_of fun v => by
  cases v with
  | str s => exact .inl ⟨s, rfl⟩
  | _ => exact .inr ⟨.stringType, by decide, rfl⟩

theorem tells_bool : Tells (.of bool) bool := tells_of fun v => by
  have hnumber : ∀ n, (∃ a, boolNumber n = .ok a) ∨
      ∃ c : Complaint, c.code ≠ "value_error" ∧ boolNumber n = fail c := by
    intro n
    unfold boolNumber
    split
    · exact .inl ⟨_, rfl⟩
    · split
      · exact .inl ⟨_, rfl⟩
      · exact .inr ⟨.boolParsing, by decide, rfl⟩
  cases v with
  | bool b => exact .inl ⟨b, rfl⟩
  | int n => exact hnumber n
  | float x =>
    rw [Checked.bool]
    split
    · exact hnumber _
    · exact .inr ⟨.boolType, by decide, rfl⟩
  | str s =>
    rw [Checked.bool]
    split
    · exact .inl ⟨_, rfl⟩
    · exact .inr ⟨.boolParsing, by decide, rfl⟩
  | _ => exact .inr ⟨.boolType, by decide, rfl⟩

theorem tells_word (ofWord? : String → Option α) : Tells (.of (word ofWord?)) (word ofWord?) :=
  tells_of fun v => by
    cases v with
    | str s =>
      rw [word]
      split
      · exact .inl ⟨_, rfl⟩
      · exact .inr ⟨.enum, by decide, rfl⟩
    | _ => exact .inr ⟨.enum, by decide, rfl⟩

theorem tells_literal (w : String) : Tells (.of (literal w)) (literal w) := tells_of fun v => by
  cases v with
  | str s =>
    rw [literal]
    split
    · exact .inl ⟨_, rfl⟩
    · exact .inr ⟨.literalError, by decide, rfl⟩
  | _ => exact .inr ⟨.literalError, by decide, rfl⟩

end Single

/-! ## Lists and records -/

section Records

variable {read : Json → Checked α} {p : Part} {fields : List (String × Json)}

theorem reports_items {vs : List Json} (h : ∀ v ∈ vs, TellsOf p read v) :
    Reports (itemsFrom read 0 vs) (Fits (.items p) (.arr vs)) (Blamed (.items p) (.arr vs)) :=
  (Reports.itemsFrom h 0).congr fits_items_iff fun _ i => by simp only [blamed_items_iff, Nat.zero_add]

theorem reports_sequence {v : Json} (h : ∀ u ∈ v.parts, TellsOf p read u) :
    TellsOf (.items p) (sequence read) v := by
  cases v with
  | arr vs => exact reports_items h
  | _ => exact .of_fail (by decide) nofun

/-- What is reported of a field of an object. -/
abbrev SlotTells (s : Slot) (fields : List (String × Json)) (x : Checked α) : Prop :=
  Reports x (s.Fits fields) (s.Blamed fields)

/-- What is reported of several fields. -/
abbrev SlotsTell (ss : List Slot) (fields : List (String × Json)) (x : Checked α) : Prop :=
  Reports x (∀ s ∈ ss, s.Fits fields) fun i => ∃ s ∈ ss, s.Blamed fields i

theorem SlotsTell.single {s : Slot} {x : Checked α} (h : SlotTells s fields x) : SlotsTell [s] fields x :=
  h.congr (by simp) (by simp)

theorem Checked.Reports.slots {s : Slot} {ss : List Slot} {x : Checked α} {y : Checked β}
    (h : SlotTells s fields x) (hs : SlotsTell ss fields y) :
    SlotsTell (s :: ss) fields (Checked.both x y) :=
  (h.both hs).congr (by simp) (by simp)

/-- What is told of the values of all fields is told of the one that counts. -/
theorem reports_find? {f : FieldName} {key : String} {v : Json}
    (h : ∀ u ∈ (Json.obj fields).parts, TellsOf p read u)
    (hfind : f.find? fields = some (key, v)) : TellsOf p read v := by
  obtain ⟨k, hmem⟩ := FieldName.mem_of_find? hfind
  exact h v (Json.mem_parts_obj hmem)

theorem reports_optional {f : FieldName} {default : α} (h : ∀ u ∈ (Json.obj fields).parts, TellsOf p read u) :
    SlotTells (.may f p) fields (optional f default read fields) :=
  (Reports.optional fun _ _ => reports_find? h).congr (by simp [Slot.Fits, Slot.may])
    (by simp [Slot.Blamed, Slot.may])

theorem Tells.optional {f : FieldName} {default : α} (h : Tells p read) :
    SlotTells (.may f p) fields (optional f default read fields) :=
  reports_optional fun u _ => h u

theorem Tells.required {f : FieldName} (h : Tells p read) :
    SlotTells (.must f p) fields (required f read fields) :=
  (Reports.required fun _ v _ => h v).congr (by simp [Slot.Fits, Slot.must]) (by simp [Slot.Blamed, Slot.must])

theorem Tells.sequence (h : Tells p read) : Tells (.items p) (sequence read) := fun _ =>
  reports_sequence fun u _ => h u

theorem tells_record {c : RecordClass} (hc : c ≠ .type) {body : List (String × Json) → Checked α}
    (h : ∀ fields, SlotsTell c.slots fields (body fields)) :
    Tells (.record c) (object fun fields => closed (c.slots.map Slot.name) fields (body fields)) := by
  intro v
  cases v with
  | obj fields =>
    exact (h fields).closed.congr fits_record_iff fun _ i => by simp [blamed_record_iff, hc]
  | _ => exact .of_fail (by decide) nofun

theorem Package.tells_ofJson : Tells (.record .package) Package.ofJson :=
  tells_record (by decide) fun _ => (SlotsTell.single tells_string.optional).map _

theorem Modifiers.tells_ofJson : Tells (.record .modifiers) Modifiers.ofJson :=
  tells_record (by decide) fun _ =>
    (tells_bool.optional.slots <| tells_bool.optional.slots <| tells_bool.optional.slots <|
      .single (tells_word _).optional).map _

theorem Import.tells_ofJson : Tells (.record .importEntry) Import.ofJson :=
  tells_record (by decide) fun _ => (SlotsTell.single tells_string.required).map _

theorem PlainMember.tells_ofJson : Tells (.record .plainMember) PlainMember.ofJson :=
  tells_record (by decide) fun _ =>
    (tells_string.required.slots <| .single Modifiers.tells_ofJson.optional).map _

end Records

/-! ## Types -/

section Types

namespace TypeDecl

variable {fields : List (String × Json)}

theorem declaredKind_eq {k : TypeKind}
    (h : optional .type .classType (word TypeKind.ofWord?) fields = .ok k) : declaredKind fields = k := by
  unfold Checked.optional at h
  rw [declaredKind]
  cases hfind : FieldName.type.find? fields with
  | none => simpa [hfind] using h
  | some e =>
    obtain ⟨key, v⟩ := e
    simp only [hfind, under_eq_ok_iff] at h
    cases v with
    | str w =>
      rw [word] at h
      split at h
      · rename_i hw
        simpa [hw] using h
      · simp [fail] at h
    | _ => simp [word, fail] at h

theorem declaredName_eq {n : String} (h : required .name string fields = .ok n) :
    declaredName fields = n := by
  obtain ⟨key, v, hfind, hv⟩ := required_eq_ok h
  rw [declaredName, hfind]
  cases v with
  | str s => simpa [string] using hv
  | _ => simp [string, fail] at hv

theorem lists_iff {f : FieldName} {read : Json → Checked α} {ts : List α}
    (h : optional f [] (sequence read) fields = .ok ts) : lists f fields = true ↔ ts ≠ [] := by
  unfold Checked.optional at h
  rw [lists]
  cases hfind : f.find? fields with
  | none =>
    obtain rfl : [] = ts := by simpa [hfind] using h
    simp
  | some e =>
    obtain ⟨key, v⟩ := e
    simp only [hfind, under_eq_ok_iff] at h
    cases v with
    | arr vs =>
      cases vs with
      | nil =>
        obtain rfl : [] = ts := by simpa [Checked.sequence, itemsFrom] using h
        simp
      | cons v vs =>
        rw [Checked.sequence, itemsFrom] at h
        obtain ⟨⟨t, us⟩, -, rfl⟩ := map_eq_ok_iff.mp h
        simp
    | _ => simp [Checked.sequence, fail] at h

/-- What a type breaks can be told from its fields. -/
theorem brokenRule?_eq {t : TypeDecl} (h : ofFields fields = .ok t) : brokenRule? fields = t.violation? := by
  obtain ⟨⟨p, n, m, k, cs, is⟩, hparts, rfl⟩ := map_eq_ok_iff.mp h
  simp only [both_eq_ok_iff] at hparts
  obtain ⟨-, hname, -, hkind, hclasses, hinterfaces⟩ := hparts
  simp only [brokenRule?, violation?, declaredName_eq hname, declaredKind_eq hkind, lists_iff hclasses,
    lists_iff hinterfaces]

/-- A type around one that is to blame is not. -/
theorem not_offends_of_slotBlamed {i : Issue} {viol : Violation}
    (h : ∃ s ∈ RecordClass.type.slots, s.Blamed fields i) : ¬ Offends fields viol := by
  obtain ⟨s, hs, key, v, hfind, j, ⟨t, viol', htype, hoffends, -⟩, -⟩ := h
  intro hself
  have hnone := hself.2 _ t (by simp) (.slot hs hfind htype)
  simp [hoffends.1] at hnone

/-- If none of the types inside is to blame, then it is enough that the type itself breaks a rule. -/
theorem offends_iff {viol : Violation} (h : ∀ i, ¬ ∃ s ∈ RecordClass.type.slots, s.Blamed fields i) :
    Offends fields viol ↔ brokenRule? fields = some viol := by
  refine and_iff_left fun path u hpath hu => ?_
  cases hu with
  | here => exact absurd rfl hpath
  | @slot _ _ s key v path _ hs hfind hinner =>
    by_contra hbroken
    obtain ⟨j, hj⟩ := exists_blamed hinner hbroken
    exact h (j.under (.key key)) ⟨s, hs, key, v, hfind, j, hj, rfl⟩

/-- **The rules on kinds come last.**  They are looked at if the fields of a type have no issue.  Then no
type strictly inside breaks a rule, and the type itself is to blame if it does. -/
theorem reports_checkKind (hslots : SlotsTell RecordClass.type.slots fields (ofFields fields)) :
    Reports (closed fieldNames fields (ofFields fields) >>= checkKind) (Fits (.record .type) (.obj fields))
      (Blamed (.record .type) (.obj fields)) := by
  have h : Reports (closed fieldNames fields (ofFields fields)) (Fits (.record .type) (.obj fields))
      fun i => ∃ s ∈ RecordClass.type.slots, s.Blamed fields i :=
    hslots.closed.congr fits_record_iff fun _ _ => Iff.rfl
  cases hx : closed fieldNames fields (ofFields fields) with
  | error is =>
    rw [hx] at h
    have hsome : is ≠ [] := by
      rintro rfl
      obtain ⟨a, ha⟩ := h.ok rfl
      cases ha
    obtain ⟨j, hj⟩ := List.exists_mem_of_ne_nil is hsome
    refine h.congr Iff.rfl fun hfits i => ?_
    -- there is an issue, so a type inside is to blame, and this one is not
    have hinside := (h.mem_iff hfits j).mp hj
    simp [blamed_record_iff, not_offends_of_slotBlamed hinside]
  | ok t =>
    rw [hx] at h
    -- no issue so far: only the rules are left to look at
    have hfits : Fits (.record .type) (.obj fields) := h.fits_iff.mpr (by simp [issues])
    have hnone : ∀ i, ¬ ∃ s ∈ RecordClass.type.slots, s.Blamed fields i := fun i hi => by
      simpa [issues] using (h.mem_iff hfits i).mpr hi
    have hblamed : ∀ i, Blamed (.record .type) (.obj fields) i ↔
        ∃ viol, t.violation? = some viol ∧ i = ⟨[], .rule viol.message⟩ := by
      intro i
      rw [blamed_record_iff, or_iff_left (hnone i), ← brokenRule?_eq (closed_eq_ok hx)]
      simp only [true_and, offends_iff hnone]
    show Reports t.checkKind _ _
    cases hviol : t.violation? with
    | none =>
      rw [checkKind, hviol]
      exact .of_ok t hfits fun i => by simp [hblamed, hviol]
    | some viol =>
      rw [checkKind, hviol]
      have hrule : ∀ i ∈ (fail (.rule viol.message) : Checked TypeDecl).issues, i.IsRule := by
        intro i hi
        obtain rfl : i = ⟨[], .rule viol.message⟩ := by simpa [issues, fail] using hi
        rfl
      constructor
      · simp [issues, fail]
      · exact iff_of_true hfits hrule
      · intro _ i
        simp [hblamed, hviol, issues, fail]

/-- Of a value as a type, and as a list of types: each is a part of the other. -/
theorem reports_ofJson_and (v : Json) :
    TellsOf (.record .type) ofJson v ∧ TellsOf (.items (.record .type)) (Checked.sequence ofJson) v := by
  induction v using Json.forall_of_parts with
  | h v ih =>
    refine ⟨?_, reports_sequence fun u hu => (ih u hu).1⟩
    rw [TellsOf, ofJson_eq]
    cases v with
    | obj fields =>
      have hlist : ∀ u ∈ (Json.obj fields).parts, _ := fun u hu => (ih u hu).2
      have hfields : SlotsTell RecordClass.type.slots fields (ofFields fields) :=
        (Package.tells_ofJson.optional.slots <| tells_string.required.slots <|
          Modifiers.tells_ofJson.optional.slots <| (tells_word _).optional.slots <|
          (reports_optional hlist).slots <| .single (reports_optional hlist)).map _
      exact reports_checkKind hfields
    | _ => exact .of_fail (by decide) nofun

theorem tells_ofJson : Tells (.record .type) ofJson := fun v => (reports_ofJson_and v).1

theorem tells_listOfJson : Tells (.items (.record .type)) listOfJson := by
  rw [listOfJson_eq]
  exact fun v => (reports_ofJson_and v).2

end TypeDecl

end Types

/-! ## Members and files -/

section Members

theorem Parameter.tells_ofJson : Tells (.record .parameter) Parameter.ofJson :=
  tells_record (by decide) fun _ =>
    (tells_string.required.slots <| .single TypeDecl.tells_ofJson.required).map _

theorem FieldDecl.tells_ofJson : Tells (.record .field) FieldDecl.ofJson :=
  tells_record (by decide) fun _ =>
    (tells_string.required.slots <| Modifiers.tells_ofJson.optional.slots <|
      (tells_literal _).optional.slots <| .single TypeDecl.tells_ofJson.required).map _

theorem MethodDecl.tells_ofJson : Tells (.record .method) MethodDecl.ofJson :=
  tells_record (by decide) fun _ =>
    (tells_string.required.slots <| Modifiers.tells_ofJson.optional.slots <|
      (tells_literal _).optional.slots <| TypeDecl.tells_ofJson.required.slots <|
      .single Parameter.tells_ofJson.sequence.optional).map _

theorem Member.tells_ofJson : Tells .member Member.ofJson := by
  intro v
  cases v with
  | obj fields =>
    by_cases hfield : Table.get? fields "kind" = some (.str "field")
    · rw [TellsOf, ofJson_of_field hfield]
      exact (((FieldDecl.tells_ofJson _).map _).under _).congr (fits_member_iff hfield rfl) fun _ i =>
        blamed_member_iff hfield rfl
    · by_cases hmethod : Table.get? fields "kind" = some (.str "method")
      · rw [TellsOf, ofJson_of_method hmethod]
        exact (((MethodDecl.tells_ofJson _).map _).under _).congr (fits_member_iff hmethod rfl) fun _ i =>
          blamed_member_iff hmethod rfl
      · obtain ⟨c, hc, hfail⟩ := ofJson_of_other hfield hmethod
        rw [TellsOf, hfail]
        refine .of_fail (by rcases hc with rfl | rfl <;> decide) ?_
        -- a value that fits has one of the two words
        rintro (_ | _ | ⟨hkind, hclass, -⟩)
        unfold RecordClass.ofKind? at hclass
        split at hclass
        · exact hfield hkind
        · exact hmethod hkind
        · cases hclass
  | _ => exact .of_fail (by decide) nofun

theorem MemberSet.tells_ofJson : Tells (.items .member) MemberSet.ofJson := by
  intro v
  cases v with
  | arr vs => exact (reports_items fun u _ => Member.tells_ofJson u).map _
  | _ => exact .of_fail (by decide) nofun

theorem TypeDetails.tells_ofJson : Tells (.record .details) TypeDetails.ofJson :=
  tells_record (by decide) fun _ =>
    (TypeDecl.tells_ofJson.required.slots <| .single MemberSet.tells_ofJson.optional).map _

theorem ParsedFile.tells_ofJson : Tells (.record .file) ParsedFile.ofJson :=
  tells_record (by decide) fun _ =>
    (Import.tells_ofJson.sequence.optional.slots <| .single TypeDecl.tells_listOfJson.optional).map _

theorem RecordClass.tells_ofJson (c : RecordClass) : Tells (.record c) c.ofJson := by
  cases c with
  | package => exact Package.tells_ofJson
  | modifiers => exact Modifiers.tells_ofJson
  | type => exact TypeDecl.tells_ofJson
  | plainMember => exact PlainMember.tells_ofJson
  | field => exact FieldDecl.tells_ofJson
  | method => exact MethodDecl.tells_ofJson
  | parameter => exact Parameter.tells_ofJson
  | details => exact TypeDetails.tells_ofJson
  | importEntry => exact Import.tells_ofJson
  | file => exact ParsedFile.tells_ofJson

end Members

/-! ## The result -/

section Result

/-- **Kinds at every depth.**  In a record that was read, only classes have super classes and annotations
have no interfaces, however deep a type stands.  A value is well formed field by field exactly if nothing
but these rules stands against it.  Then it is refused exactly if some type in it breaks one, and what is
reported are the types that break one while no type strictly inside them does. -/
theorem RecordClass.kinds_at_every_depth (c : RecordClass) (v : Json) :
    (∀ r, c.ofJson v = .ok r → ∀ t ∈ c.allTypes r,
      (t.kind ≠ .classType → t.superClasses = []) ∧ (t.kind = .annotationType → t.interfaces = [])) ∧
    (Fits (.record c) v ↔ ∀ i ∈ (c.ofJson v).issues, i.IsRule) ∧
    (Fits (.record c) v →
      ((∃ is, c.ofJson v = .error is) ↔
        ∃ path t, TypeAt (.record c) v path t ∧ TypeDecl.brokenRule? t ≠ none) ∧
      ∀ i, i ∈ (c.ofJson v).issues ↔ Blamed (.record c) v i) := by
  have htells := c.tells_ofJson v
  refine ⟨fun r hr t ht => ?_, htells.fits_iff, fun hfits => ⟨?_, htells.mem_iff hfits⟩⟩
  · have hviol := forall_allTypes_iff.mpr (consistent_of_ofJson hr) t ht
    obtain ⟨hclasses, hinterfaces⟩ := TypeDecl.violation?_eq_none_iff.mp hviol
    exact ⟨fun hkind => by simpa [hkind] using hclasses, fun hkind => by simpa [hkind] using hinterfaces⟩
  · constructor
    · rintro ⟨is, his⟩
      have hsome : (c.ofJson v).issues ≠ [] := by
        intro hnone
        obtain ⟨r, hr⟩ := htells.ok hnone
        simp [his] at hr
      obtain ⟨i, hi⟩ := List.exists_mem_of_ne_nil _ hsome
      obtain ⟨t, viol, htype, hoffends, -⟩ := (htells.mem_iff hfits i).mp hi
      exact ⟨i.path, t, htype, by simp [hoffends.1]⟩
    · rintro ⟨path, t, htype, hbroken⟩
      obtain ⟨i, hi⟩ := exists_blamed htype hbroken
      have hmem := (htells.mem_iff hfits i).mpr hi
      cases hr : c.ofJson v with
      | ok r => simp [hr, issues] at hmem
      | error is => exact ⟨is, rfl⟩

/-- The interface is reported; the annotation around it is not. -/
example : TypeDecl.ofJson (.obj [("name", .str "A"), ("type", .str "annotation"),
      ("superClasses", .arr [.obj [("name", .str "B"), ("type", .str "interface"),
        ("superClasses", .arr [.obj [("name", .str "C")]])]])]) =
    .error [⟨[.key "superClasses", .index 0], .rule "interface 'B' cannot declare super classes"⟩] := by
  rfl

end Result

end SourceOutline
