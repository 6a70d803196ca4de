import Mathlib.Data.List.Forall2
import SourceOutline.Proofs.Json.Objects
import SourceOutline.Proofs.Validation.Fields

/-!
# Values with other spellings

`Respelled names v w` says that `w` is the value `v` with fields under their other spellings, at any
places, and with the fields of objects in any order.

* `Respelled.distinct`: if no object gives both spellings of a field, no key is given twice afterwards.
* `FieldName.Once`, `extras_eq_nil_iff`: an object has no fields too many if each of its keys is a
  spelling of a field of the record, and each field is given once.  Both do not depend on spellings.
* `Matching.optional`, `Matching.required`: then a field is read from the respelled value.
* `Steady`: a reader gives the same for a value and for all its respellings.  `steady_object` says so of
  records, `steady_sequence` of lists.
-/

namespace SourceOutline

open Checked

/-! ## Two spellings -/

namespace FieldName

/-- The key is a spelling of the field. -/
def spells (f : FieldName) (key : String) : Bool :=
  key = f.key || key = f.other

/-- No two of these fields share a spelling. -/
def Apart (names : List FieldName) : Prop :=
  ∀ f ∈ names, ∀ g ∈ names, ∀ key, f.spells key = true → g.spells key = true → f = g

/-- The same key, or two spellings of one of the fields. -/
def Alike (names : List FieldName) (key key' : String) : Prop :=
  key = key' ∨ ∃ f ∈ names, f.spells key = true ∧ f.spells key' = true

/-- The entries of an object that are about this field. -/
def entries (f : FieldName) (fields : List (String × α)) : List (String × α) :=
  fields.filter fun e => f.spells e.1

/-- The field is given once at most. -/
def Once (f : FieldName) (fields : List (String × α)) : Prop :=
  (f.entries fields).length ≤ 1

/-- Both spellings of the field are given. -/
def Twofold (f : FieldName) (fields : List (String × α)) : Prop :=
  f.key ≠ f.other ∧ f.key ∈ Table.keys fields ∧ f.other ∈ Table.keys fields

instance (f : FieldName) (fields : List (String × α)) : Decidable (f.Twofold fields) :=
  inferInstanceAs (Decidable (_ ∧ _ ∧ _))

variable {names : List FieldName} {f : FieldName} {key key' : String}

theorem spells_iff : f.spells key = true ↔ key = f.key ∨ key = f.other := by
  simp [spells]

/-- Which field a key is about does not depend on the spelling. -/
theorem Alike.spells_eq (h : Alike names key key') (hapart : Apart names) (hf : f ∈ names) :
    f.spells key = f.spells key' := by
  rcases h with rfl | ⟨g, hg, hkey, hkey'⟩
  · rfl
  · rw [Bool.eq_iff_iff]
    constructor
    · intro h
      rwa [hapart f hf g hg key h hkey]
    · intro h
      rwa [hapart f hf g hg key' h hkey']

/-- Two different keys that are alike a third one are the two spellings of a field. -/
theorem Alike.exists_spells {key'' : String} (h : Alike names key key'') (h' : Alike names key' key'')
    (hapart : Apart names) (hne : key ≠ key') :
    ∃ f ∈ names, f.spells key = true ∧ f.spells key' = true := by
  rcases h with rfl | ⟨f, hf, hkey, hkey''⟩
  · rcases h' with rfl | ⟨g, hg, hspells⟩
    · exact absurd rfl hne
    · exact ⟨g, hg, hspells.2, hspells.1⟩
  · rcases h' with rfl | ⟨g, hg, hkey', hspells⟩
    · exact ⟨f, hf, hkey, hkey''⟩
    · obtain rfl := hapart f hf g hg key'' hkey'' hspells
      exact ⟨f, hf, hkey, hkey'⟩

theorem twofold_of_spells {fields : List (String × α)} (hkey : f.spells key = true)
    (hkey' : f.spells key' = true) (hne : key ≠ key') (hmem : key ∈ Table.keys fields)
    (hmem' : key' ∈ Table.keys fields) : f.Twofold fields := by
  rcases spells_iff.mp hkey with rfl | rfl <;> rcases spells_iff.mp hkey' with rfl | rfl
  · exact absurd rfl hne
  · exact ⟨hne, hmem, hmem'⟩
  · exact ⟨hne.symm, hmem', hmem⟩
  · exact absurd rfl hne

end FieldName

/-! ## Respelled values -/

section Respelled

/-- The same fields in the same order, some under their other spelling, and with related values. -/
inductive Renamed (names : List FieldName) (R : Json → Json → Prop) :
    List (String × Json) → List (String × Json) → Prop
  | nil : Renamed names R [] []
  | cons {key key' : String} {v v' : Json} {fs fs' : List (String × Json)} :
    FieldName.Alike names key key' → R v v' → Renamed names R fs fs' →
      Renamed names R ((key, v) :: fs) ((key', v') :: fs')

/-- The same value, with fields under other spellings and in another order at any places. -/
inductive Respelled (names : List FieldName) : Json → Json → Prop
  | null : Respelled names .null .null
  | bool (b : Bool) : Respelled names (.bool b) (.bool b)
  | int (n : Int) : Respelled names (.int n) (.int n)
  | float (x : Binary64) : Respelled names (.float x) (.float x)
  | str (s : String) : Respelled names (.str s) (.str s)
  | arr {vs ws : List Json} : List.Forall₂ (Respelled names) vs ws → Respelled names (.arr vs) (.arr ws)
  | obj {fs gs hs : List (String × Json)} : Renamed names (Respelled names) fs gs → gs.Perm hs →
      Respelled names (.obj fs) (.obj hs)

variable {names : List FieldName} {R : Json → Json → Prop} {fs gs hs : List (String × Json)} {f : FieldName}

/-- Every item of the second of two related lists is related to one of the first. -/
theorem exists_of_mem_of_forall₂ {R : α → β → Prop} {as : List α} {bs : List β} (h : List.Forall₂ R as bs)
    {b : β} (hb : b ∈ bs) : ∃ a ∈ as, R a b := by
  induction h with
  | nil => simp at hb
  | cons hab _ ih =>
    rcases List.mem_cons.mp hb with rfl | hb
    · exact ⟨_, List.mem_cons_self, hab⟩
    · obtain ⟨a, ha, hrel⟩ := ih hb
      exact ⟨a, List.mem_cons_of_mem _ ha, hrel⟩

namespace Renamed

theorem entries (h : Renamed names R fs gs) (hapart : FieldName.Apart names) (hf : f ∈ names) :
    Renamed names R (f.entries fs) (f.entries gs) := by
  unfold FieldName.entries
  induction h with
  | nil => exact .nil
  | @cons key key' v v' fs gs hkey hv _ ih =>
    rw [List.filter_cons, List.filter_cons, hkey.spells_eq hapart hf]
    split
    · exact .cons hkey hv ih
    · exact ih

/-- The fields are related one for one. -/
theorem forall₂ (h : Renamed names R fs gs) :
    List.Forall₂ (fun e e' => FieldName.Alike names e.1 e'.1 ∧ R e.2 e'.2) fs gs := by
  induction h with
  | nil => exact .nil
  | cons hkey hv _ ih => exact .cons ⟨hkey, hv⟩ ih

theorem exists_of_mem (h : Renamed names R fs gs) {e : String × Json} (he : e ∈ gs) :
    ∃ e' ∈ fs, FieldName.Alike names e'.1 e.1 ∧ R e'.2 e.2 :=
  exists_of_mem_of_forall₂ h.forall₂ he

theorem exists_of_mem_left (h : Renamed names R fs gs) {e : String × Json} (he : e ∈ fs) :
    ∃ e' ∈ gs, FieldName.Alike names e.1 e'.1 ∧ R e.2 e'.2 :=
  exists_of_mem_of_forall₂ (List.Forall₂.flip (R := flip _) h.forall₂) he

theorem length_eq (h : Renamed names R fs gs) : fs.length = gs.length :=
  h.forall₂.length_eq

/-- One entry at most stays one in any order. -/
theorem cases_of_length_le_one (h : Renamed names R fs gs) (hperm : gs.Perm hs) (hlength : fs.length ≤ 1) :
    (fs = [] ∧ hs = []) ∨ ∃ e e', fs = [e] ∧ hs = [e'] ∧ R e.2 e'.2 := by
  cases h with
  | nil => exact .inl ⟨rfl, hperm.nil_eq.symm⟩
  | @cons key key' v v' fs gs hkey hv hrest =>
    cases hrest with
    | nil => exact .inr ⟨(key, v), (key', v'), rfl, (List.singleton_perm.mp hperm).symm, hv⟩
    | cons _ _ _ => simp at hlength

theorem nodup_keys (h : Renamed names R fs gs) (hapart : FieldName.Apart names)
    (hfs : (Table.keys fs).Nodup) (honce : ∀ f ∈ names, ¬ f.Twofold fs) : (Table.keys gs).Nodup := by
  induction h with
  | nil => exact hfs
  | @cons key key' v v' fs gs hkey hv hrest ih =>
    obtain ⟨hnew, hfs⟩ := List.nodup_cons.mp hfs
    refine List.nodup_cons.mpr ⟨fun hmem => ?_, ih hfs fun f hf htwo => honce f hf ?_⟩
    · obtain ⟨⟨_, w'⟩, hw', rfl⟩ := List.mem_map.mp hmem
      obtain ⟨⟨other, w⟩, hw, hother, -⟩ := hrest.exists_of_mem hw'
      have hmem : other ∈ Table.keys fs := List.mem_map.mpr ⟨_, hw, rfl⟩
      have hne : key ≠ other := by
        rintro rfl
        exact hnew hmem
      obtain ⟨f, hf, hspells⟩ := hkey.exists_spells hother hapart hne
      exact honce f hf (f.twofold_of_spells hspells.1 hspells.2 hne List.mem_cons_self
        (List.mem_cons_of_mem _ hmem))
    · exact ⟨htwo.1, List.mem_cons_of_mem _ htwo.2.1, List.mem_cons_of_mem _ htwo.2.2⟩

end Renamed

/-- No object gives both spellings of a field. -/
def SpelledOnce (names : List FieldName) : Json → Prop :=
  Json.EveryObject fun fields => ∀ f ∈ names, ¬ f.Twofold fields

/-- **Without double spellings no key is given twice afterwards.** -/
theorem Respelled.distinct {v w : Json} (h : Respelled names v w) (hapart : FieldName.Apart names)
    (hdistinct : v.Distinct) (honce : SpelledOnce names v) : w.Distinct := by
  induction v using Json.forall_of_parts generalizing w with
  | h v ih =>
    cases h with
    | arr hitems =>
      refine Json.everyObject_arr_iff.mpr fun w hw => ?_
      obtain ⟨v, hv, hvw⟩ := exists_of_mem_of_forall₂ hitems hw
      exact ih v hv hvw (Json.everyObject_arr_iff.mp hdistinct v hv)
        (Json.everyObject_arr_iff.mp honce v hv)
    | @obj fs gs hs hrenamed hperm =>
      obtain ⟨hkeys, hfields⟩ := Json.everyObject_obj_iff.mp hdistinct
      obtain ⟨hnone, hnones⟩ := Json.everyObject_obj_iff.mp honce
      refine Json.everyObject_obj_iff.mpr ⟨?_, fun e he => ?_⟩
      · exact (hperm.map Prod.fst).nodup_iff.mp (hrenamed.nodup_keys hapart hkeys hnone)
      · obtain ⟨e', he', -, hrel⟩ := hrenamed.exists_of_mem (hperm.mem_iff.mpr he)
        exact ih e'.2 (Json.mem_parts_obj he') hrel (hfields e' he') (hnones e' he')
    | _ => trivial

end Respelled

/-! ## Fields that are given once -/

section Once

variable {names ns : List FieldName} {f : FieldName} {fields fs gs hs : List (String × Json)}

namespace FieldName

theorem mem_entries {e : String × α} {fields : List (String × α)} :
    e ∈ f.entries fields ↔ e ∈ fields ∧ f.spells e.1 = true :=
  List.mem_filter

/-- A field that is given once is found wherever it is given. -/
theorem find?_eq_head? (h : f.Once fields) : f.find? fields = (f.entries fields).head? := by
  have hget : ∀ {key : String} {v : Json}, f.spells key = true → Table.get? fields key = some v →
      (key, v) ∈ f.entries fields := fun hkey hv => mem_entries.mpr ⟨Table.mem_of_get? hv, hkey⟩
  have hother : f.spells f.other = true := spells_iff.mpr (.inr rfl)
  cases hentries : f.entries fields with
  | nil =>
    have hnone : ∀ key, f.spells key = true → Table.get? fields key = none := by
      intro key hkey
      cases hv : Table.get? fields key with
      | none => rfl
      | some v => exact absurd (hget hkey hv) (by simp [hentries])
    simp [find?, hnone _ hother, hnone f.key (spells_iff.mpr (.inl rfl))]
  | cons e rest =>
    obtain rfl : rest = [] := by
      rw [Once, hentries] at h
      exact List.eq_nil_of_length_eq_zero (by simpa using h)
    have honly : ∀ {key : String} {v : Json}, f.spells key = true → Table.get? fields key = some v →
        (key, v) = e := fun hkey hv => by simpa [hentries] using hget hkey hv
    have he : e ∈ f.entries fields := by simp [hentries]
    obtain ⟨hmem, hspells⟩ := mem_entries.mp he
    have hsome : ∃ v, Table.get? fields e.1 = some v := by
      refine Option.ne_none_iff_exists'.mp fun hnone => ?_
      exact Table.get?_eq_none_iff.mp hnone (List.mem_map.mpr ⟨e, hmem, rfl⟩)
    obtain ⟨v, hv⟩ := hsome
    have heq : (e.1, v) = e := honly hspells hv
    cases hkey : Table.get? fields f.key with
    | some w => simp [find?, hkey, honly (spells_iff.mpr (.inl rfl)) hkey]
    | none =>
      rcases spells_iff.mp hspells with h | h
      · rw [h, hkey] at hv
        cases hv
      · rw [h] at hv heq
        simp [find?, hkey, hv, heq]

/-- If no key is given twice, a field is given once or under both spellings. -/
theorem once_iff_not_twofold (hkeys : (Table.keys fields).Nodup) : f.Once fields ↔ ¬ f.Twofold fields := by
  constructor
  · rintro honce ⟨hne, hkey, hother⟩
    obtain ⟨⟨_, v⟩, hv, rfl⟩ := List.mem_map.mp hkey
    obtain ⟨⟨_, w⟩, hw, hw'⟩ := List.mem_map.mp hother
    have hv := mem_entries.mpr ⟨hv, spells_iff.mpr (.inl rfl)⟩
    have hw := mem_entries.mpr ⟨hw, spells_iff.mpr (.inr hw')⟩
    match hentries : f.entries fields with
    | [] => simp [hentries] at hv
    | [e] =>
      rw [hentries, List.mem_singleton] at hv hw
      exact hne ((congrArg Prod.fst (hv.trans hw.symm)).trans hw')
    | a :: b :: rest => simp [Once, hentries] at honce
  · intro hnot
    by_contra hmany
    have hnodup : ((f.entries fields).map Prod.fst).Nodup :=
      hkeys.sublist (List.filter_sublist.map Prod.fst)
    obtain ⟨a, b, rest, hentries⟩ : ∃ a b rest, f.entries fields = a :: b :: rest := by
      match hentries : f.entries fields with
      | [] | [_] => simp [Once, hentries] at hmany
      | a :: b :: rest => exact ⟨a, b, rest, rfl⟩
    have ha := mem_entries.mp (show a ∈ f.entries fields by simp [hentries])
    have hb := mem_entries.mp (show b ∈ f.entries fields by simp [hentries])
    have hne : a.1 ≠ b.1 := by
      rw [hentries, List.map_cons, List.map_cons, List.nodup_cons] at hnodup
      exact fun heq => hnodup.1 (heq ▸ List.mem_cons_self)
    exact hnot (twofold_of_spells ha.2 hb.2 hne (List.mem_map_of_mem ha.1) (List.mem_map_of_mem hb.1))

theorem spells_of_takes {key : String} (h : f.takes fields key = true) : f.spells key = true := by
  rw [takes, Bool.or_eq_true, Bool.and_eq_true] at h
  rw [spells, Bool.or_eq_true]
  exact h.imp_right And.left

end FieldName

namespace Checked

/-- No field is too many exactly if every key is a spelling of a field of the record, and none of its
fields is given twice. -/
theorem extras_eq_nil_iff (hapart : FieldName.Apart names) (hns : ns ⊆ names)
    (hkeys : (Table.keys fields).Nodup) :
    extras ns fields = [] ↔ (∀ e ∈ fields, ∃ f ∈ ns, f.spells e.1 = true) ∧
      ∀ f ∈ ns, f.Once fields := by
  rw [extras_eq_nil]
  constructor
  · intro h
    refine ⟨fun e he => ?_, fun f hf => ?_⟩
    · obtain ⟨f, hf, htakes⟩ := h e he
      exact ⟨f, hf, FieldName.spells_of_takes htakes⟩
    · refine (FieldName.once_iff_not_twofold hkeys).mpr fun ⟨hne, hkey, hother⟩ => ?_
      obtain ⟨e, he, heq⟩ := List.mem_map.mp hother
      obtain ⟨g, hg, htakes⟩ := h e he
      -- the second spelling can only be taken by the field itself, and not beside the first
      obtain rfl : g = f := hapart g (hns hg) f (hns hf) e.1 (FieldName.spells_of_takes htakes)
        (FieldName.spells_iff.mpr (.inr heq))
      have hnone : Table.get? fields g.key = none := by
        simpa [FieldName.takes, heq, hne.symm] using htakes
      exact Table.get?_eq_none_iff.mp hnone hkey
  · rintro ⟨hspells, honce⟩ e he
    obtain ⟨f, hf, hkey⟩ := hspells e he
    refine ⟨f, hf, ?_⟩
    rw [FieldName.takes]
    by_cases hfirst : e.1 = f.key
    · simp [hfirst]
    · have hother : e.1 = f.other := (FieldName.spells_iff.mp hkey).resolve_left hfirst
      have hnone : Table.get? fields f.key = none := by
        refine Table.get?_eq_none_iff.mpr fun hmem => ?_
        refine (FieldName.once_iff_not_twofold hkeys).mp (honce f hf) ⟨?_, hmem, ?_⟩
        · exact fun heq => hfirst (hother.trans heq.symm)
        · exact hother ▸ List.mem_map_of_mem he
      simp [hother, hnone]

end Checked

/-- What objects with these fields give for the fields of a record: nothing on both sides, or related
values, of which the first is one of those in the first object. -/
def Matching (names ns : List FieldName) (fs hs : List (String × Json)) : Prop :=
  ∀ f ∈ ns, (f.find? fs = none ∧ f.find? hs = none) ∨
    ∃ key v key' v', f.find? fs = some (key, v) ∧ f.find? hs = some (key', v') ∧
      v ∈ (Json.obj fs).parts ∧ Respelled names v v' ∧ v.Distinct ∧ v'.Distinct

namespace Respelled

theorem once_iff (hrenamed : Renamed names (Respelled names) fs gs) (hperm : gs.Perm hs)
    (hapart : FieldName.Apart names) (hf : f ∈ names) : f.Once fs ↔ f.Once hs := by
  have hlength : (f.entries gs).length = (f.entries hs).length := (hperm.filter _).length_eq
  rw [FieldName.Once, FieldName.Once, (hrenamed.entries hapart hf).length_eq, hlength]

/-- Fields that are given once are found on both sides. -/
theorem matching (hrenamed : Renamed names (Respelled names) fs gs) (hperm : gs.Perm hs)
    (hapart : FieldName.Apart names) (hns : ns ⊆ names) (hfs : (Json.obj fs).Distinct)
    (hhs : (Json.obj hs).Distinct) (honce : ∀ f ∈ ns, f.Once fs) : Matching names ns fs hs := by
  intro f hf
  have hvalue : ∀ {e : String × Json} {fields : List (String × Json)}, (Json.obj fields).Distinct →
      e ∈ f.entries fields → e.2.Distinct := fun hfields he =>
    (Json.everyObject_obj_iff.mp hfields).2 _ (FieldName.mem_entries.mp he).1
  rw [FieldName.find?_eq_head? (honce f hf),
    FieldName.find?_eq_head? ((once_iff hrenamed hperm hapart (hns hf)).mp (honce f hf))]
  obtain ⟨hentries, hentries'⟩ | ⟨e, e', hentries, hentries', hrel⟩ :=
    (hrenamed.entries hapart (hns hf)).cases_of_length_le_one (hperm.filter _) (honce f hf)
  · exact .inl ⟨by rw [hentries]; rfl, by rw [FieldName.entries, hentries']; rfl⟩
  · have he : e ∈ f.entries fs := by simp [hentries]
    have he' : e' ∈ f.entries hs := by simp [FieldName.entries, hentries']
    refine .inr ⟨e.1, e.2, e'.1, e'.2, by rw [hentries]; rfl, by rw [FieldName.entries, hentries']; rfl,
      ?_, hrel, hvalue hfs he, hvalue hhs he'⟩
    exact Json.mem_parts_obj (FieldName.mem_entries.mp he).1

/-- Whether there are fields too many does not depend on spellings. -/
theorem extras_eq_nil_iff (hrenamed : Renamed names (Respelled names) fs gs) (hperm : gs.Perm hs)
    (hapart : FieldName.Apart names) (hns : ns ⊆ names) (hfs : (Table.keys fs).Nodup)
    (hhs : (Table.keys hs).Nodup) : extras ns fs = [] ↔ extras ns hs = [] := by
  have hspells :
      (∀ e ∈ fs, ∃ f ∈ ns, f.spells e.1 = true) ↔ ∀ e ∈ hs, ∃ f ∈ ns, f.spells e.1 = true := by
    constructor
    · intro h e he
      obtain ⟨e', he', halike, -⟩ := hrenamed.exists_of_mem (hperm.mem_iff.mpr he)
      obtain ⟨f, hf, hkey⟩ := h e' he'
      exact ⟨f, hf, halike.spells_eq hapart (hns hf) ▸ hkey⟩
    · intro h e he
      obtain ⟨e', he', halike, -⟩ := hrenamed.exists_of_mem_left he
      obtain ⟨f, hf, hkey⟩ := h e' (hperm.mem_iff.mp he')
      exact ⟨f, hf, (halike.spells_eq hapart (hns hf)).symm ▸ hkey⟩
  have honce : (∀ f ∈ ns, f.Once fs) ↔ ∀ f ∈ ns, f.Once hs :=
    forall₂_congr fun f hf => once_iff hrenamed hperm hapart (hns hf)
  rw [Checked.extras_eq_nil_iff hapart hns hfs, Checked.extras_eq_nil_iff hapart hns hhs, hspells, honce]

end Respelled

end Once

/-! ## Readers that do not mind -/

section Steady

variable {names ns : List FieldName} {fs hs : List (String × Json)} {f : FieldName}

namespace Checked

/-- Two outcomes give the same, or both nothing. -/
def Agree (x y : Checked α) : Prop :=
  ∀ a, x = .ok a ↔ y = .ok a

theorem Agree.refl (x : Checked α) : Agree x x := fun _ => Iff.rfl

theorem agree_error (is is' : List Issue) : Agree (.error is : Checked α) (.error is') := fun _ => by simp

theorem Agree.under {x y : Checked α} (h : Agree x y) (s s' : Step) : Agree (x.under s) (y.under s') := by
  intro a
  rw [under_eq_ok_iff, under_eq_ok_iff, h a]

theorem Agree.map {x y : Checked α} (h : Agree x y) (g : α → β) : Agree (x.map g) (y.map g) := by
  intro b
  simp only [map_eq_ok_iff, h _]

theorem Agree.bind {x y : Checked α} (h : Agree x y) (g : α → Checked β) : Agree (x >>= g) (y >>= g) := by
  intro b
  simp only [bind_eq_ok_iff, h _]

theorem Agree.both {x x' : Checked α} {y y' : Checked β} (hx : Agree x x') (hy : Agree y y') :
    Agree (both x y) (both x' y') := by
  rintro ⟨a, b⟩
  rw [both_eq_ok_iff, both_eq_ok_iff, hx a, hy b]

end Checked

/-- A reader gives the same for a value and for all its respellings. -/
def Steady (names : List FieldName) (read : Json → Checked α) (v : Json) : Prop :=
  ∀ w, Respelled names v w → v.Distinct → w.Distinct → Agree (read v) (read w)

/-- The same for a reader of records, given that it does for the values of their fields. -/
theorem Matching.optional {default : α} {read : Json → Checked α} (h : Matching names ns fs hs)
    (hf : f ∈ ns) (hread : ∀ v ∈ (Json.obj fs).parts, Steady names read v) :
    Agree (optional f default read fs) (optional f default read hs) := by
  unfold Checked.optional
  obtain ⟨hfs, hhs⟩ | ⟨key, v, key', v', hfs, hhs, hmem, hrel, hv, hv'⟩ := h f hf
  · rw [hfs, hhs]
    exact Agree.refl _
  · rw [hfs, hhs]
    exact (hread v hmem v' hrel hv hv').under _ _

theorem Matching.required {read : Json → Checked α} (h : Matching names ns fs hs) (hf : f ∈ ns)
    (hread : ∀ v ∈ (Json.obj fs).parts, Steady names read v) :
    Agree (required f read fs) (required f read hs) := by
  unfold Checked.required
  obtain ⟨hfs, hhs⟩ | ⟨key, v, key', v', hfs, hhs, hmem, hrel, hv, hv'⟩ := h f hf
  · rw [hfs, hhs]
    exact Agree.refl _
  · rw [hfs, hhs]
    exact (hread v hmem v' hrel hv hv').under _ _

/-- A reader of single values gives the same: they have no other spellings. -/
theorem steady_of_plain {read : Json → Checked α} (harr : ∀ vs, ∃ is, read (.arr vs) = .error is)
    (hobj : ∀ fs, ∃ is, read (.obj fs) = .error is) (v : Json) : Steady names read v := by
  intro w h _ _
  cases h with
  | @arr vs ws _ =>
    obtain ⟨is, his⟩ := harr vs
    obtain ⟨is', his'⟩ := harr ws
    rw [his, his']
    exact agree_error is is'
  | @obj fs gs hs _ _ =>
    obtain ⟨is, his⟩ := hobj fs
    obtain ⟨is', his'⟩ := hobj hs
    rw [his, his']
    exact agree_error is is'
  | _ => exact Agree.refl _

/-- **Records do not mind spellings**, if the readers of their fields do not. -/
theorem steady_object {body : List (String × Json) → Checked α} (hapart : FieldName.Apart names)
    (hns : ns ⊆ names) (v : Json)
    (hbody : ∀ fs, v = .obj fs → ∀ hs, Matching names ns fs hs → Agree (body fs) (body hs)) :
    Steady names (object fun fields => closed ns fields (body fields)) v := by
  intro w h hv hw
  cases h with
  | @obj fs gs hs hrenamed hperm =>
    have hkeys := (Json.everyObject_obj_iff.mp hv).1
    have hextras := Respelled.extras_eq_nil_iff hrenamed hperm hapart hns hkeys
      (Json.everyObject_obj_iff.mp hw).1
    intro b
    rw [object, object, closed_eq_ok_iff, closed_eq_ok_iff, ← hextras, and_congr_right_iff]
    intro hnone
    have honce := ((Checked.extras_eq_nil_iff hapart hns hkeys).mp hnone).2
    exact hbody fs rfl hs (Respelled.matching hrenamed hperm hapart hns hv hw honce) b
  | _ => exact agree_error _ _

theorem agree_itemsFrom {read : Json → Checked α} {vs ws : List Json}
    (h : List.Forall₂ (Respelled names) vs ws) (hread : ∀ v ∈ vs, Steady names read v)
    (hvs : ∀ v ∈ vs, v.Distinct) (hws : ∀ w ∈ ws, w.Distinct) (i : Nat) :
    Agree (itemsFrom read i vs) (itemsFrom read i ws) := by
  induction h generalizing i with
  | nil => exact Agree.refl _
  | @cons v w vs ws hvw _ ih =>
    have hhead := hread v List.mem_cons_self w hvw (hvs v List.mem_cons_self) (hws w List.mem_cons_self)
    have htail := ih (fun u hu => hread u (List.mem_cons_of_mem _ hu))
      (fun u hu => hvs u (List.mem_cons_of_mem _ hu)) (fun u hu => hws u (List.mem_cons_of_mem _ hu)) (i + 1)
    exact ((hhead.under _ _).both htail).map _

/-- Lists do not mind spellings, if the reader of their items does not. -/
theorem steady_sequence {read : Json → Checked α} (v : Json)
    (hread : ∀ u ∈ v.parts, Steady names read u) : Steady names (sequence read) v := by
  intro w h hv hw
  cases h with
  | arr hitems =>
    exact agree_itemsFrom hitems hread (Json.everyObject_arr_iff.mp hv) (Json.everyObject_arr_iff.mp hw) 0
  | _ => exact agree_error _ _

end Steady

end SourceOutline
