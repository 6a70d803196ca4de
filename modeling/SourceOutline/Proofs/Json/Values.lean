import Mathlib.Tactic.Set
import SourceOutline.Proofs.Json.Strings
import SourceOutline.Proofs.Table

/-!
# Values survive the way through JSON

A plain value (`Json.Plain`) holds no numbers, and none of its objects has a key twice.  In a legal
style the separators are those of the format, with gaps after them at most.

The reader is given fuel, and one step of it calls the others with one unit less.  `ReadsBack` says
what all three of them do with texts shorter than their fuel; it is kept from one unit to the next
(`readsBack_value`, `readsBack_items`, `readsBack_fields`).  Main statement: `parse?_render`.
-/

namespace SourceOutline.Json

/-! ## Gaps and styles -/

/-- Blanks of the format only. -/
def Gaps (g : List Char) : Prop :=
  ∀ c ∈ g, isGap c = true

theorem skipGaps_append {g : List Char} (hg : Gaps g) {c : Char} (hc : isGap c = false)
    (r : List Char) : skipGaps (g ++ c :: r) = c :: r := by
  rw [skipGaps, List.dropWhile_append_of_pos hg]
  simp [hc]

theorem skipGaps_cons {c : Char} (hc : isGap c = false) (r : List Char) : skipGaps (c :: r) = c :: r := by
  simp [skipGaps, hc]

theorem Style.gaps_break (st : Style) (depth : Nat) : Gaps (st.break depth) := by
  intro c h
  unfold Style.break at h
  cases hi : st.indent with
  | none => simp [hi] at h
  | some n =>
    rw [hi] at h
    rcases List.mem_cons.mp h with rfl | h
    · rfl
    · rw [(List.mem_replicate.mp h).2]
      rfl

/-- The separators of a style are those of the format, with gaps after them. -/
structure Style.Legal (st : Style) : Prop where
  comma : ∃ g, st.comma.toList = ',' :: g ∧ Gaps g
  colon : ∃ g, st.colon.toList = ':' :: g ∧ Gaps g

theorem Style.compact_legal : Style.compact.Legal :=
  ⟨⟨[], rfl, by simp [Gaps]⟩, ⟨[], rfl, by simp [Gaps]⟩⟩

theorem Style.indented_legal (n : Nat) : (Style.indented n).Legal :=
  ⟨⟨[], by simp [Style.indented], by simp [Gaps]⟩, ⟨[' '], by simp [Style.indented], by simp [Gaps, isGap]⟩⟩

theorem Style.spaced_legal : Style.spaced.Legal :=
  ⟨⟨[' '], by simp [Style.spaced], by simp [Gaps, isGap]⟩,
    ⟨[' '], by simp [Style.spaced], by simp [Gaps, isGap]⟩⟩

theorem Style.Legal.between {st : Style} (h : st.Legal) (depth : Nat) :
    ∃ g, st.between depth = ',' :: g ∧ Gaps g := by
  unfold Style.between
  cases hi : st.indent with
  | none => exact h.comma
  | some n => exact ⟨st.break depth, rfl, st.gaps_break depth⟩

/-! ## Plain values -/

mutual

/-- Without numbers, and no object has a key twice. -/
def Plain : Json → Prop
  | .int _ => False
  | .float _ => False
  | .arr items => PlainItems items
  | .obj fields => (fields.map Prod.fst).Nodup ∧ PlainFields fields
  | _ => True

/-- All items are plain. -/
def PlainItems : List Json → Prop
  | [] => True
  | v :: vs => Plain v ∧ PlainItems vs

/-- The values of all fields are plain. -/
def PlainFields : List (String × Json) → Prop
  | [] => True
  | (_, v) :: fs => Plain v ∧ PlainFields fs

end

theorem plainItems_iff {vs : List Json} : PlainItems vs ↔ ∀ v ∈ vs, v.Plain := by
  induction vs with
  | nil => simp [PlainItems]
  | cons v vs ih => rw [PlainItems, List.forall_mem_cons, ih]

theorem plainFields_iff {fs : List (String × Json)} : PlainFields fs ↔ ∀ e ∈ fs, e.2.Plain := by
  induction fs with
  | nil => simp [PlainFields]
  | cons e fs ih => rw [PlainFields, List.forall_mem_cons, ih]

theorem plainItems_map {write : α → Json} {as : List α} (h : ∀ a ∈ as, Plain (write a)) :
    PlainItems (as.map write) :=
  plainItems_iff.mpr (List.forall_mem_map.mpr h)

/-- The text of a plain value begins with a character that is no gap and closes no array. -/
theorem renderAt_head (st : Style) (depth : Nat) {v : Json} (h : Plain v) :
    ∃ c t, renderAt st depth v = c :: t ∧ isGap c = false ∧ c ≠ ']' := by
  cases v with
  | null => exact ⟨'n', _, rfl, rfl, by decide⟩
  | bool b => cases b with
    | false => exact ⟨'f', _, rfl, rfl, by decide⟩
    | true => exact ⟨'t', _, rfl, rfl, by decide⟩
  | int n => exact h.elim
  | float x => exact h.elim
  | str s => exact ⟨'"', _, rfl, rfl, by decide⟩
  | arr items => cases items with
    | nil => exact ⟨'[', _, rfl, rfl, by decide⟩
    | cons v vs => exact ⟨'[', _, rfl, rfl, by decide⟩
  | obj fields => cases fields with
    | nil => exact ⟨'\x7b', _, rfl, rfl, by decide⟩
    | cons e fs => exact ⟨'\x7b', _, rfl, rfl, by decide⟩

theorem skipGaps_renderAt (st : Style) (depth : Nat) {v : Json} (h : Plain v) {g : List Char} (hg : Gaps g)
    (r : List Char) : skipGaps (g ++ (renderAt st depth v ++ r)) = renderAt st depth v ++ r := by
  obtain ⟨c, t, hv, hc, -⟩ := renderAt_head st depth h
  rw [hv, List.cons_append]
  exact skipGaps_append hg hc _

/-! ## One unit of fuel -/

/-- What the three readers give back for texts shorter than the fuel; `g` stands before the bracket
that closes a list. -/
structure ReadsBack (st : Style) (fuel : Nat) : Prop where
  value : ∀ depth v r, Plain v → (renderAt st depth v).length < fuel →
    readValue? fuel (renderAt st depth v ++ r) = some (v, r)
  items : ∀ depth v vs g r, Plain v → PlainItems vs → Gaps g →
    (renderAt st depth v).length + (renderItems st depth vs).length + 1 < fuel →
    readItems? fuel (renderAt st depth v ++ (renderItems st depth vs ++ (g ++ ']' :: r))) =
      some (v :: vs, r)
  fields : ∀ depth k v fs g r, Plain v → PlainFields fs → Gaps g →
    (renderAt st depth v).length + (renderFields st depth fs).length + 1 < fuel →
    readFields? fuel (quote st.asciiOnly k ++ (st.colon.toList ++ (renderAt st depth v
      ++ (renderFields st depth fs ++ (g ++ '\x7d' :: r))))) = some ((k, v) :: fs, r)

section Step

variable {st : Style} (hst : st.Legal) {fuel : Nat} (ih : ReadsBack st fuel)
include ih

theorem readsBack_arr (depth : Nat) (v : Json) (vs : List Json) (r : List Char) (hv : Plain v)
    (hvs : PlainItems vs) (hlen : (renderAt st depth (.arr (v :: vs))).length < fuel + 1) :
    readValue? (fuel + 1) (renderAt st depth (.arr (v :: vs)) ++ r) = some (.arr (v :: vs), r) := by
  have hlen' : (renderAt st (depth + 1) v).length + (renderItems st (depth + 1) vs).length + 1 < fuel := by
    simp only [renderAt, List.length_append, List.length_cons, List.length_nil] at hlen
    omega
  have hitems := ih.items (depth + 1) v vs (st.break depth) r hv hvs (st.gaps_break depth) hlen'
  have hskip := skipGaps_renderAt st (depth + 1) hv (st.gaps_break (depth + 1))
    (renderItems st (depth + 1) vs ++ (st.break depth ++ ']' :: r))
  obtain ⟨c, t, hvt, -, hne⟩ := renderAt_head st (depth + 1) hv
  simp only [renderAt, List.cons_append, List.append_assoc, List.nil_append]
  rw [readValue?, hskip]
  rw [hvt, List.cons_append] at hitems ⊢
  split
  · -- the text of a value does not start with the closing bracket
    rename_i heq
    exact absurd (List.cons.inj heq).1 hne
  · rw [hitems]
    rfl

theorem readsBack_obj (depth : Nat) (k : String) (v : Json) (fs : List (String × Json)) (r : List Char)
    (hkeys : (((k, v) :: fs).map Prod.fst).Nodup) (hv : Plain v) (hfs : PlainFields fs)
    (hlen : (renderAt st depth (.obj ((k, v) :: fs))).length < fuel + 1) :
    readValue? (fuel + 1) (renderAt st depth (.obj ((k, v) :: fs)) ++ r) =
      some (.obj ((k, v) :: fs), r) := by
  have hlen' : (renderAt st (depth + 1) v).length + (renderFields st (depth + 1) fs).length + 1 < fuel := by
    simp only [renderAt, List.length_append, List.length_cons, List.length_nil] at hlen
    omega
  have hfields := ih.fields (depth + 1) k v fs (st.break depth) r hv hfs (st.gaps_break depth) hlen'
  set body := quote st.asciiOnly k ++ (st.colon.toList ++ (renderAt st (depth + 1) v
    ++ (renderFields st (depth + 1) fs ++ (st.break depth ++ '\x7d' :: r)))) with hbody
  obtain ⟨t, ht⟩ : ∃ t, body = '"' :: t := ⟨_, rfl⟩
  have hrender : renderAt st depth (.obj ((k, v) :: fs)) ++ r = '\x7b' :: (st.break (depth + 1) ++ body) := by
    simp [renderAt, hbody]
  have hskip : skipGaps (st.break (depth + 1) ++ body) = body := by
    rw [ht]
    exact skipGaps_append (st.gaps_break (depth + 1)) rfl t
  rw [hrender, readValue?, hskip]
  rw [ht] at hfields ⊢
  simp [hfields, Table.ofPairs_of_nodup hkeys]

theorem readsBack_value (depth : Nat) (v : Json) (r : List Char) (hv : Plain v)
    (hlen : (renderAt st depth v).length < fuel + 1) :
    readValue? (fuel + 1) (renderAt st depth v ++ r) = some (v, r) := by
  cases v with
  | null =>
    simp [renderAt, readValue?, readScalar?, dropWord?]
    rfl
  | bool b => cases b <;> simp [renderAt, readValue?, readScalar?, dropWord?] <;> rfl
  | int n => exact hv.elim
  | float x => exact hv.elim
  | str s =>
    simp only [renderAt, quote, List.cons_append, List.append_assoc, List.nil_append]
    rw [readValue?]
    · simp [readScalar?, readString?_flatMap]
    · simp
    · simp
  | arr items =>
    cases items with
    | nil => rfl
    | cons v vs => exact readsBack_arr ih depth v vs r hv.1 hv.2 hlen
  | obj fields =>
    cases fields with
    | nil => rfl
    | cons e fs => exact readsBack_obj ih depth e.1 e.2 fs r hv.1 hv.2.1 hv.2.2 hlen

include hst

theorem readsBack_items (depth : Nat) (v : Json) (vs : List Json) (g r : List Char) (hv : Plain v)
    (hvs : PlainItems vs) (hg : Gaps g)
    (hlen : (renderAt st depth v).length + (renderItems st depth vs).length + 1 < fuel + 1) :
    readItems? (fuel + 1) (renderAt st depth v ++ (renderItems st depth vs ++ (g ++ ']' :: r))) =
      some (v :: vs, r) := by
  rw [readItems?, ih.value depth v _ hv (by omega)]
  cases vs with
  | nil =>
    simp only [renderItems, List.nil_append]
    rw [skipGaps_append hg rfl]
    rfl
  | cons w ws =>
    obtain ⟨g', hb, hg'⟩ := hst.between depth
    have hlen' : (renderAt st depth w).length + (renderItems st depth ws).length + 1 < fuel := by
      simp only [renderItems, hb, List.length_append, List.length_cons] at hlen
      omega
    have hnext := ih.items depth w ws g r hvs.1 hvs.2 hg hlen'
    have hcomma : renderItems st depth (w :: ws) ++ (g ++ ']' :: r) =
        ',' :: (g' ++ (renderAt st depth w ++ (renderItems st depth ws ++ (g ++ ']' :: r)))) := by
      simp [renderItems, hb]
    have hskip := skipGaps_renderAt st depth hvs.1 hg' (renderItems st depth ws ++ (g ++ ']' :: r))
    simp only [hcomma, skipGaps_cons (show isGap ',' = false from rfl), hskip, hnext, Option.map_some]

theorem readsBack_fields (depth : Nat) (k : String) (v : Json) (fs : List (String × Json))
    (g r : List Char) (hv : Plain v) (hfs : PlainFields fs) (hg : Gaps g)
    (hlen : (renderAt st depth v).length + (renderFields st depth fs).length + 1 < fuel + 1) :
    readFields? (fuel + 1) (quote st.asciiOnly k ++ (st.colon.toList ++ (renderAt st depth v
      ++ (renderFields st depth fs ++ (g ++ '\x7d' :: r))))) = some ((k, v) :: fs, r) := by
  obtain ⟨gc, hcol, hgc⟩ := hst.colon
  set tail := renderFields st depth fs ++ (g ++ '\x7d' :: r) with htail
  have hquote : quote st.asciiOnly k ++ (st.colon.toList ++ (renderAt st depth v ++ tail)) =
      '"' :: (k.toList.flatMap (escapeChar st.asciiOnly)
        ++ '"' :: ':' :: (gc ++ (renderAt st depth v ++ tail))) := by
    simp [quote, hcol]
  rw [hquote, readFields?, readString?_flatMap]
  simp only [skipGaps_cons (show isGap ':' = false from rfl), skipGaps_renderAt st depth hv hgc]
  rw [ih.value depth v _ hv (by omega)]
  cases fs with
  | nil =>
    rw [htail]
    simp only [renderFields, List.nil_append]
    rw [skipGaps_append hg rfl]
    simp
  | cons e es =>
    obtain ⟨k', w⟩ := e
    obtain ⟨g', hb, hg'⟩ := hst.between depth
    have hlen' : (renderAt st depth w).length + (renderFields st depth es).length + 1 < fuel := by
      simp only [renderFields, hb, List.length_append, List.length_cons] at hlen
      omega
    have hnext := ih.fields depth k' w es g r hfs.1 hfs.2 hg hlen'
    set next := quote st.asciiOnly k' ++ (st.colon.toList ++ (renderAt st depth w
      ++ (renderFields st depth es ++ (g ++ '\x7d' :: r)))) with hnext'
    have hcomma : tail = ',' :: (g' ++ next) := by
      rw [htail, hnext']
      simp [renderFields, hb]
    have hskip : skipGaps (g' ++ next) = next := by
      rw [hnext', quote, List.cons_append]
      exact skipGaps_append hg' rfl _
    simp only [hcomma, skipGaps_cons (show isGap ',' = false from rfl), hskip, hnext, Option.map_some,
      String.ofList_toList]

end Step

/-! ## Whole texts -/

theorem readsBack {st : Style} (hst : st.Legal) (fuel : Nat) : ReadsBack st fuel := by
  induction fuel with
  | zero =>
    refine ⟨fun _ _ _ _ h => ?_, fun _ _ _ _ _ _ _ _ h => ?_, fun _ _ _ _ _ _ _ _ _ h => ?_⟩ <;>
      exact absurd h (Nat.not_lt_zero _)
  | succ fuel ih => exact ⟨readsBack_value ih, readsBack_items hst ih, readsBack_fields hst ih⟩

/-- **Reading undoes writing**: in every legal style, the text of a plain value is read as that
value. -/
theorem parse?_render {st : Style} (hst : st.Legal) {v : Json} (hv : Plain v) :
    parse? (render st v) = some v := by
  have hskip : skipGaps (renderAt st 0 v) = renderAt st 0 v := by
    simpa using skipGaps_renderAt st 0 hv (g := []) (by simp [Gaps]) []
  have hread := (readsBack hst ((renderAt st 0 v).length + 1)).value 0 v [] hv (Nat.lt_succ_self _)
  rw [List.append_nil] at hread
  simp only [parse?, render, String.toList_ofList, hskip, hread]
  rfl

end SourceOutline.Json
