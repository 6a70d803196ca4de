import Mathlib.Data.List.DropRight
import SourceOutline.Proofs.Python.Reference
import SourceOutline.Proofs.Text.Dotted

/-!
# Texts and the names they are looked up by

An annotation or base class is looked up by a name: what stands in brackets is dropped, then blanks, then quotation
marks at both ends.

* `dropSubscriptsAt_append`, `squeeze_dropSubscriptsAt`: dropping what stands in brackets, part by part and without
  blanks.
* `mem_dropSubscriptsAt_iff`: what is left is what stands where no bracket is open.
* `dropQuotes_append`, `dropQuotes_around`: quotation marks are dropped from the ends only.
* `name_resolve`: the name of what a name stands for.

Main statement: `forall_reference_eq_iff`, two texts mean the same in all scopes just if they are looked up by the
same name.
-/

namespace SourceOutline.Python

/-! ## Brackets -/

section Brackets

/-- How many brackets are open after a text; a closing one too many does not count. -/
def openBrackets (depth : Nat) (cs : List Char) : Nat :=
  cs.foldl (fun d c => if c = '[' then d + 1 else if c = ']' then d - 1 else d) depth

theorem openBrackets_concat (depth : Nat) (cs : List Char) (c : Char) :
    openBrackets depth (cs ++ [c]) = if c = '[' then openBrackets depth cs + 1
      else if c = ']' then openBrackets depth cs - 1 else openBrackets depth cs := by
  simp [openBrackets]

theorem dropSubscriptsAt_append (depth : Nat) (a b : List Char) :
    dropSubscriptsAt depth (a ++ b) = dropSubscriptsAt depth a ++ dropSubscriptsAt (openBrackets depth a) b := by
  fun_induction dropSubscriptsAt depth a with
  | case1 depth => rfl
  | case2 depth r ih => simpa [dropSubscriptsAt, openBrackets] using ih
  | case3 depth r hc ih => simpa [dropSubscriptsAt, openBrackets] using ih
  | case4 c r hc hc' ih => simpa [dropSubscriptsAt, openBrackets, hc, hc'] using ih
  | case5 depth c r hc hc' hdepth ih => simpa [dropSubscriptsAt, openBrackets, hc, hc', hdepth] using ih

theorem dropSubscriptsAt_singleton (depth : Nat) (c : Char) :
    dropSubscriptsAt depth [c] = if c ∉ ['[', ']'] ∧ depth = 0 then [c] else [] := by
  by_cases hopen : c = '['
  · simp [dropSubscriptsAt, hopen]
  by_cases hclose : c = ']'
  · simp [dropSubscriptsAt, hclose]
  · simp [dropSubscriptsAt, hopen, hclose]

theorem dropSubscriptsAt_zero_of_plain {cs : List Char} (h : ∀ c ∈ cs, c ∉ ['[', ']']) :
    dropSubscriptsAt 0 cs = cs := by
  induction cs with
  | nil => rfl
  | cons c cs ih =>
    obtain ⟨hc, hcs⟩ := List.forall_mem_cons.mp h
    simp only [List.mem_cons, List.not_mem_nil, or_false, not_or] at hc
    rw [dropSubscriptsAt, if_neg hc.1, if_neg hc.2, if_pos rfl, ih hcs]

theorem openBrackets_of_plain {cs : List Char} (h : ∀ c ∈ cs, c ∉ ['[', ']']) (depth : Nat) :
    openBrackets depth cs = depth := by
  induction cs with
  | nil => rfl
  | cons c cs ih =>
    obtain ⟨hc, hcs⟩ := List.forall_mem_cons.mp h
    simp only [List.mem_cons, List.not_mem_nil, or_false, not_or] at hc
    have hsame : openBrackets depth (c :: cs) = openBrackets depth cs := by simp [openBrackets, hc]
    rw [hsame, ih hcs]

/-- Brackets are no blanks, so it does not matter when blanks are dropped. -/
theorem squeeze_dropSubscriptsAt (depth : Nat) (cs : List Char) :
    Text.squeeze (dropSubscriptsAt depth cs) = dropSubscriptsAt depth (Text.squeeze cs) := by
  fun_induction dropSubscriptsAt depth cs with
  | case1 depth => rfl
  | case2 depth r ih =>
    have hkept : Text.squeeze ('[' :: r) = '[' :: Text.squeeze r := List.filter_cons_of_pos (by decide)
    rw [ih, hkept, dropSubscriptsAt, if_pos rfl]
  | case3 depth r hc ih =>
    have hkept : Text.squeeze (']' :: r) = ']' :: Text.squeeze r := List.filter_cons_of_pos (by decide)
    rw [ih, hkept, dropSubscriptsAt, if_neg hc, if_pos rfl]
  | case4 c r hc hc' ih =>
    cases hblank : Text.isBlank c with
    | true => simpa [Text.squeeze, hblank] using ih
    | false => simpa [Text.squeeze, hblank, dropSubscriptsAt, hc, hc'] using ih
  | case5 depth c r hc hc' hdepth ih =>
    cases hblank : Text.isBlank c with
    | true => simpa [Text.squeeze, hblank] using ih
    | false => simpa [Text.squeeze, hblank, dropSubscriptsAt, hc, hc', hdepth] using ih

/-- What is left stands where no bracket is open. -/
theorem mem_dropSubscriptsAt_iff {depth : Nat} {cs : List Char} {c : Char} :
    c ∈ dropSubscriptsAt depth cs ↔
      c ∉ ['[', ']'] ∧ ∃ a b, cs = a ++ c :: b ∧ openBrackets depth a = 0 := by
  induction cs using List.reverseRecOn generalizing c with
  | nil => simp [dropSubscriptsAt]
  | append_singleton cs x ih =>
    rw [dropSubscriptsAt_append, List.mem_append, ih, dropSubscriptsAt_singleton]
    constructor
    · rintro (⟨hc, a, b, rfl, ha⟩ | hx)
      · exact ⟨hc, a, b ++ [x], by simp, ha⟩
      · split at hx
        · rename_i hx'
          obtain rfl := List.mem_singleton.mp hx
          exact ⟨hx'.1, cs, [], rfl, hx'.2⟩
        · cases hx
    · rintro ⟨hc, a, b, heq, ha⟩
      rcases List.eq_nil_or_concat b with rfl | ⟨b, y, rfl⟩
      · obtain ⟨rfl, rfl⟩ : cs = a ∧ x = c := by simpa [List.append_eq_append_iff] using List.append_inj' heq rfl
        exact .inr (by rw [if_pos ⟨hc, ha⟩]; exact List.mem_singleton_self _)
      · have hsplit : cs ++ [x] = (a ++ c :: b) ++ [y] := by simpa using heq
        exact .inl ⟨hc, a, b, (List.append_inj' hsplit rfl).1, ha⟩

end Brackets

/-! ## Quotation marks -/

section Quotes

theorem dropQuotes_eq (cs : List Char) : dropQuotes cs = (cs.dropWhile isQuote).rdropWhile isQuote := rfl

/-- After a text without quotation marks, only those at the end are dropped. -/
theorem dropQuotes_append {x : List Char} (hne : x ≠ []) (hx : ∀ c ∈ x, isQuote c = false) (w : List Char) :
    dropQuotes (x ++ w) = x ++ w.rdropWhile isQuote := by
  obtain ⟨c, y, rfl⟩ := List.exists_cons_of_ne_nil hne
  have hfront : (c :: y ++ w).dropWhile isQuote = c :: y ++ w := by
    rw [List.cons_append, List.dropWhile_cons_of_neg (by simp [hx c List.mem_cons_self])]
  have hback : (c :: y).rdropWhile isQuote = c :: y :=
    List.rdropWhile_eq_self_iff.mpr fun _ => by simp [hx _ (List.getLast_mem hne)]
  rw [dropQuotes_eq, hfront, List.rdropWhile, List.reverse_append, List.dropWhile_append]
  split
  · rename_i hnone
    have hend : w.rdropWhile isQuote = [] := by rw [List.rdropWhile, List.isEmpty_iff.mp hnone, List.reverse_nil]
    rw [hend, List.append_nil]
    exact hback
  · rw [List.reverse_append, List.reverse_reverse]
    rfl

/-- All quotation marks around a text without any are dropped. -/
theorem dropQuotes_around {a x w : List Char} (ha : ∀ c ∈ a, isQuote c = true) (hx : ∀ c ∈ x, isQuote c = false)
    (hw : ∀ c ∈ w, isQuote c = true) : dropQuotes (a ++ x ++ w) = x := by
  have hfront : (a ++ x ++ w).dropWhile isQuote = (x ++ w).dropWhile isQuote := by
    rw [List.append_assoc, List.dropWhile_append_of_pos ha]
  rw [dropQuotes_eq, hfront, ← dropQuotes_eq]
  by_cases hne : x = []
  · rw [hne, List.nil_append, dropQuotes_eq, List.dropWhile_eq_nil_iff.mpr hw]
    rfl
  · rw [dropQuotes_append hne hx, List.rdropWhile_eq_nil_iff.mpr hw, List.append_nil]

theorem dropQuotes_of_plain {x : List Char} (hx : ∀ c ∈ x, isQuote c = false) : dropQuotes x = x := by
  have haround := dropQuotes_around (a := []) (w := []) (by simp) hx (by simp)
  rwa [List.nil_append, List.append_nil] at haround

theorem toList_lookupName (text : String) :
    (lookupName text).toList = dropQuotes (Text.squeeze (dropSubscriptsAt 0 text.toList)) := by
  rw [lookupName, dropSubscripts, String.toList_ofList, String.toList_ofList]

/-- A text without brackets and quotation marks is looked up as it is, but for blanks. -/
theorem toList_lookupName_of_plain {text : String} (hbracket : ∀ c ∈ text.toList, c ∉ ['[', ']'])
    (hquote : ∀ c ∈ text.toList, isQuote c = false) : (lookupName text).toList = Text.squeeze text.toList := by
  rw [toList_lookupName, dropSubscriptsAt_zero_of_plain hbracket]
  exact dropQuotes_of_plain fun c hc => hquote c (List.mem_of_mem_filter hc)

end Quotes

/-! ## What a text means -/

section Meaning

theorem reference_of_union {text : String} (h : '|' ∈ (lookupName text).toList) (scope : Scope) (kind : TypeKind) :
    reference scope text kind = .stub "" (lookupName text) kind := by
  rw [reference, if_pos h]

theorem reference_of_not_union {text : String} (h : '|' ∉ (lookupName text).toList) (scope : Scope)
    (kind : TypeKind) : reference scope text kind =
      .stub (resolve scope (lookupName text)).1 (resolve scope (lookupName text)).2 kind := by
  rw [reference, if_neg h]

/-- A name that is not bound as a whole keeps its last component. -/
theorem name_resolve (scope : Scope) (base : String) : (resolve scope base).2 =
    ((scope.declared.get? base).or ((scope.imports.get? base).map Dotted.last)).getD (Dotted.last base) := by
  cases hdeclared : scope.declared.get? base with
  | some full => rw [resolve_of_declared hdeclared]; rfl
  | none =>
    cases himport : scope.imports.get? base with
    | some qualified => rw [resolve_of_imported hdeclared himport]; rfl
    | none =>
      change _ = Dotted.last base
      cases hsplit : Dotted.splitFirst base with
      | none =>
        have hdot : '.' ∉ base.toList :=
          Dotted.splitFirstChars_eq_none_iff.mp (Option.map_eq_none_iff.mp hsplit)
        rw [resolve, hdeclared, himport, hsplit, Dotted.last_of_not_mem hdot]
        dsimp only
        split <;> rfl
      | some p =>
        obtain ⟨head, rest⟩ := p
        cases hhead : scope.imports.get? head with
        | some qualified =>
          rw [resolve_of_head_imported hdeclared himport hsplit hhead, Dotted.eq_append_of_splitFirst hsplit,
            Dotted.last_append, ← Dotted.last_append qualified rest]
          rfl
        | none => rw [resolve_of_unknown_head hdeclared himport hsplit hhead]; rfl

/-- A name that is not bound as a whole is not longer afterwards. -/
theorem length_resolve_le {scope : Scope} {base : String} (hdeclared : scope.declared.get? base = none)
    (himport : scope.imports.get? base = none) : (resolve scope base).2.length ≤ base.length := by
  rw [name_resolve, hdeclared, himport]
  exact Dotted.length_last_le base

/-- In some scope, a text means something else than one that is looked up by another name. -/
theorem exists_reference_ne {a b : String} (h : lookupName a ≠ lookupName b) (hbar : '|' ∉ (lookupName b).toList) :
    ∃ scope, reference scope a ≠ reference scope b := by
  generalize hname : lookupName a = name at h
  -- the other name stands for a class whose name is too long to come from the first one
  refine ⟨{ package := ".", declared := [(lookupName b, name ++ ".")] }, fun heq => ?_⟩
  have hb : resolve { package := ".", declared := [(lookupName b, name ++ ".")] } (lookupName b) =
      (".", name ++ ".") := resolve_of_declared (by simp [Table.get?])
  rw [reference_of_not_union hbar, hb] at heq
  by_cases hunion : '|' ∈ (lookupName a).toList
  · rw [reference_of_union hunion] at heq
    exact absurd (congrArg (fun t => t.package.name) heq) (by simp [TypeDecl.stub])
  · rw [reference_of_not_union hunion, hname] at heq
    have hlength := congrArg (fun t => t.name.length) heq
    have hshort : (resolve { package := ".", declared := [(lookupName b, name ++ ".")] } name).2.length ≤
        name.length := length_resolve_le (by simp [Table.get?, Ne.symm h]) rfl
    simp only [TypeDecl.stub, String.length_append] at hlength
    have hdot : ".".length = 1 := rfl
    omega

/-- **Two texts mean the same in all scopes just if they are looked up by the same name.** -/
theorem forall_reference_eq_iff {a b : String} :
    (∀ scope kind, reference scope a kind = reference scope b kind) ↔ lookupName a = lookupName b := by
  constructor
  · intro h
    by_contra hne
    by_cases hb : '|' ∈ (lookupName b).toList
    · by_cases ha : '|' ∈ (lookupName a).toList
      · have hunion := h {} .classType
        rw [reference_of_union ha, reference_of_union hb] at hunion
        simp only [TypeDecl.stub, TypeDecl.mk.injEq] at hunion
        exact hne hunion.2.1
      · obtain ⟨scope, hscope⟩ := exists_reference_ne (Ne.symm hne) ha
        exact hscope (h scope .classType).symm
    · obtain ⟨scope, hscope⟩ := exists_reference_ne hne hb
      exact hscope (h scope .classType)
  · intro h scope kind
    unfold reference
    rw [h]

end Meaning

end SourceOutline.Python
