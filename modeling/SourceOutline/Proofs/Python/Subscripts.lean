import SourceOutline.Proofs.Outcome
import SourceOutline.Proofs.Python.LookupNames
import SourceOutline.Python.Grammar
import SourceOutline.Python.Types

/-!
# Subscripts in Python

A name may have arguments in brackets, which are dropped before it is looked up.  They are dropped by counting
brackets, and the brackets in strings are counted like all others.  So the arguments leave the name alone as
long as no string closes brackets that it does not open; a string that does lets what follows it run into the
name.

* `OpensFirst`: a text in which no closing bracket comes too early; `OpensFirst.append`, `OpensFirst.group`:
  how such texts are put together.
* `lookupName_subscript_eq_iff`: when arguments leave a name alone.

Main statement: `reference_of_subscript`.
-/

namespace SourceOutline.Python

/-! ## Texts that open first -/

section OpensFirst

/-- No beginning of the text closes more brackets than it opens. -/
def OpensFirst (cs : List Char) : Prop :=
  ∀ p, p <+: cs → p.count ']' ≤ p.count '['

theorem OpensFirst.append {a b : List Char} (ha : OpensFirst a) (hb : OpensFirst b) : OpensFirst (a ++ b) := by
  intro p hp
  rcases List.prefix_or_prefix_of_prefix hp (List.prefix_append a b) with hp | ⟨q, rfl⟩
  · exact ha p hp
  · have hacount := ha a (List.prefix_refl a)
    have hqcount := hb q ((List.prefix_append_right_inj a).mp hp)
    rw [List.count_append, List.count_append]
    omega

theorem OpensFirst.of_not_mem {cs : List Char} (h : ']' ∉ cs) : OpensFirst cs := by
  intro p hp
  rw [List.count_eq_zero.mpr fun hmem => h (hp.subset hmem)]
  exact Nat.zero_le _

theorem OpensFirst.group {cs : List Char} (h : OpensFirst cs) : OpensFirst ('[' :: cs ++ [']']) := by
  intro p hp
  rcases List.prefix_concat_iff.mp hp with rfl | hp
  · have hcount := h cs (List.prefix_refl cs)
    simp
    omega
  · rcases List.prefix_cons_iff.mp hp with rfl | ⟨q, rfl, hq⟩
    · exact Nat.le_refl _
    · have hcount := h q hq
      simp
      omega

/-- Where no closing bracket comes too early, all of them count. -/
theorem OpensFirst.openBrackets_add_count {cs : List Char} (h : OpensFirst cs) (depth : Nat) :
    openBrackets depth cs + cs.count ']' = depth + cs.count '[' := by
  induction cs using List.reverseRecOn with
  | nil => rfl
  | append_singleton cs c ih =>
    have hcs := ih fun p hp => h p (hp.trans (List.prefix_append cs [c]))
    have hwhole := h (cs ++ [c]) (List.prefix_refl _)
    rw [openBrackets_concat]
    rw [List.count_append, List.count_append] at hwhole ⊢
    by_cases hopen : c = '['
    · subst hopen
      simp at hwhole ⊢
      omega
    by_cases hclose : c = ']'
    · subst hclose
      simp at hwhole ⊢
      omega
    · simp [hopen, hclose]
      omega

end OpensFirst

/-! ## Arguments -/

section Arguments

/-- Names with dots between them: no bracket, quotation mark, bar or blank. -/
structure IsDottedName (name : String) : Prop where
  ne_empty : name ≠ ""
  plain : ∀ c ∈ name.toList, c ∉ ['[', ']', '\'', '"', '|'] ∧ Text.isBlank c = false

/-- The text of arguments: other characters than brackets and quotation marks, groups in brackets, and strings
whose text is of some kind. -/
inductive IsArgument (inString : List Char → Prop) : List Char → Prop
  | nil : IsArgument inString []
  | plain {c : Char} {r : List Char} :
    c ∉ ['[', ']'] → isQuote c = false → IsArgument inString r → IsArgument inString (c :: r)
  | group {g r : List Char} :
    IsArgument inString g → IsArgument inString r → IsArgument inString ('[' :: g ++ [']'] ++ r)
  | string {q : Char} {s r : List Char} :
    isQuote q = true → q ∉ s → '\\' ∉ s → inString s → IsArgument inString r →
      IsArgument inString (q :: s ++ [q] ++ r)

/-- A name with arguments. -/
def subscript (name : String) (g : List Char) : String :=
  name ++ "[" ++ String.ofList g ++ "]"

variable {name : String} {g : List Char}

theorem IsDottedName.not_mem_brackets (h : IsDottedName name) {c : Char} (hc : c ∈ name.toList) :
    c ∉ ['[', ']'] := by
  have hplain := (h.plain c hc).1
  simp only [List.mem_cons, List.not_mem_nil, or_false, not_or] at hplain ⊢
  exact ⟨hplain.1, hplain.2.1⟩

theorem IsDottedName.isQuote_eq (h : IsDottedName name) {c : Char} (hc : c ∈ name.toList) : isQuote c = false := by
  have hplain := (h.plain c hc).1
  simp only [List.mem_cons, List.not_mem_nil, or_false, not_or] at hplain
  simp [isQuote, hplain]

/-- A name with arguments is looked up by the name, followed by what is left of the arguments. -/
theorem toList_lookupName_subscript (h : IsDottedName name) (g : List Char) :
    (lookupName (subscript name g)).toList =
      name.toList ++ (Text.squeeze (dropSubscriptsAt 1 g)).rdropWhile isQuote := by
  have hchars : (subscript name g).toList = name.toList ++ '[' :: (g ++ [']']) := by simp [subscript]
  have hsqueeze : Text.squeeze name.toList = name.toList :=
    List.filter_eq_self.mpr fun c hc => by simp [(h.plain c hc).2]
  have hopened : dropSubscriptsAt 0 ('[' :: (g ++ [']'])) = dropSubscriptsAt 1 g := by
    rw [dropSubscriptsAt, if_pos rfl, dropSubscriptsAt_append, dropSubscriptsAt_singleton, if_neg (by simp),
      List.append_nil]
  rw [toList_lookupName, hchars, dropSubscriptsAt_append,
    dropSubscriptsAt_zero_of_plain fun c => h.not_mem_brackets,
    openBrackets_of_plain fun c => h.not_mem_brackets, hopened, Text.squeeze_append, hsqueeze]
  exact dropQuotes_append (by simpa using h.ne_empty) (fun c => h.isQuote_eq) _

theorem toList_lookupName_of_dotted (h : IsDottedName name) : (lookupName name).toList = name.toList := by
  rw [toList_lookupName_of_plain (fun c => h.not_mem_brackets) fun c => h.isQuote_eq]
  exact List.filter_eq_self.mpr fun c hc => by simp [(h.plain c hc).2]

/-- The arguments leave a name alone just if nothing but blanks and quotation marks is left of them. -/
theorem lookupName_subscript_eq_iff (h : IsDottedName name) :
    lookupName (subscript name g) = lookupName name ↔
      ∀ c ∈ dropSubscriptsAt 1 g, Text.isBlank c = true ∨ isQuote c = true := by
  rw [← String.toList_inj, toList_lookupName_subscript h, toList_lookupName_of_dotted h, List.append_right_eq_self,
    List.rdropWhile_eq_nil_iff]
  constructor
  · intro hquotes c hc
    cases hblank : Text.isBlank c with
    | true => exact .inl rfl
    | false => exact .inr (hquotes c (List.mem_filter.mpr ⟨hc, by simp [hblank]⟩))
  · intro hleft c hc
    obtain ⟨hmem, hblank⟩ := List.mem_filter.mp hc
    exact (hleft c hmem).resolve_left (by simpa using hblank)

/-- Arguments open first if the texts of their strings do. -/
theorem IsArgument.opensFirst (h : IsArgument OpensFirst g) : OpensFirst g := by
  have hquote : ∀ {q : Char}, isQuote q = true → OpensFirst [q] := by
    intro q hq
    refine .of_not_mem fun hmem => ?_
    obtain rfl := List.mem_singleton.mp hmem
    exact absurd hq (by decide)
  induction h with
  | nil => exact .of_not_mem (by simp)
  | @plain c r hc _ _ ih =>
    have hsingle : OpensFirst [c] := by
      refine .of_not_mem fun hmem => hc ?_
      rw [← List.mem_singleton.mp hmem]
      simp
    exact hsingle.append ih
  | group _ _ ihg ihr => exact ihg.group.append ihr
  | string hq _ _ hs _ ih => exact (((hquote hq).append hs).append (hquote hq)).append ih

theorem dropSubscriptsAt_of_opensFirst (h : OpensFirst g) (depth : Nat) : dropSubscriptsAt (depth + 1) g = [] := by
  rw [List.eq_nil_iff_forall_not_mem]
  intro c hc
  obtain ⟨-, a, b, rfl, ha⟩ := mem_dropSubscriptsAt_iff.mp hc
  have hfirst : OpensFirst a := fun p hp => h p (hp.trans (List.prefix_append a _))
  have hcount := hfirst.openBrackets_add_count (depth + 1)
  have hclosed := hfirst a (List.prefix_refl a)
  omega

/-- **Arguments do not matter as long as no string in them closes brackets that it does not open.**  They do matter
in some scope just if there is something else than brackets, blanks and quotation marks in them where all brackets
are closed, those in strings included. -/
theorem reference_of_subscript (hname : IsDottedName name) :
    (∀ g, IsArgument OpensFirst g →
      ∀ scope kind, reference scope (subscript name g) kind = reference scope name kind) ∧
    ∀ g, (∀ scope kind, reference scope (subscript name g) kind = reference scope name kind) ↔
      ∀ a c b, g = a ++ c :: b → openBrackets 1 a = 0 → c ∈ ['[', ']'] ∨ Text.isBlank c = true ∨
        isQuote c = true := by
  refine ⟨fun g hg => ?_, fun g => ?_⟩
  · rw [forall_reference_eq_iff, lookupName_subscript_eq_iff hname, dropSubscriptsAt_of_opensFirst hg.opensFirst 0]
    exact fun c hc => absurd hc List.not_mem_nil
  · rw [forall_reference_eq_iff, lookupName_subscript_eq_iff hname]
    constructor
    · intro hleft a c b hg ha
      by_cases hc : c ∈ ['[', ']']
      · exact .inl hc
      · exact .inr (hleft c (mem_dropSubscriptsAt_iff.mpr ⟨hc, a, b, hg, ha⟩))
    · intro hexposed c hc
      obtain ⟨hbracket, a, b, hg, ha⟩ := mem_dropSubscriptsAt_iff.mp hc
      exact (hexposed a c b hg ha).resolve_left hbracket

theorem reference_of_nested_arguments :
    let g := "x['[]']".toList
    IsDottedName "t.Dict" ∧ IsArgument OpensFirst g ∧
      reference {} (subscript "t.Dict" g) = reference {} "t.Dict" := by
  intro g
  have hname : IsDottedName "t.Dict" := ⟨by decide, by simp [Text.isBlank]⟩
  have hempty : OpensFirst [] := .of_not_mem List.not_mem_nil
  have hpair : OpensFirst ['[', ']'] := hempty.group
  have hstring : IsArgument OpensFirst ('\'' :: ['[', ']'] ++ ['\''] ++ []) :=
    .string (by decide) (by decide) (by decide) hpair .nil
  have harguments : IsArgument OpensFirst g := .plain (by decide) (by decide) (.group hstring .nil)
  obtain ⟨hsame, -⟩ := reference_of_subscript hname
  exact ⟨hname, harguments, hsame g harguments {} .classType⟩

/-- A field whose annotation has a string with a closing bracket in it. -/
def closingStringCode : String :=
  "class A:\n  x: Literal[\"]x\"]\n"

/-- **What follows the closing bracket runs into the name.** -/
theorem exists_argument_in_name :
    let g := "\"]x\"".toList
    let src := Source.ofString closingStringCode
    let root := parse closingStringCode
    IsDottedName "Literal" ∧ IsArgument (fun _ => True) g ∧ subscript "Literal" g = "Literal[\"]x\"]" ∧
      reference {} (subscript "Literal" g) = .stub "" "Literalx" ∧ reference {} "Literal" = .stub "" "Literal" ∧
      ∃ ds, (details src "" root).result = .ok ds ∧ ds.map (fun d => d.members.items.filterMap Member.field?) =
        [[⟨"x", { visibility := .pub }, .stub "" "Literalx"⟩]] := by
  intro g src root
  have harguments : IsArgument (fun _ => True) g :=
    .string (s := [']', 'x']) (r := []) (by decide) (by decide) (by decide) trivial .nil
  have heval : subscript "Literal" g = "Literal[\"]x\"]" ∧
      reference {} (subscript "Literal" g) = .stub "" "Literalx" ∧ reference {} "Literal" = .stub "" "Literal" ∧
      (details src "" root).result.toOption.any (fun ds =>
        ds.map (fun d => d.members.items.filterMap Member.field?) =
          [[⟨"x", { visibility := .pub }, .stub "" "Literalx"⟩]]) := by
    decide +kernel
  obtain ⟨htext, hleak, hname, hfields⟩ := heval
  obtain ⟨ds, hds, hitems⟩ := exists_eq_ok_of_any hfields
  exact ⟨⟨by decide, by simp [Text.isBlank]⟩, harguments, htext, hleak, hname, ds, hds, by simpa using hitems⟩

end Arguments

end SourceOutline.Python
