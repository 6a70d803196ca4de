import SourceOutline.Proofs.Python.Insertions
import SourceOutline.Proofs.Python.LookupNames
import SourceOutline.Python.Grammar

/-!
# Annotations in quotation marks

An annotation may be put into quotation marks.  The marks are dropped before its name is looked up, so it names the
same type.  The wrappers of a class attribute are looked for earlier, while the marks still stand, and are missed.

* `reference_of_quoted`: the marks do not change what an annotation names.
* `wrapped_iff`, `IsQuoted.not_wrapped`: no wrapper is found behind a mark.
* `Requoted`: the same tree with marks around annotations.
* `method_of_requoted`, `fields_of_requoted`: the members that this changes.

Main statement: `members_of_quoted_annotations`.
-/

namespace SourceOutline.Python

open Node

/-! ## Texts -/

section Texts

/-- The other text is this one in quotation marks; there are none inside. -/
structure IsQuoted (t t' : String) : Prop where
  ne_empty : t ≠ ""
  plain : ∀ c ∈ t.toList, isQuote c = false
  quoted : ∃ q, isQuote q = true ∧ t' = String.ofList (q :: t.toList ++ [q])

/-- The annotation has a wrapper. -/
def Wrapped (t : String) : Prop :=
  Dotted.last (splitSubscript t).1 ∈ ["ClassVar", "Final"]

instance : DecidablePred Wrapped := fun _ =>
  inferInstanceAs (Decidable (_ ∈ _))

variable {t t' : String}

theorem Hint.ofText_of_not_wrapped (h : ¬ Wrapped t) : Hint.ofText t = { type := some t } := by
  simp only [Wrapped, List.mem_cons, List.not_mem_nil, or_false, not_or] at h
  simp [Hint.ofText, h]

/-- A wrapper sets a flag. -/
theorem wrapped_iff : Wrapped t ↔ (Hint.ofText t).isStatic = true ∨ (Hint.ofText t).isFinal = true := by
  constructor
  · intro h
    by_cases hstatic : Dotted.last (splitSubscript t).1 = "ClassVar"
    · exact .inl (by simp [Hint.ofText, hstatic])
    · have hfinal : Dotted.last (splitSubscript t).1 = "Final" := by simpa [Wrapped, hstatic] using h
      exact .inr (by simp [Hint.ofText, hfinal])
  · intro h
    by_contra hnot
    rw [Hint.ofText_of_not_wrapped hnot] at h
    simp at h

theorem ne_of_isQuote {q c : Char} (hq : isQuote q = true) (hc : isQuote c = false) : q ≠ c := by
  rintro rfl
  exact Bool.false_ne_true (hc.symm.trans hq)

theorem not_isBlank_of_isQuote {q : Char} (h : isQuote q = true) : Text.isBlank q = false := by
  rcases (by simpa [isQuote] using h : q = '\'' ∨ q = '"') with rfl | rfl <;> decide

theorem IsQuoted.exists_getLast? (h : IsQuoted t t') : ∃ q, isQuote q = true ∧ t'.toList.getLast? = some q := by
  obtain ⟨q, hq, rfl⟩ := h.quoted
  exact ⟨q, hq, by rw [String.toList_ofList, List.getLast?_concat]⟩

/-- A text that ends with a quotation mark has no arguments at its end. -/
theorem IsQuoted.splitSubscript_eq (h : IsQuoted t t') : splitSubscript t' = (t', none) := by
  obtain ⟨last, hlast, hend⟩ := h.exists_getLast?
  have htrim : Text.trim t'.toList = t'.toList := by
    obtain ⟨q, hq, rfl⟩ := h.quoted
    simp [Text.trim, Text.trimStart, Text.trimEnd, not_isBlank_of_isQuote hq]
  rw [splitSubscript]
  dsimp only
  rw [htrim, hend, if_neg, String.ofList_toList]
  rintro ⟨hclose, -⟩
  exact ne_of_isQuote hlast (by decide) (Option.some.inj hclose)

/-- No wrapper is found in a text that ends with a quotation mark. -/
theorem IsQuoted.not_wrapped (h : IsQuoted t t') : ¬ Wrapped t' := by
  obtain ⟨q, hq, hend⟩ := h.exists_getLast?
  have hlast := Dotted.getLast?_last (ne_of_isQuote hq (by decide)) hend
  have hwords : ∀ word ∈ ["ClassVar", "Final"], word.toList.getLast?.any isQuote = false := by decide
  intro hwrapped
  rw [Wrapped, h.splitSubscript_eq] at hwrapped
  have hword := hwords _ hwrapped
  rw [hlast] at hword
  exact Bool.false_ne_true (hword.symm.trans hq)

theorem IsQuoted.ne_empty' (h : IsQuoted t t') : t' ≠ "" := by
  obtain ⟨q, -, rfl⟩ := h.quoted
  simp [← String.toList_inj]

/-- The marks are dropped again, wherever brackets are open between them. -/
theorem IsQuoted.lookupName_eq (h : IsQuoted t t') : lookupName t' = lookupName t := by
  obtain ⟨q, hq, rfl⟩ := h.quoted
  have hbracket : ∀ c ∈ [q], c ∉ ['[', ']'] := by
    have hplain : ∀ b ∈ ['[', ']'], isQuote b = false := by simp [isQuote]
    intro c hc hmem
    exact ne_of_isQuote hq (hplain c hmem) (List.mem_singleton.mp hc).symm
  have hmark : ∀ c ∈ [q], isQuote c = true := fun c hc => by rw [List.mem_singleton.mp hc, hq]
  have hinside : ∀ c ∈ Text.squeeze (dropSubscriptsAt 0 t.toList), isQuote c = false := by
    intro c hc
    obtain ⟨-, a, b, htext, -⟩ := mem_dropSubscriptsAt_iff.mp (List.mem_of_mem_filter hc)
    exact h.plain c (by simp [htext])
  have hkept : dropSubscriptsAt 0 (q :: t.toList ++ [q]) =
      [q] ++ dropSubscriptsAt 0 t.toList ++ dropSubscriptsAt (openBrackets 0 t.toList) [q] := by
    rw [← List.singleton_append, List.append_assoc, dropSubscriptsAt_append, dropSubscriptsAt_append,
      dropSubscriptsAt_zero_of_plain hbracket, openBrackets_of_plain hbracket, List.append_assoc]
  have hend : ∀ c ∈ Text.squeeze (dropSubscriptsAt (openBrackets 0 t.toList) [q]), isQuote c = true := by
    intro c hc
    obtain ⟨-, a, b, htext, -⟩ := mem_dropSubscriptsAt_iff.mp (List.mem_of_mem_filter hc)
    exact hmark c (by simp [htext])
  have hfront : Text.squeeze [q] = [q] := by simp [Text.squeeze, not_isBlank_of_isQuote hq]
  rw [← String.toList_inj, toList_lookupName, toList_lookupName, String.toList_ofList, hkept, Text.squeeze_append,
    Text.squeeze_append, hfront, dropQuotes_around hmark hinside hend, dropQuotes_of_plain hinside]

theorem reference_of_quoted (h : IsQuoted t t') (scope : Scope) (kind : TypeKind) :
    reference scope t' kind = reference scope t kind :=
  forall_reference_eq_iff.mpr h.lookupName_eq scope kind

theorem annotated_of_quoted (h : IsQuoted t t') (scope : Scope) :
    annotated scope (some t') = annotated scope (some t) := by
  simp [annotated, Option.filter, h.ne_empty, h.ne_empty', reference_of_quoted h]

end Texts

/-! ## Attributes -/

section Attributes

variable {t t' : String}

/-- The field with a type and without wrappers. -/
def typedField (scope : Scope) (name t : String) : FieldDecl where
  name := name
  type := reference scope t
  modifiers := { isFinal := Text.isAllUpper name, visibility := visibilityOf name }

theorem makeField_of_not_wrapped (hne : t ≠ "") (h : ¬ Wrapped t) (scope : Scope) (owner : TypeDecl)
    (name : String) : makeField scope owner name (some t) = typedField scope name t := by
  simp [makeField, Hint.ofText_of_not_wrapped h, hne, Option.filter, typedField]

theorem makeField_of_quoted (h : IsQuoted t t') (scope : Scope) (owner : TypeDecl) (name : String) :
    makeField scope owner name (some t') = typedField scope name t := by
  rw [makeField_of_not_wrapped h.ne_empty' h.not_wrapped, typedField, reference_of_quoted h, typedField]

/-- The marks matter for an attribute just if the annotation has a wrapper. -/
theorem makeField_quoted_iff (h : IsQuoted t t') (scope : Scope) (owner : TypeDecl) :
    (∀ name, makeField scope owner name (some t') = makeField scope owner name (some t)) ↔ ¬ Wrapped t := by
  constructor
  · intro hsame hwrapped
    have hfield := hsame "x"
    have hcapital : Text.isAllUpper "x" = false := by decide
    rw [makeField_of_quoted h] at hfield
    have hmodifiers := congrArg FieldDecl.modifiers hfield
    simp only [typedField, makeField, reduceCtorEq, false_and, and_false, if_false, Option.map_some,
      Option.getD_some, Modifiers.mk.injEq, hcapital, Bool.false_or] at hmodifiers
    rcases wrapped_iff.mp hwrapped with hstatic | hfinal
    · exact absurd (hmodifiers.1.trans hstatic) Bool.false_ne_true
    · exact absurd (hmodifiers.2.1.trans hfinal) Bool.false_ne_true
  · intro hplain name
    rw [makeField_of_quoted h, makeField_of_not_wrapped h.ne_empty hplain]

end Attributes

/-! ## Trees -/

section Trees

/-- The fields that annotations have in other nodes. -/
def hintFields : List (Option String) :=
  [some "type", some "return_type"]

/-- The nodes around annotations, but for typed parameters. -/
def hintHolders : List String :=
  statementHolders ++ ["expression_statement", "assignment", "parameters", "typed_default_parameter"]

/-- The fields that such nodes have in others. -/
def hintHolderFields : List (Option String) :=
  statementFields ++ [some "parameters", some "right"]

/-- The same tree with annotations in quotation marks, over another source. -/
inductive Requoted (src src' : Source) : Node → Node → Prop
  | alike {n n' : Node} : Alike src src' n n' → Requoted src src' n n'
  | hint {start stop start' stop' : Nat} {field : Option String} {named missing flagged : Bool}
    {cs cs' : List Node} :
    field ∈ hintFields → IsQuoted (src.slice start stop) (src'.slice start' stop') →
      Requoted src src' ⟨"type", start, stop, field, named, missing, flagged, cs⟩
        ⟨"type", start', stop', field, named, missing, flagged, cs'⟩
  | parameter {start stop start' stop' : Nat} {named missing flagged : Bool} {target target' : Node}
    {cs cs' : List Node} :
    target.named = true → Alike src src' target target' → List.Forall₂ (Requoted src src') cs cs' →
      Requoted src src' ⟨"typed_parameter", start, stop, none, named, missing, flagged, target :: cs⟩
        ⟨"typed_parameter", start', stop', none, named, missing, flagged, target' :: cs'⟩
  | holder {kind : String} {start stop start' stop' : Nat} {field : Option String} {named missing flagged : Bool}
    {cs cs' : List Node} :
    kind ∈ hintHolders → field ∈ hintHolderFields → List.Forall₂ (Requoted src src') cs cs' →
      Requoted src src' ⟨kind, start, stop, field, named, missing, flagged, cs⟩
        ⟨kind, start', stop', field, named, missing, flagged, cs'⟩

/-- The same annotation, if any, or it is put into quotation marks. -/
inductive SameHint : Option String → Option String → Prop
  | same (hint : Option String) : SameHint hint hint
  | quoted {t t' : String} : IsQuoted t t' → SameHint (some t) (some t')

theorem SameHint.annotated_eq {o o' : Option String} (h : SameHint o o') (scope : Scope) :
    annotated scope o = annotated scope o' := by
  cases h with
  | same => rfl
  | quoted h => exact (annotated_of_quoted h scope).symm

namespace Requoted

variable {src src' : Source} {n n' : Node}

theorem kind_eq (h : Requoted src src' n n') : n'.kind = n.kind := by
  cases h with
  | alike h => exact h.kind_eq
  | hint | parameter | holder => rfl

theorem field_eq (h : Requoted src src' n n') : n'.field = n.field := by
  cases h with
  | alike h => exact h.field_eq
  | hint | parameter | holder => rfl

theorem named_eq (h : Requoted src src' n n') : n'.named = n.named := by
  cases h with
  | alike h => exact h.named_eq
  | hint | parameter | holder => rfl

theorem children (h : Requoted src src' n n') (hkind : n.kind ≠ "type" ∨ n.field ∉ hintFields) :
    List.Forall₂ (Requoted src src') n.children n'.children := by
  cases h with
  | alike h => exact h.children.imp fun _ _ => .alike
  | hint hfield _ => exact absurd hfield (hkind.resolve_left fun hne => hne rfl)
  | parameter _ htarget hcs => exact .cons (.alike htarget) hcs
  | holder _ _ hcs => exact hcs

theorem namedChildren (h : Requoted src src' n n') (hkind : n.kind ≠ "type" ∨ n.field ∉ hintFields) :
    List.Forall₂ (Requoted src src') n.namedChildren n'.namedChildren :=
  filter_rel (h.children hkind) fun _ _ hc => hc.named_eq.symm

theorem alike_of_kind (h : Requoted src src' n n') (hkind : n.kind ∉ "type" :: "typed_parameter" :: hintHolders) :
    Alike src src' n n' := by
  cases h with
  | alike h => exact h
  | hint => exact absurd List.mem_cons_self hkind
  | parameter => exact absurd (List.mem_cons_of_mem _ List.mem_cons_self) hkind
  | holder h => exact absurd (List.mem_cons_of_mem _ (List.mem_cons_of_mem _ h)) hkind

theorem alike_of_field (h : Requoted src src' n n') (hfield : n.field ∉ hintFields ++ hintHolderFields) :
    Alike src src' n n' := by
  cases h with
  | alike h => exact h
  | hint h => exact absurd (List.mem_append_left _ h) hfield
  | parameter => exact absurd (show none ∈ hintFields ++ hintHolderFields by decide) hfield
  | holder _ h => exact absurd (List.mem_append_right _ h) hfield

theorem child?_cases (h : Requoted src src' n n') (hkind : n.kind ≠ "type") (field : String) :
    (n.child? field = none ∧ n'.child? field = none) ∨
      ∃ c c', n.child? field = some c ∧ n'.child? field = some c' ∧ c.field = some field ∧
        Requoted src src' c c' := by
  rcases child?_cases_of_forall₂ (h.children (.inl hkind)) (fun _ _ hc => hc.field_eq) field with
    hnone | ⟨c, c', hc, hc', hcc'⟩
  · exact .inl hnone
  · exact .inr ⟨c, c', hc, hc', by simpa using List.find?_some hc, hcc'⟩

/-- What stands under a field that no annotations stand under is alike. -/
theorem child?_alike (h : Requoted src src' n n') (hkind : n.kind ≠ "type") {field : String}
    (hfield : some field ∉ hintFields ++ hintHolderFields) :
    (n.child? field = none ∧ n'.child? field = none) ∨
      ∃ c c', n.child? field = some c ∧ n'.child? field = some c' ∧ Alike src src' c c' := by
  rcases h.child?_cases hkind field with hnone | ⟨c, c', hc, hc', hcfield, hcc'⟩
  · exact .inl hnone
  · exact .inr ⟨c, c', hc, hc', hcc'.alike_of_field (hcfield ▸ hfield)⟩

theorem fieldText?_eq (h : Requoted src src' n n') (hkind : n.kind ≠ "type") {field : String}
    (hfield : some field ∉ hintFields ++ hintHolderFields) : src.fieldText? n field = src'.fieldText? n' field :=
  Alike.fieldText?_eq_of_cases (h.child?_alike hkind hfield)

theorem sameHint (h : Requoted src src' n n') (hkind : n.kind ≠ "type") {field : String}
    (hfield : some field ∈ hintFields) : SameHint (src.fieldText? n field) (src'.fieldText? n' field) := by
  unfold Source.fieldText?
  rcases h.child?_cases hkind field with ⟨hn, hn'⟩ | ⟨c, c', hn, hn', hcfield, hc⟩
  · rw [hn, hn']
    exact .same none
  · rw [hn, hn', Option.map_some, Option.map_some]
    rw [← hcfield] at hfield
    cases hc with
    | alike hc =>
      rw [hc.text_eq]
      exact .same _
    | hint _ hquoted => exact .quoted hquoted
    | parameter => exact absurd hfield (show none ∉ hintFields by decide)
    | holder _ hholder =>
      have hapart : ∀ f ∈ hintFields, f ∉ hintHolderFields := by decide
      exact absurd hholder (hapart _ hfield)

/-- What a typed parameter names is no annotation. -/
theorem target_cases (h : Requoted src src' n n') (hkind : n.kind = "typed_parameter") :
    (n.namedChildren = [] ∧ n'.namedChildren = []) ∨
      ∃ c c' cs cs', n.namedChildren = c :: cs ∧ n'.namedChildren = c' :: cs' ∧ Alike src src' c c' := by
  cases h with
  | alike h =>
    have hnamed := h.namedChildren
    generalize n.namedChildren = cs, n'.namedChildren = cs' at hnamed ⊢
    cases hnamed with
    | nil => exact .inl ⟨rfl, rfl⟩
    | cons hc _ => exact .inr ⟨_, _, _, _, rfl, rfl, hc⟩
  | hint => exact absurd hkind (show "type" ≠ "typed_parameter" by decide)
  | @parameter _ _ _ _ _ _ _ target target' cs cs' hnamed htarget _ =>
    have hnamed' : target'.named = true := htarget.named_eq.trans hnamed
    exact .inr ⟨target, target', cs.filter Node.named, cs'.filter Node.named, List.filter_cons_of_pos hnamed,
      List.filter_cons_of_pos hnamed', htarget⟩
  | holder hholder =>
    dsimp only at hkind
    rw [hkind] at hholder
    exact absurd hholder (by decide)

end Requoted

end Trees

/-! ## Members -/

section Members

variable {src src' : Source} {scope : Scope} {n n' : Node}

theorem assignedNames_of_requoted {n n' : Node} (h : Requoted src src' n n') :
    assignedNames src n = assignedNames src' n' := by
  rw [assignedNames_eq, assignedNames_eq, h.kind_eq]
  by_cases hassignment : n.kind = "assignment"
  · have hkind : n.kind ≠ "type" := by rw [hassignment]; decide
    rw [if_pos hassignment, if_pos hassignment]
    congr 1
    · rcases h.child?_alike hkind (show some "left" ∉ hintFields ++ hintHolderFields by decide) with
        ⟨hn, hn'⟩ | ⟨c, c', hn, hn', hc⟩
      · rw [hn, hn']
        rfl
      · rw [hn, hn']
        exact targetNames_of_alike hc
    · rcases h.child?_cases hkind "right" with ⟨hn, hn'⟩ | ⟨c, c', hn, hn', -, hc⟩
      · rw [hn, hn']
        rfl
      · have hlt := sizeOf_lt_of_mem_children (mem_of_child? hn)
        rw [hn, hn']
        exact assignedNames_of_requoted hc
  · rw [if_neg hassignment, if_neg hassignment]
termination_by sizeOf n

/-- The same name, and the same annotation up to quotation marks. -/
def SameParameter (p p' : String × Option String) : Prop :=
  p.1 = p'.1 ∧ SameHint p.2 p'.2

theorem parameter_of_requoted (h : Requoted src src' n n') :
    SameOutcome (List.Forall₂ SameParameter) (parameter src n) (parameter src' n') := by
  by_cases halike : n.kind ∈ ["identifier", "list_splat_pattern", "dictionary_splat_pattern", "default_parameter"]
  · have hnot : ∀ kind ∈ ["identifier", "list_splat_pattern", "dictionary_splat_pattern", "default_parameter"],
        kind ∉ "type" :: "typed_parameter" :: hintHolders := by decide
    rw [parameter_of_alike (h.alike_of_kind (hnot _ halike))]
    cases parameter src' n' with
    | error e => exact .error e
    | ok ps => exact .ok (List.forall₂_same.mpr fun p _ => ⟨rfl, .same p.2⟩)
  simp only [List.mem_cons, List.not_mem_nil, or_false, not_or] at halike
  obtain ⟨hname, hlist, hdictionary, hdefault⟩ := halike
  by_cases htyped : n.kind = "typed_parameter"
  · have hhint := h.sameHint (by rw [htyped]; decide) (show some "type" ∈ hintFields by decide)
    have htyped' : n'.kind = "typed_parameter" := h.kind_eq.trans htyped
    rcases h.target_cases htyped with ⟨hn, hn'⟩ | ⟨c, c', cs, cs', hn, hn', hc⟩
    · simp only [parameter, htyped, htyped', hn, hn']
      exact .error ()
    · simp only [parameter, htyped, htyped', hn, hn', hc.kind_eq, hc.text_eq, splatName_of_alike hc]
      exact .ok (.cons ⟨rfl, hhint⟩ .nil)
  by_cases hvalued : n.kind = "typed_default_parameter"
  · have hkind : n.kind ≠ "type" := by rw [hvalued]; decide
    have hhint := h.sameHint hkind (show some "type" ∈ hintFields by decide)
    have hvalued' : n'.kind = "typed_default_parameter" := h.kind_eq.trans hvalued
    have hsame := h.fieldText?_eq hkind (show some "name" ∉ hintFields ++ hintHolderFields by decide)
    simp only [parameter, hvalued, hvalued', hsame]
    cases (src'.fieldText? n' "name").filter (· ≠ "") with
    | none => exact .ok .nil
    | some name => exact .ok (.cons ⟨rfl, hhint⟩ .nil)
  · simp only [parameter, h.kind_eq, hname, hlist, hdictionary, hdefault, htyped, hvalued]
    exact .ok .nil

theorem parameters_of_requoted (h : Requoted src src' n n') (hkind : n.kind ≠ "type") :
    SameOutcome (List.Forall₂ SameParameter) (parameters src (n.child? "parameters"))
      (parameters src' (n'.child? "parameters")) := by
  rcases h.child?_cases hkind "parameters" with ⟨hn, hn'⟩ | ⟨ps, ps', hn, hn', hfield, hps⟩
  · rw [hn, hn']
    exact .ok .nil
  · rw [hn, hn']
    have hplace : ps.field ∉ hintFields := by rw [hfield]; decide
    exact (SameOutcome.mapM (hps.namedChildren (.inr hplace)) fun c _ c' hc => parameter_of_requoted hc).map
      fun _ _ hlists => List.rel_flatten hlists

theorem dropReceiver_rel {ps ps' : List (String × Option String)} (h : List.Forall₂ SameParameter ps ps')
    (decorators : List String) :
    List.Forall₂ SameParameter (dropReceiver decorators ps) (dropReceiver decorators ps') := by
  cases h with
  | nil => exact .nil
  | @cons p p' ps ps' hp hps =>
    obtain ⟨name, hint⟩ := p
    obtain ⟨name', hint'⟩ := p'
    obtain rfl : name = name' := hp.1
    simp only [dropReceiver]
    split
    · exact hps
    · exact .cons hp hps

/-- The marks do not matter for a method. -/
theorem method_of_requoted (h : Requoted src src' n n') (hkind : n.kind ≠ "type") (decorators : List String) :
    method src scope decorators n = method src' scope decorators n' := by
  have hname : fieldText src n "name" = fieldText src' n' "name" := by
    rw [fieldText, fieldText, h.fieldText?_eq hkind (by decide)]
  have hreturn := (h.sameHint hkind (show some "return_type" ∈ hintFields by decide)).annotated_eq scope
  have hparameters := parameters_of_requoted h hkind
  unfold method
  rw [hname, hreturn]
  revert hparameters
  generalize parameters src (n.child? "parameters") = x, parameters src' (n'.child? "parameters") = y
  rintro (e | hps)
  · rfl
  · have hsame := map_eq_of_forall₂ (f := fun p => (⟨p.1, annotated scope p.2⟩ : Parameter))
      (g := fun p => (⟨p.1, annotated scope p.2⟩ : Parameter)) (dropReceiver_rel hps decorators)
      fun p p' hp => by rw [hp.1, hp.2.annotated_eq]
    simp only [bind, Except.bind, hsame]

/-- The annotations that one node of a class body gives to attributes. -/
def hintsIn (src : Source) (n : Node) : List String :=
  if n.kind = "expression_statement" then
    (n.namedChildren.filter (·.kind == "assignment")).filterMap fun e => src.fieldText? e "type"
  else []

/-- The annotations of the attributes of a class. -/
def attributeHints (src : Source) (n : Node) : List String :=
  match n.child? "body" with
  | none => []
  | some body => body.children.flatMap (hintsIn src)

/-- The same member; or an attribute whose annotation, one of these, has a wrapper, and the field without it. -/
inductive SameMember (scope : Scope) (owner : TypeDecl) (hints : List String) : Member → Member → Prop
  | same (m : Member) : SameMember scope owner hints m m
  | wrapper {name t : String} : t ∈ hints → Wrapped t →
      SameMember scope owner hints (.field (makeField scope owner name (some t)))
        (.field (typedField scope name t))

variable {owner : TypeDecl} {hints : List String}

theorem fields_of_requoted (h : Requoted src src' n n') (hkind : n.kind ≠ "type")
    (hhints : ∀ t, src.fieldText? n "type" = some t → t ∈ hints) :
    List.Forall₂ (SameMember scope owner hints) ((fields src scope owner n).map Member.field)
      ((fields src' scope owner n').map Member.field) := by
  rw [fields, fields, assignedNames_of_requoted h, List.map_map, List.map_map, List.forall₂_map_left_iff,
    List.forall₂_map_right_iff, List.forall₂_same]
  intro name _
  have hhint := h.sameHint hkind (show some "type" ∈ hintFields by decide)
  revert hhint hhints
  generalize src.fieldText? n "type" = o, src'.fieldText? n' "type" = o'
  rintro hhints (_ | @⟨t, t', hquoted⟩)
  · exact .same _
  · rw [Function.comp_apply, Function.comp_apply, makeField_of_quoted hquoted]
    by_cases hwrapped : Wrapped t
    · exact .wrapper (hhints t rfl) hwrapped
    · rw [makeField_of_not_wrapped hquoted.ne_empty hwrapped]
      exact .same _

theorem membersOf_of_requoted (h : Requoted src src' n n') (hhints : hintsIn src n ⊆ hints) :
    SameOutcome (List.Forall₂ (SameMember scope owner hints)) (membersOf src scope owner n)
      (membersOf src' scope owner n') := by
  have hmethod :
      ∀ {f f' : Node} (decorators : List String), Requoted src src' f f' → f.kind = "function_definition" →
      SameOutcome (List.Forall₂ (SameMember scope owner hints))
        ((method src scope decorators f).map fun m => [.method m])
        ((method src' scope decorators f').map fun m => [.method m]) := by
    intro f f' decorators hf hfunction
    rw [method_of_requoted hf (by rw [hfunction]; decide)]
    cases method src' scope decorators f' with
    | error e => exact .error e
    | ok m => exact .ok (.cons (.same _) .nil)
  unfold membersOf
  rw [h.kind_eq]
  by_cases hstatement : n.kind = "expression_statement"
  · rw [if_pos hstatement, if_pos hstatement]
    rw [hintsIn, if_pos hstatement] at hhints
    have hassignments := filter_rel (p := fun c => c.kind == "assignment") (q := fun c => c.kind == "assignment")
      (h.namedChildren (.inl (by rw [hstatement]; decide))) fun _ _ hc => by rw [hc.kind_eq]
    refine .ok ((Gains.of_forall₂ (P := fun _ => False) hassignments).forall₂_flatMap (fun _ hx => hx.elim) ?_)
    intro c hmem c' hc
    have hkind : c.kind = "assignment" := by simpa using (List.mem_filter.mp hmem).2
    exact fields_of_requoted hc (by rw [hkind]; decide) fun t ht => hhints (List.mem_filterMap.mpr ⟨c, hmem, ht⟩)
  rw [if_neg hstatement, if_neg hstatement]
  by_cases hfunction : n.kind = "function_definition"
  · rw [if_pos hfunction, if_pos hfunction]
    exact hmethod [] h hfunction
  rw [if_neg hfunction, if_neg hfunction]
  by_cases hdecorated : n.kind = "decorated_definition"
  · have hkind : n.kind ≠ "type" := by rw [hdecorated]; decide
    have hdecorators := filter_rel (p := fun c => c.kind == "decorator") (q := fun c => c.kind == "decorator")
      (h.children (.inl hkind)) fun _ _ hc => by rw [hc.kind_eq]
    have hnames : decoratorNames src n = decoratorNames src' n' :=
      decoratorNames_eq_of_forall₂ hdecorators fun c c' hcc' hc => hcc'.alike_of_kind (by rw [hc]; decide)
    rw [if_pos hdecorated, if_pos hdecorated, hnames]
    rcases h.child?_cases hkind "definition" with ⟨hn, hn'⟩ | ⟨f, f', hn, hn', -, hf⟩
    · rw [hn, hn']
      exact .ok .nil
    · rw [hn, hn']
      by_cases hdefined : f.kind = "function_definition"
      · simpa [Option.filter, hf.kind_eq, hdefined] using hmethod (decoratorNames src' n') hf hdefined
      · simpa [Option.filter, hf.kind_eq, hdefined] using .ok .nil
  · rw [if_neg hdecorated, if_neg hdecorated]
    exact .ok .nil

theorem SameMember.eq {m m' : Member} (h : SameMember scope owner hints m m') (hplain : ∀ t ∈ hints, ¬ Wrapped t) :
    m = m' := by
  cases h with
  | same => rfl
  | wrapper hmem hwrapped => exact absurd hwrapped (hplain _ hmem)

/-- **Quotation marks around annotations change nothing in a class but attributes whose annotation has a
wrapper.** An attribute with its annotation in the marks gets the type of the annotation as a whole and none
of the flags that a wrapper sets, so it is the same attribute just if there is no wrapper. -/
theorem members_of_quoted_annotations (scope : Scope) (type : TypeDecl) (h : Requoted src src' n n')
    (hclass : n.kind = "class_definition") :
    SameOutcome
      (List.Forall₂ (SameMember scope (.stub type.package.name type.name type.kind) (attributeHints src n)))
      (declaredMembers src scope type n) (declaredMembers src' scope type n') ∧
    ((∀ t ∈ attributeHints src n, ¬ Wrapped t) →
      declaredMembers src' scope type n' = declaredMembers src scope type n) ∧
    ∀ t t', IsQuoted t t' →
      (∀ owner name, makeField scope owner name (some t') = typedField scope name t) ∧
      ∀ owner, (∀ name, makeField scope owner name (some t') = makeField scope owner name (some t)) ↔
        ¬ Wrapped t := by
  have hrelated : SameOutcome
      (List.Forall₂ (SameMember scope (.stub type.package.name type.name type.kind) (attributeHints src n)))
      (declaredMembers src scope type n) (declaredMembers src' scope type n') := by
    unfold declaredMembers attributeHints
    rcases h.child?_cases (by rw [hclass]; decide) "body" with ⟨hn, hn'⟩ | ⟨body, body', hn, hn', hfield, hbody⟩
    · rw [hn, hn']
      exact .ok .nil
    · have hplace : body.field ∉ hintFields := by rw [hfield]; decide
      rw [hn, hn']
      exact (SameOutcome.mapM (hbody.children (.inr hplace)) fun c hc c' hcc' =>
        membersOf_of_requoted hcc' fun t ht => List.mem_flatMap.mpr ⟨c, hc, ht⟩).map
          fun _ _ hlists => List.rel_flatten hlists
  refine ⟨hrelated, fun hplain => ?_, fun t t' hquoted =>
    ⟨fun owner name => makeField_of_quoted hquoted scope owner name, makeField_quoted_iff hquoted scope⟩⟩
  revert hrelated
  generalize declaredMembers src scope type n = x, declaredMembers src' scope type n' = y
  rintro (e | hmembers)
  · rfl
  · have hsame := hmembers.imp fun m m' hm => hm.eq hplain
    rw [List.forall₂_eq_eq_eq] at hsame
    rw [hsame]

/-- A class with an attribute. -/
def plainHintCode : String :=
  "class A:\n  x: int\n"

/-- The same with the annotation in quotation marks. -/
def quotedHintCode : String :=
  "class A:\n  x: 'int'\n"

/-- The tree of the class, with so much longer an annotation that is put together like this. -/
def hintTree (longer : Nat) (parts : List Node) : Node where
  kind := "class_definition"
  start := 0
  stop := 17 + longer
  children := [
    { kind := "class", start := 0, stop := 5, named := false },
    { kind := "identifier", start := 6, stop := 7, field := some "name" },
    { kind := ":", start := 7, stop := 8, named := false },
    { kind := "block", start := 11, stop := 17 + longer, field := some "body", children := [
      { kind := "expression_statement", start := 11, stop := 17 + longer, children := [
        { kind := "assignment", start := 11, stop := 17 + longer, children := [
          { kind := "identifier", start := 11, stop := 12, field := some "left" },
          { kind := ":", start := 12, stop := 13, named := false },
          { kind := "type", start := 14, stop := 17 + longer, field := some "type", children := parts }] }] }] }]

theorem declaredMembers_of_quoted_hint :
    let src := Source.ofString plainHintCode
    let src' := Source.ofString quotedHintCode
    let n := hintTree 0 [{ kind := "identifier", start := 14, stop := 17 }]
    let n' := hintTree 2 [{ kind := "string", start := 14, stop := 19 }]
    Requoted src src' n n' ∧ n.kind = "class_definition" ∧ attributeHints src n = ["int"] ∧
      declaredMembers src' {} (.stub "" "A") n' = declaredMembers src {} (.stub "" "A") n ∧
      (declaredMembers src {} (.stub "" "A") n).toOption =
        some [.field ⟨"x", { visibility := .pub }, .stub "builtins" "int"⟩] := by
  intro src src' n n'
  have htexts : ∀ p ∈ [(0, 5), (6, 7), (7, 8), (11, 12), (12, 13)], src.slice p.1 p.2 = src'.slice p.1 p.2 := by
    decide +kernel
  have heval : src.slice 14 17 = "int" ∧ src'.slice 14 19 = "'int'" ∧ attributeHints src n = ["int"] ∧
      (declaredMembers src {} (.stub "" "A") n).toOption =
        some [.field ⟨"x", { visibility := .pub }, .stub "builtins" "int"⟩] := by
    decide +kernel
  obtain ⟨htext, htext', hhints, hmembers⟩ := heval
  have hquoted : IsQuoted (src.slice 14 17) (src'.slice 14 19) := by
    rw [htext, htext']
    exact ⟨by decide, by simp [isQuote], '\'', by decide, by decide⟩
  have hleaf : ∀ {kind : String} {start stop : Nat} {field : Option String} {named : Bool},
      (start, stop) ∈ [(0, 5), (6, 7), (7, 8), (11, 12), (12, 13)] →
        Requoted src src' { kind, start, stop, field, named } { kind, start, stop, field, named } :=
    fun hmem => .alike (.node (htexts _ hmem) .nil)
  have hbody : Requoted src src' n n' :=
    .holder (by decide) (by decide)
      (.cons (hleaf (by decide)) (.cons (hleaf (by decide)) (.cons (hleaf (by decide))
      (.cons (.holder (by decide) (by decide) (.cons (.holder (by decide) (by decide) (.cons
        (.holder (by decide) (by decide) (.cons (hleaf (by decide)) (.cons (hleaf (by decide))
          (.cons (.hint (by decide) hquoted) .nil)))) .nil)) .nil)) .nil))))
  obtain ⟨-, hsame, -⟩ := members_of_quoted_annotations {} (.stub "" "A") hbody rfl
  refine ⟨hbody, rfl, hhints, hsame fun t ht => ?_, hmembers⟩
  rw [hhints, List.mem_singleton] at ht
  rw [ht]
  decide

/-- An attribute of the class itself. -/
def wrapperCode : String :=
  "class A:\n  x: ClassVar[int]\n"

/-- The same with the annotation in quotation marks. -/
def quotedWrapperCode : String :=
  "class A:\n  x: \"ClassVar[int]\"\n"

/-- **In quotation marks, the wrapper is no wrapper any more**: it is taken for the type. -/
theorem exists_quoted_wrapper_missed :
    let src := Source.ofString wrapperCode
    let src' := Source.ofString quotedWrapperCode
    let root := parse wrapperCode
    let root' := parse quotedWrapperCode
    let t := "ClassVar[int]"
    let t' := "\"ClassVar[int]\""
    IsQuoted t t' ∧ (∃ n ∈ root.preorder, n.kind = "assignment" ∧ src.fieldText? n "type" = some t) ∧
      (∃ n ∈ root'.preorder, n.kind = "assignment" ∧ src'.fieldText? n "type" = some t') ∧
      (details src "" root).result.toOption.map (List.map fun d => d.members.items.filterMap Member.field?) =
        some [[⟨"x", { isStatic := true, visibility := .pub }, .stub "builtins" "int"⟩]] ∧
      (details src' "" root').result.toOption.map (List.map fun d => d.members.items.filterMap Member.field?) =
        some [[⟨"x", { visibility := .pub }, .stub "" "ClassVar"⟩]] := by
  intro src src' root root' t t'
  have heval : (∃ n ∈ root.preorder, n.kind = "assignment" ∧ src.fieldText? n "type" = some t) ∧
      (∃ n ∈ root'.preorder, n.kind = "assignment" ∧ src'.fieldText? n "type" = some t') ∧
      (details src "" root).result.toOption.map (List.map fun d => d.members.items.filterMap Member.field?) =
        some [[⟨"x", { isStatic := true, visibility := .pub }, .stub "builtins" "int"⟩]] ∧
      (details src' "" root').result.toOption.map (List.map fun d => d.members.items.filterMap Member.field?) =
        some [[⟨"x", { visibility := .pub }, .stub "" "ClassVar"⟩]] := by
    decide +kernel
  exact ⟨⟨by decide, by simp [t, isQuote], '"', by decide, by decide⟩, heval⟩

end Members

end SourceOutline.Python
