import SourceOutline.Proofs.Python.Insertions
import SourceOutline.Proofs.Python.LookupNames
import SourceOutline.Python.Grammar

/-!
# Blanks in Python bases

A base class may be written with blanks around its dots and brackets.  They are dropped before the class that
the base refers to is looked up.  But the bases that make a class an enum, an interface or abstract, and those
that are no supertypes, are known by the last component as it is written.  So blanks matter just where they
stand in the last component, or next to it, and it is one of these names.

* `reference_of_same_tokens`: blanks do not change what a base refers to.
* `last_eq_iff`: a base is known by a name if it bears the name and has no blanks there.
* `name_reference_of_base`: the name of the stub for a base.

Main statement: `header_of_respaced`.
-/

namespace SourceOutline.Python

open Node

/-! ## Names -/

section Names

/-- The names that a base is known by. -/
def reservedBases : List String :=
  enumBases ++ ["Protocol", "Generic", "object", "ABC"]

/-- The last component of a base, without blanks. -/
def bareName (b : String) : String :=
  String.ofList (Text.squeeze (Dotted.last b).toList)

/-- The name that a base is known by, if any, is written without blanks. -/
def Clear (b : String) : Prop :=
  bareName b ∈ reservedBases → Dotted.last b = bareName b

instance : DecidablePred Clear := fun b =>
  inferInstanceAs (Decidable (bareName b ∈ reservedBases → Dotted.last b = bareName b))

/-- The texts differ in blanks only. -/
def SameTokens (b b' : String) : Prop :=
  Text.squeeze b.toList = Text.squeeze b'.toList

instance (b b' : String) : Decidable (SameTokens b b') :=
  inferInstanceAs (Decidable (_ = _))

variable {b b' : String}

/-- Dots are no blanks, so the last component may be taken first. -/
theorem bareName_eq_last (b : String) : bareName b = Dotted.last (String.ofList (Text.squeeze b.toList)) := by
  rcases Dotted.splitLast_cases b with ⟨hdot, -⟩ | ⟨c, d, rfl, hd, -⟩
  · have hdot' : '.' ∉ Text.squeeze b.toList := fun h => hdot (List.mem_of_mem_filter h)
    rw [bareName, Dotted.last_of_not_mem hdot, Dotted.last_of_not_mem (by rwa [String.toList_ofList])]
  · have hd' : '.' ∉ Text.squeeze d.toList := fun h => hd (List.mem_of_mem_filter h)
    have hsplit : String.ofList (Text.squeeze (c ++ "." ++ d).toList) =
        String.ofList (Text.squeeze c.toList) ++ "." ++ String.ofList (Text.squeeze d.toList) := by
      have hkept : Text.squeeze ".".toList = ".".toList := by decide
      rw [← String.toList_inj]
      simp only [String.toList_append, String.toList_ofList, Text.squeeze_append, hkept]
    rw [bareName, Dotted.last_append_dot hd, hsplit, Dotted.last_append_dot (by rwa [String.toList_ofList])]

theorem SameTokens.bareName_eq (h : SameTokens b b') : bareName b = bareName b' := by
  rw [bareName_eq_last, bareName_eq_last, h]

theorem SameTokens.dropSubscripts (h : SameTokens b b') : SameTokens (dropSubscripts b) (dropSubscripts b') := by
  rw [SameTokens, Python.dropSubscripts, Python.dropSubscripts, String.toList_ofList, String.toList_ofList,
    squeeze_dropSubscriptsAt, squeeze_dropSubscriptsAt, h]

theorem reference_of_same_tokens (h : SameTokens b b') (scope : Scope) (kind : TypeKind) :
    reference scope b kind = reference scope b' kind := by
  have hname : lookupName b = lookupName b' := by
    rw [← String.toList_inj, toList_lookupName, toList_lookupName, squeeze_dropSubscriptsAt,
      squeeze_dropSubscriptsAt, h]
  exact forall_reference_eq_iff.mpr hname scope kind

/-- A base is known by a name just if it bears the name, without blanks. -/
theorem last_eq_iff {name : String} (h : name ∈ reservedBases) :
    Dotted.last b = name ↔ bareName b = name ∧ Clear b := by
  have hnoblank : ∀ name ∈ reservedBases, Text.squeeze name.toList = name.toList := by decide
  constructor
  · intro hlast
    have hbare : bareName b = name := by rw [bareName, hlast, hnoblank name h, String.ofList_toList]
    exact ⟨hbare, fun _ => hlast.trans hbare.symm⟩
  · rintro ⟨rfl, hclear⟩
    exact hclear h

end Names

/-! ## Stubs -/

section Stubs

/-- The text of a base as it is looked up: no brackets, quotation marks or bars. -/
def IsBaseText (b : String) : Prop :=
  ∀ c ∈ b.toList, c ∉ ['[', ']', '\'', '"', '|']

variable {b : String}

theorem lookupName_of_base (h : IsBaseText b) : lookupName b = String.ofList (Text.squeeze b.toList) := by
  have hbracket : ∀ c ∈ b.toList, c ∉ ['[', ']'] := fun c hc hmem => h c hc (by
    simp only [List.mem_cons, List.not_mem_nil, or_false] at hmem ⊢
    exact hmem.imp_right .inl)
  have hquote : ∀ c ∈ b.toList, isQuote c = false := by
    intro c hc
    have hplain := h c hc
    simp only [List.mem_cons, List.not_mem_nil, or_false, not_or] at hplain
    simp [isQuote, hplain]
  rw [← String.toList_inj, toList_lookupName_of_plain hbracket hquote, String.toList_ofList]

/-- The stub for a base bears the name that the base ends with, unless this is bound to another one. -/
theorem name_reference_of_base (h : IsBaseText b) (scope : Scope) (kind : TypeKind) :
    (reference scope b kind).name =
      ((scope.declared.get? (lookupName b)).or ((scope.imports.get? (lookupName b)).map Dotted.last)).getD
        (bareName b) := by
  have hbar : '|' ∉ (lookupName b).toList := by
    rw [lookupName_of_base h, String.toList_ofList]
    intro hmem
    exact h '|' (List.mem_of_mem_filter hmem) (by simp)
  rw [reference_of_not_union hbar, bareName_eq_last, ← lookupName_of_base h, ← name_resolve]
  rfl

end Stubs

/-! ## Classes -/

section Classes

variable {src src' : Source} {n n' : Node}

/-- The kinds of node that bases are. -/
def baseKinds : List String :=
  ["identifier", "attribute", "subscript"]

/-- The same argument of a class, or a base with other blanks between its tokens. -/
def Respaced (src src' : Source) (n n' : Node) : Prop :=
  Alike src src' n n' ∨ n.kind ∈ baseKinds ∧ n'.kind = n.kind ∧ SameTokens (src.text n) (src'.text n')

/-- The same base, known by the same name, if any. -/
structure SameBase (b b' : String) : Prop where
  tokens : SameTokens b b'
  clear : Clear b ↔ Clear b'

theorem Respaced.kind_eq (h : Respaced src src' n n') : n'.kind = n.kind :=
  h.elim (fun halike => halike.kind_eq) fun hbase => hbase.2.1

theorem bases_of_respaced (h : List.Forall₂ (Respaced src src') (classArguments n) (classArguments n')) :
    List.Forall₂ SameTokens (bases src n) (bases src' n') := by
  unfold bases
  rw [List.forall₂_map_left_iff, List.forall₂_map_right_iff]
  refine (filter_rel h fun c c' hc => by rw [hc.kind_eq]).imp fun c c' hc => ?_
  rcases hc with halike | ⟨-, -, htokens⟩
  · rw [halike.text_eq]
    exact rfl
  · exact htokens.dropSubscripts

theorem metaclass?_of_respaced (h : List.Forall₂ (Respaced src src') (classArguments n) (classArguments n')) :
    metaclass? src n = metaclass? src' n' := by
  refine metaclass?_eq_of_forall₂ h (fun _ _ hc => hc.kind_eq) fun c c' hc hkeyword => hc.resolve_right ?_
  rintro ⟨hbase, -⟩
  rw [hkeyword] at hbase
  exact absurd hbase (by decide)

variable {b b' : String} {bs bs' : List String}

theorem SameBase.symm (h : SameBase b b') : SameBase b' b :=
  ⟨h.tokens.symm, h.clear.symm⟩

theorem SameBase.last_mem_imp (h : SameBase b b') {names : List String} (hnames : names ⊆ reservedBases)
    (hmem : Dotted.last b ∈ names) : Dotted.last b' ∈ names := by
  obtain ⟨hbare, hclear⟩ := (last_eq_iff (hnames hmem)).mp rfl
  have hlast : Dotted.last b' = Dotted.last b :=
    (last_eq_iff (hnames hmem)).mpr ⟨h.tokens.bareName_eq.symm.trans hbare, h.clear.mp hclear⟩
  rwa [hlast]

theorem SameBase.last_mem_iff (h : SameBase b b') {names : List String} (hnames : names ⊆ reservedBases) :
    Dotted.last b ∈ names ↔ Dotted.last b' ∈ names :=
  ⟨h.last_mem_imp hnames, h.symm.last_mem_imp hnames⟩

/-- Some of the bases is known by one of these names. -/
theorem any_last_eq (h : List.Forall₂ SameBase bs bs') {names : List String} (hnames : names ⊆ reservedBases) :
    (bs.map Dotted.last).any (· ∈ names) = (bs'.map Dotted.last).any (· ∈ names) := by
  rw [List.any_map, List.any_map]
  refine (Gains.of_forall₂ (P := fun _ => False) h).any_eq (fun _ hx => hx.elim) fun b _ b' hb => ?_
  exact decide_eq_decide.mpr (hb.last_mem_iff hnames)

theorem last_mem_map_iff (h : List.Forall₂ SameBase bs bs') {name : String} (hname : name ∈ reservedBases) :
    name ∈ bs.map Dotted.last ↔ name ∈ bs'.map Dotted.last := by
  have hany := any_last_eq h (List.cons_subset.mpr ⟨hname, List.nil_subset _⟩)
  rw [Bool.eq_iff_iff] at hany
  simpa using hany

theorem kindOf_of_same (h : List.Forall₂ SameBase bs bs') :
    kindOf (bs.map Dotted.last) = kindOf (bs'.map Dotted.last) := by
  unfold kindOf
  rw [any_last_eq h (List.subset_append_left _ _)]
  simp only [last_mem_map_iff h (show "Protocol" ∈ reservedBases by decide)]

/-- The supertypes are the same, whichever of the names keep a base from being one. -/
theorem supertypes_of_same (h : List.Forall₂ SameBase bs bs') {names : List String}
    (hnames : names ⊆ reservedBases) (scope : Scope) (kind : TypeKind) :
    ((bs.filter fun b => Dotted.last b ∉ names).map fun b => reference scope b kind) =
      (bs'.filter fun b => Dotted.last b ∉ names).map fun b => reference scope b kind :=
  map_eq_of_forall₂ (filter_rel h fun _ _ hb => decide_eq_decide.mpr (not_congr (hb.last_mem_iff hnames)))
    fun _ _ hb => reference_of_same_tokens hb.tokens scope kind

/-- **Blanks between the tokens of its bases do not matter for a class**, as long as the same bases are known
by a name: a base is known by a name just if its last component is this name, without blanks in it or next to
it.  The stub for a base bears its last component without blanks, unless the base is bound to something of
another name. -/
theorem header_of_respaced (scope : Scope) (outer : Option String) {d d' : Declaration} (hname : d'.name = d.name)
    (hdecorators : d'.decorators = d.decorators)
    (harguments : List.Forall₂ (Respaced src src') (classArguments d.node) (classArguments d'.node))
    (hclear : List.Forall₂ (fun b b' => Clear b ↔ Clear b') (bases src d.node) (bases src' d'.node)) :
    header src' scope outer d' = header src scope outer d ∧
    (∀ b name, name ∈ reservedBases → (Dotted.last b = name ↔ bareName b = name ∧ Clear b)) ∧
    ∀ b kind, IsBaseText b → (reference scope b kind).name =
      ((scope.declared.get? (lookupName b)).or ((scope.imports.get? (lookupName b)).map Dotted.last)).getD
        (bareName b) := by
  refine ⟨?_, fun b name => last_eq_iff, fun b kind hb => name_reference_of_base hb scope kind⟩
  have hbases : List.Forall₂ SameBase (bases src d.node) (bases src' d'.node) := by
    have htokens := bases_of_respaced harguments
    exact List.forall₂_iff_zip.mpr ⟨htokens.length_eq, fun hmem =>
      ⟨(List.forall₂_iff_zip.mp htokens).2 hmem, (List.forall₂_iff_zip.mp hclear).2 hmem⟩⟩
  have hignored := supertypes_of_same hbases (show ignoredBases ⊆ reservedBases by decide) scope .classType
  have hprotocol := supertypes_of_same hbases (show "Protocol" :: ignoredBases ⊆ reservedBases by decide) scope
    .interfaceType
  have habstract := last_mem_map_iff hbases (show "ABC" ∈ reservedBases by decide)
  simp only [header, hname, hdecorators, kindOf_of_same hbases, metaclass?_of_respaced harguments, habstract,
    hignored, hprotocol]

/-- A class with two bases. -/
def genericBasesCode : String :=
  "class P(typing.Protocol[T], Base[T]): pass\n"

/-- The same with blanks, but not at the last component of a name that a base is known by. -/
def spacedGenericBasesCode : String :=
  "class P(typing .Protocol[ T ], Base [T]): pass\n"

theorem header_of_spaced_bases :
    let src := Source.ofString genericBasesCode
    let src' := Source.ofString spacedGenericBasesCode
    ∃ d ∈ declarations src (parse genericBasesCode), ∃ d' ∈ declarations src' (parse spacedGenericBasesCode),
      List.Forall₂ (Respaced src src') (classArguments d.node) (classArguments d'.node) ∧
      List.Forall₂ (fun b b' => Clear b ↔ Clear b') (bases src d.node) (bases src' d'.node) ∧
      bases src' d'.node = ["typing .Protocol", "Base "] ∧
      header src' {} none d' = header src {} none d ∧ (header src {} none d).kind = .interfaceType ∧
      (header src {} none d).interfaces = [.stub "" "Base" .interfaceType] := by
  intro src src'
  have heval :
      ∃ d ∈ declarations src (parse genericBasesCode), ∃ d' ∈ declarations src' (parse spacedGenericBasesCode),
      d'.name = d.name ∧ d'.decorators = d.decorators ∧
      List.Forall₂ (fun n n' => n.kind ∈ baseKinds ∧ n'.kind = n.kind ∧ SameTokens (src.text n) (src'.text n'))
        (classArguments d.node) (classArguments d'.node) ∧
      List.Forall₂ (fun b b' => Clear b ↔ Clear b') (bases src d.node) (bases src' d'.node) ∧
      bases src' d'.node = ["typing .Protocol", "Base "] ∧ (header src {} none d).kind = .interfaceType ∧
      (header src {} none d).interfaces = [.stub "" "Base" .interfaceType] := by
    decide +kernel
  obtain ⟨d, hd, d', hd', hname, hdecorators, hrespaced, hclear, htexts, hkind, hinterfaces⟩ := heval
  have harguments : List.Forall₂ (Respaced src src') (classArguments d.node) (classArguments d'.node) :=
    hrespaced.imp fun _ _ => .inr
  obtain ⟨hsame, -, -⟩ := header_of_respaced {} none hname hdecorators harguments hclear
  exact ⟨d, hd, d', hd', harguments, hclear, htexts, hsame, hkind, hinterfaces⟩

/-- An interface. -/
def protocolCode : String :=
  "class P(Protocol[T]): pass\n"

/-- The same with a blank before the bracket. -/
def spacedProtocolCode : String :=
  "class P(Protocol [T]): pass\n"

/-- **With a blank before the bracket, the base is no longer known by its name**: it becomes a supertype of
that name. -/
theorem exists_spaced_base_missed :
    let src := Source.ofString protocolCode
    let src' := Source.ofString spacedProtocolCode
    let root := parse protocolCode
    let root' := parse spacedProtocolCode
    SameTokens protocolCode spacedProtocolCode ∧ ¬ Clear "Protocol " ∧
      (details src "" root).result.toOption.map (List.map fun t => (t.type.kind, t.type.superClasses)) =
        some [(.interfaceType, [])] ∧
      (details src' "" root').result.toOption.map (List.map fun t => (t.type.kind, t.type.superClasses)) =
        some [(.classType, [.stub "" "Protocol"])] := by
  intro src src' root root'
  decide +kernel

end Classes

end SourceOutline.Python
