import SourceOutline.Java.Grammar
import SourceOutline.Java.Types
import SourceOutline.Proofs.Java.Reference
import SourceOutline.Proofs.Java.TypeText
import SourceOutline.Proofs.Outcome
import SourceOutline.Proofs.Syntax.BadNodes

/-!
# Array dimensions in Java

Brackets may stand after a type or after the name that is declared with it.  After a type they lose all blanks,
together with the type; after a name they lose their spaces only.  So both places mean the same as long as the
brackets hold no other blanks, and a tab or a line break between them ends up in the name of the type.

* `reference_append_brackets`: brackets at the end of a name stand after what the name is qualified to.
* `typeText_append`: brackets after a type lose their blanks.
* `suffix_name_reference`: what follows a name from its first bracket on is never looked up.

Main statement: `types_of_moved_dimensions`.
-/

namespace SourceOutline.Java

/-- As many bracket pairs. -/
def brackets (k : Nat) : List Char :=
  (List.replicate k ['[', ']']).flatten

/-- The text of bracket pairs, with blanks inside and between them. -/
structure IsDimensions (k : Nat) (text : String) : Prop where
  squeeze_eq : Text.squeeze text.toList = brackets k
  head : ∀ c, text.toList.head? = some c → Text.isBlank c = false

/-- How many angle brackets are open after a text; a closing one too many does not count. -/
def openAngles (depth : Nat) (cs : List Char) : Nat :=
  cs.foldl (fun d c => if c = '<' then d + 1 else if c = '>' then d - 1 else d) depth

/-! ## References to arrays -/

section Arrays

theorem brackets_succ (k : Nat) : brackets (k + 1) = '[' :: ']' :: brackets k := by
  simp [brackets, List.replicate_succ]

theorem brackets_append (j k : Nat) : brackets j ++ brackets k = brackets (j + k) := by
  rw [brackets, brackets, brackets, ← List.replicate_append_replicate, List.flatten_append]

theorem reverse_brackets (k : Nat) : (brackets k).reverse = (List.replicate k [']', '[']).flatten := by
  simp [brackets, List.reverse_flatten]

theorem mem_brackets {k : Nat} {c : Char} (h : c ∈ brackets k) : c = '[' ∨ c = ']' := by
  obtain ⟨l, hl, hc⟩ := List.mem_flatten.mp h
  rw [(List.mem_replicate.mp hl).2] at hc
  simpa using hc

theorem countDimensions_append (k : Nat) (cs : List Char) :
    countDimensions ((List.replicate k [']', '[']).flatten ++ cs) =
      ((countDimensions cs).1 + k, (countDimensions cs).2) := by
  induction k with
  | zero => simp
  | succ k ih =>
    have hnext := congrArg (fun p => (p.1 + 1, p.2)) ih
    simpa [List.replicate_succ, countDimensions, Nat.add_assoc] using hnext

theorem splitDimensions_append (name : String) (k : Nat) :
    splitDimensions (name ++ String.ofList (brackets k)) =
      ((splitDimensions name).1, (splitDimensions name).2 ++ String.ofList (brackets k)) := by
  have hreverse : (name ++ String.ofList (brackets k)).toList.reverse =
      (List.replicate k [']', '[']).flatten ++ name.toList.reverse := by
    simp [reverse_brackets]
  rw [splitDimensions, splitDimensions, hreverse, countDimensions_append]
  dsimp only
  rw [← String.ofList_append]
  exact congrArg (Prod.mk _) (congrArg String.ofList (brackets_append _ k).symm)

/-- Brackets at the end of a name stand after what the name is qualified to. -/
theorem reference_append_brackets (scope : Scope) (name : String) (k : Nat) (kind : TypeKind) :
    reference scope (name ++ String.ofList (brackets k)) kind =
      arrayOf (reference scope name kind) (String.ofList (brackets k)) := by
  simp only [reference, splitDimensions_append, arrayOf, TypeDecl.stub, String.append_assoc]

end Arrays

/-! ## Brackets after a type -/

section TypeText

theorem dropTypeArgumentsAt_append (depth : Nat) (a b : List Char) :
    dropTypeArgumentsAt depth (a ++ b) =
      dropTypeArgumentsAt depth a ++ dropTypeArgumentsAt (openAngles depth a) b := by
  fun_induction dropTypeArgumentsAt depth a with
  | case1 depth => rfl
  | case2 depth r ih => simpa [dropTypeArgumentsAt, openAngles] using ih
  | case3 depth r hc ih => simpa [dropTypeArgumentsAt, openAngles] using ih
  | case4 c r hc hc' ih => simpa [dropTypeArgumentsAt, openAngles, hc, hc'] using ih
  | case5 depth c r hc hc' hdepth ih => simpa [dropTypeArgumentsAt, openAngles, hc, hc', hdepth] using ih

theorem dropTypeArgumentsAt_of_not_mem {d : List Char} (hopen : '<' ∉ d) (hclose : '>' ∉ d) :
    dropTypeArgumentsAt 0 d = d := by
  induction d with
  | nil => rfl
  | cons c d ih =>
    rw [List.mem_cons, not_or] at hopen hclose
    rw [dropTypeArgumentsAt, if_neg (Ne.symm hopen.1), if_neg (Ne.symm hclose.1), if_pos rfl, ih hopen.2 hclose.2]

theorem openAngles_filter (depth : Nat) (cs : List Char) :
    openAngles depth (cs.filter isAngle) = openAngles depth cs := by
  induction cs generalizing depth with
  | nil => rfl
  | cons c cs ih =>
    by_cases hc : isAngle c = true
    · rw [List.filter_cons_of_pos hc]
      exact ih _
    · have hne := isAngle_eq_false_iff.mp (Bool.eq_false_iff.mpr hc)
      rw [List.filter_cons_of_neg hc, ih]
      simp [openAngles, hne]

/-- None is opened or closed by leaving annotations out. -/
theorem openAngles_dropAnnotations (depth : Nat) (cs : List Char) :
    openAngles depth (dropAnnotations cs) = openAngles depth cs := by
  rw [← openAngles_filter, filter_isAngle_dropAnnotations, openAngles_filter]

variable {k : Nat} {dims : String}

theorem IsDimensions.mem (h : IsDimensions k dims) {c : Char} (hc : c ∈ dims.toList) :
    c = '[' ∨ c = ']' ∨ Text.isBlank c = true := by
  cases hblank : Text.isBlank c with
  | true => exact .inr (.inr rfl)
  | false =>
    have hkept : c ∈ Text.squeeze dims.toList := List.mem_filter.mpr ⟨hc, by simp [hblank]⟩
    rw [h.squeeze_eq] at hkept
    exact (mem_brackets hkept).imp_right .inl

theorem IsDimensions.not_mem (h : IsDimensions k dims) {c : Char} (hne : c ≠ '[' ∧ c ≠ ']')
    (hblank : Text.isBlank c = false) : c ∉ dims.toList := by
  intro hc
  rcases h.mem hc with rfl | rfl | hc
  · exact hne.1 rfl
  · exact hne.2 rfl
  · exact Bool.false_ne_true (hblank.symm.trans hc)

/-- The text begins with a bracket. -/
theorem IsDimensions.head_eq (h : IsDimensions k dims) {c : Char} (hc : dims.toList.head? = some c) : c = '[' := by
  obtain ⟨cs, hcs⟩ := List.head?_eq_some_iff.mp hc
  have hkept := h.squeeze_eq
  rw [hcs, Text.squeeze, List.filter_cons_of_pos (by simp [h.head c hc])] at hkept
  cases k with
  | zero => cases hkept
  | succ k =>
    rw [brackets_succ] at hkept
    exact (List.cons.inj hkept).1

/-- Brackets after a type lose their blanks, if all angle brackets of the type are closed. -/
theorem typeText_append {text : String} (hclosed : openAngles 0 text.toList = 0) (hdims : IsDimensions k dims) :
    typeText (text ++ dims) = typeText text ++ String.ofList (brackets k) := by
  have hhead : ∀ c, dims.toList.head? = some c → isAnnotationChar c = false ∧ Text.isBlank c = false := by
    intro c hc
    rw [hdims.head_eq hc]
    decide
  rw [typeText, typeText, String.toList_append, dropAnnotations_append hhead,
    dropAnnotations_of_not_mem (hdims.not_mem (by decide) (by decide)), dropTypeArguments, dropTypeArguments,
    dropTypeArgumentsAt_append, openAngles_dropAnnotations, hclosed,
    dropTypeArgumentsAt_of_not_mem (hdims.not_mem (by decide) (by decide)) (hdims.not_mem (by decide) (by decide)),
    Text.squeeze_append, hdims.squeeze_eq, String.ofList_append]

end TypeText

/-! ## Brackets after a name -/

section Names

/-- No name that is known has a bracket. -/
def NamesOnly (scope : Scope) : Prop :=
  ∀ key ∈ scope.declared.keys ++ scope.imports.keys, '[' ∉ key.toList

variable {scope : Scope}

/-- What stands at the end of an unknown name, without a dot, stands at the end of the qualified name. -/
theorem suffix_name_resolve {base : String} {d : List Char} (hdeclared : scope.declared.get? base = none)
    (himport : scope.imports.get? base = none) (hdot : '.' ∉ d) (hd : d <:+ base.toList) :
    d <:+ (resolve scope base).2.toList := by
  unfold resolve
  split
  · exact hd
  rw [hdeclared, himport]
  cases hsplit : Dotted.splitFirst base with
  | none =>
    dsimp only
    split <;> exact hd
  | some p =>
    have hbase := Dotted.eq_append_of_splitFirst (a := p.1) (b := p.2) hsplit
    dsimp only
    split
    · rw [hbase, String.toList_append, String.toList_append, List.append_assoc] at hd
      rw [String.toList_append]
      exact List.suffix_append_of_suffix (Dotted.suffix_of_suffix_append_dot hdot hd)
    · rcases Dotted.splitLast_cases base with ⟨-, hlast⟩ | ⟨a, b, hab, -, hlast⟩
      · rw [hlast]
        exact hd
      · rw [hlast]
        rw [hab, String.toList_append, String.toList_append, List.append_assoc] at hd
        exact Dotted.suffix_of_suffix_append_dot hdot hd

/-- What follows a name from its first bracket on is never looked up. -/
theorem suffix_name_reference (hscope : NamesOnly scope) {d : List Char} (hhead : d.head? = some '[')
    (hdot : '.' ∉ d) (name : String) (kind : TypeKind) :
    d <:+ (reference scope (name ++ String.ofList d) kind).name.toList := by
  have hparts := congrArg String.toList (append_splitDimensions (name ++ String.ofList d))
  show d <:+ ((resolve scope _).2 ++ _).toList
  generalize splitDimensions (name ++ String.ofList d) = p at hparts ⊢
  simp only [String.toList_append, String.toList_ofList] at hparts ⊢
  have hwhole : d <:+ p.1.toList ++ p.2.toList := hparts ▸ List.suffix_append name.toList d
  rcases List.suffix_or_suffix_of_suffix hwhole (List.suffix_append p.1.toList p.2.toList) with hd | ⟨e, rfl⟩
  · exact List.suffix_append_of_suffix hd
  -- some of it stands before the pairs at the end
  cases e with
  | nil => exact List.suffix_append _ _
  | cons c e =>
    obtain rfl : c = '[' := by simpa using hhead
    have hbase : '[' :: e <:+ p.1.toList := by
      rw [← List.append_assoc] at hparts
      exact ⟨name.toList, (List.append_cancel_right hparts).symm⟩
    have hmem : '[' ∈ p.1.toList := hbase.subset List.mem_cons_self
    have hdeclared : scope.declared.get? p.1 = none :=
      Table.get?_eq_none_iff.mpr fun hkey => hscope _ (List.mem_append_left _ hkey) hmem
    have himport : scope.imports.get? p.1 = none :=
      Table.get?_eq_none_iff.mpr fun hkey => hscope _ (List.mem_append_right _ hkey) hmem
    obtain ⟨front, hfront⟩ :=
      suffix_name_resolve hdeclared himport (fun h => hdot (List.mem_append_left _ h)) hbase
    exact ⟨front, by rw [← hfront, List.append_assoc]⟩

end Names

/-! ## Brackets on either side -/

section Sides

/-- A declaration with a declarator: its name, the text of its type, and the brackets after the name if there are
any.  Parameters and methods are declarators themselves. -/
structure DeclaredWith (src : Source) (n d : Node) (name text : String) (dims : Option String) : Prop where
  ne_empty : name ≠ ""
  name_eq : src.fieldText? d "name" = some name
  type_eq : src.fieldText? n "type" = some text
  dimensions_eq : src.fieldText? d "dimensions" = dims

/-- The type of what is declared with the text of a type and brackets after the name. -/
def declaredType (scope : Scope) (text : String) (dims : Option String) : TypeDecl :=
  reference scope (typeText text ++ String.ofList ((dims.getD "").toList.filter (· ≠ ' ')))

section Declared

variable {src : Source} {n d : Node} {name text : String} {dims : Option String}

theorem DeclaredWith.exists_type (h : DeclaredWith src n d name text dims) :
    ∃ type, n.child? "type" = some type ∧ src.text type = text :=
  Option.map_eq_some_iff.mp h.type_eq

theorem DeclaredWith.filter_name (h : DeclaredWith src n d name text dims) :
    (src.fieldText? d "name").filter (· ≠ "") = some name := by
  rw [h.name_eq, Option.filter_some, if_pos (by simpa using h.ne_empty)]

theorem DeclaredWith.field_mem (h : DeclaredWith src n d name text dims) (hd : d ∈ n.childrenBy "declarator")
    (scope : Scope) (implied : List String) :
    .field ⟨name, modifiers n implied, declaredType scope text dims⟩ ∈ fields src scope implied n := by
  obtain ⟨type, htype, htext⟩ := h.exists_type
  rw [fields, htype]
  refine List.mem_filterMap.mpr ⟨d, hd, ?_⟩
  simp only [h.filter_name, htext, dimensions, h.dimensions_eq, declaredType]

theorem DeclaredWith.formalParameter?_eq (h : DeclaredWith src n n name text dims) (scope : Scope) :
    formalParameter? src scope n = some ⟨name, declaredType scope text dims⟩ := by
  obtain ⟨type, htype, htext⟩ := h.exists_type
  simp only [formalParameter?, h.filter_name, htype, htext, dimensions, h.dimensions_eq, declaredType]

theorem DeclaredWith.method_eq (h : DeclaredWith src n n name text dims) (scope : Scope) (inInterface : Bool) :
    method src scope inInterface n = .method ⟨name, modifiers n (methodImplied inInterface n),
      declaredType scope text dims, parameters src scope n⟩ := by
  obtain ⟨type, htype, htext⟩ := h.exists_type
  simp only [method, h.name_eq, htype, htext, dimensions, h.dimensions_eq, declaredType, Option.getD_some]

end Declared

variable {k : Nat} {text dims : String}

theorem filter_eq_squeeze {cs : List Char} (h : ∀ c ∈ cs, Text.isBlank c = true → c = ' ') :
    cs.filter (· ≠ ' ') = Text.squeeze cs := by
  refine List.filter_congr fun c hc => ?_
  by_cases hspace : c = ' '
  · subst hspace
    decide
  · have hblank : Text.isBlank c = false := Bool.eq_false_iff.mpr fun hblank => hspace (h c hc hblank)
    simp [hspace, hblank]

theorem squeeze_filter (cs : List Char) : Text.squeeze (cs.filter (· ≠ ' ')) = Text.squeeze cs := by
  rw [Text.squeeze, Text.squeeze, List.filter_filter]
  refine List.filter_congr fun c _ => ?_
  by_cases hspace : c = ' '
  · subst hspace
    decide
  · simp [hspace]

/-- A text that ends another one is squeezed already, if the squeezed text ends it as well. -/
theorem eq_squeeze_of_suffix {cs whole : List Char} (hhead : ∀ c, cs.head? = some c → Text.isBlank c = false)
    (hcs : cs <:+ whole) (hsqueeze : Text.squeeze cs <:+ whole) : cs = Text.squeeze cs := by
  have hlength : (Text.squeeze cs).length ≤ cs.length := List.length_filter_le _ _
  obtain ⟨front, hfront⟩ := List.suffix_of_suffix_length_le hsqueeze hcs hlength
  have hblank : Text.squeeze front = [] := by
    have hall := congrArg Text.squeeze hfront
    rwa [Text.squeeze_append, Text.squeeze_squeeze, List.append_left_eq_self] at hall
  cases front with
  | nil => exact hfront.symm
  | cons c front =>
    have hc : Text.isBlank c = false := hhead c (by rw [← hfront]; rfl)
    rw [Text.squeeze, List.filter_cons_of_pos (by simp [hc])] at hblank
    cases hblank

theorem declaredType_none (hdims : IsDimensions k dims) (hclosed : openAngles 0 text.toList = 0) (scope : Scope) :
    declaredType scope (text ++ dims) none = reference scope (typeText text ++ String.ofList (brackets k)) := by
  rw [declaredType, typeText_append hclosed hdims]
  simp

theorem declaredType_some_eq (hdims : IsDimensions k dims) (hclosed : openAngles 0 text.toList = 0)
    (hspaces : ∀ c ∈ dims.toList, Text.isBlank c = true → c = ' ') (scope : Scope) :
    declaredType scope text (some dims) = declaredType scope (text ++ dims) none := by
  rw [declaredType_none hdims hclosed, declaredType, Option.getD_some, filter_eq_squeeze hspaces, hdims.squeeze_eq]

/-- A blank that is no space stays in the name of the type. -/
theorem spaces_of_declaredType_eq (hdims : IsDimensions k dims) (hclosed : openAngles 0 text.toList = 0)
    {scope : Scope} (hscope : NamesOnly scope)
    (hsame : declaredType scope text (some dims) = declaredType scope (text ++ dims) none) :
    ∀ c ∈ dims.toList, Text.isBlank c = true → c = ' ' := by
  intro c hc hblank
  by_contra hspace
  have hkept : c ∈ dims.toList.filter (· ≠ ' ') := List.mem_filter.mpr ⟨hc, by simpa using hspace⟩
  have hhead : (dims.toList.filter (· ≠ ' ')).head? = some '[' := by
    obtain ⟨x, xs, hxs⟩ := List.exists_cons_of_ne_nil (List.ne_nil_of_mem hc)
    obtain rfl : x = '[' := hdims.head_eq (by rw [hxs]; rfl)
    rw [hxs]
    rfl
  have hdot : '.' ∉ dims.toList.filter (· ≠ ' ') :=
    fun h => hdims.not_mem (c := '.') (by decide) (by decide) (List.mem_filter.mp h).1
  -- the name ends both with what is left of the brackets and with the bare pairs
  have hleft : dims.toList.filter (· ≠ ' ') <:+ (declaredType scope text (some dims)).name.toList :=
    suffix_name_reference hscope hhead hdot (typeText text) .classType
  have hpairs :
      Text.squeeze (dims.toList.filter (· ≠ ' ')) <:+ (declaredType scope text (some dims)).name.toList := by
    rw [hsame, declaredType_none hdims hclosed, reference_append_brackets, squeeze_filter, hdims.squeeze_eq]
    refine ⟨(reference scope (typeText text)).name.toList, ?_⟩
    simp [arrayOf]
  have hsqueezed := eq_squeeze_of_suffix (by rw [hhead]; rintro x ⟨⟩; decide) hleft hpairs
  rw [hsqueezed] at hkept
  exact Bool.false_ne_true ((Text.not_isBlank_of_mem_squeeze hkept).symm.trans hblank)

/-- **Brackets on either side of a name**: fields, parameters and methods have the type that is declared with the
text before the name and the brackets after it.  Brackets mean the same there as after the type if all blanks in
them are spaces, and among names without brackets only then.  Arrays are qualified like their elements. -/
theorem types_of_moved_dimensions (hdims : IsDimensions k dims) (hclosed : openAngles 0 text.toList = 0)
    (scope : Scope) :
    (∀ {src n d name t ds}, DeclaredWith src n d name t ds →
      (d ∈ n.childrenBy "declarator" → ∀ implied,
        .field ⟨name, modifiers n implied, declaredType scope t ds⟩ ∈ fields src scope implied n) ∧
      (d = n →
        formalParameter? src scope n = some ⟨name, declaredType scope t ds⟩ ∧
        ∀ inInterface, method src scope inInterface n = .method ⟨name, modifiers n (methodImplied inInterface n),
          declaredType scope t ds, parameters src scope n⟩)) ∧
    ((∀ c ∈ dims.toList, Text.isBlank c = true → c = ' ') →
      declaredType scope text (some dims) = declaredType scope (text ++ dims) none) ∧
    (NamesOnly scope → declaredType scope text (some dims) = declaredType scope (text ++ dims) none →
      ∀ c ∈ dims.toList, Text.isBlank c = true → c = ' ') ∧
    ∀ name j kind, reference scope (name ++ String.ofList (brackets j)) kind =
      arrayOf (reference scope name kind) (String.ofList (brackets j)) := by
  refine ⟨fun h => ⟨fun hd implied => h.field_mem hd scope implied, ?_⟩,
    fun hspaces => declaredType_some_eq hdims hclosed hspaces scope,
    spaces_of_declaredType_eq hdims hclosed, reference_append_brackets scope⟩
  rintro rfl
  exact ⟨h.formalParameter?_eq scope, h.method_eq scope⟩

/-! ### Blanks between the brackets -/

/-- A field with spaces in its brackets. -/
def spacedCode : String :=
  "class A \x7b int a[ ] []; \x7d"

theorem types_of_spaced_dimensions :
    let src := Source.ofString spacedCode
    let root := parse spacedCode
    IsDimensions 2 "[ ] []" ∧ ∃ n ∈ root.preorder, ∃ d ∈ n.childrenBy "declarator",
      DeclaredWith src n d "a" "int" (some "[ ] []") ∧
      .field ⟨"a", {}, declaredType (fileScope src root) ("int" ++ "[ ] []") none⟩ ∈
        fields src (fileScope src root) [] n := by
  intro src root
  have heval : ∃ n ∈ root.preorder, ∃ d ∈ n.childrenBy "declarator",
      src.fieldText? d "name" = some "a" ∧ src.fieldText? n "type" = some "int" ∧
      src.fieldText? d "dimensions" = some "[ ] []" ∧ modifiers n [] = {} := by
    decide +kernel
  have hdims : IsDimensions 2 "[ ] []" := ⟨by decide, by rintro c ⟨⟩; decide⟩
  obtain ⟨n, hn, d, hd, hname, htype, hbrackets, hmodifiers⟩ := heval
  have hdeclares : DeclaredWith src n d "a" "int" (some "[ ] []") := ⟨by decide, hname, htype, hbrackets⟩
  have hblanks : "[ ] []".toList.filter Text.isBlank = [' ', ' '] := by decide
  have honly : ∀ c ∈ "[ ] []".toList, Text.isBlank c = true → c = ' ' := by
    intro c hc hblank
    have hmem := List.mem_filter.mpr ⟨hc, hblank⟩
    rw [hblanks] at hmem
    simpa using hmem
  obtain ⟨hmembers, hspaces, -⟩ := types_of_moved_dimensions hdims (show openAngles 0 "int".toList = 0 by decide)
    (fileScope src root)
  refine ⟨hdims, n, hn, d, hd, hdeclares, ?_⟩
  rw [← hspaces honly, ← hmodifiers]
  exact (hmembers hdeclares).1 hd []

/-- A field with a tab in its brackets, and the same field with the brackets after the type. -/
def tabbedCodes : String × String :=
  ("class A \x7b int a[\t]; \x7d", "class A \x7b int[\t] a; \x7d")

/-- **The tab stays** between brackets after a name, and is dropped from brackets after a type. -/
theorem exists_tab_kept :
    let src := Source.ofString tabbedCodes.1
    let root := parse tabbedCodes.1
    let src' := Source.ofString tabbedCodes.2
    let root' := parse tabbedCodes.2
    IsDimensions 1 "[\t]" ∧
      (∃ n ∈ root.preorder, ∃ d ∈ n.childrenBy "declarator", DeclaredWith src n d "a" "int" (some "[\t]")) ∧
      (∃ n ∈ root'.preorder, ∃ d ∈ n.childrenBy "declarator",
        DeclaredWith src' n d "a" ("int" ++ "[\t]") none) ∧
      (∃ ds, (details src root).result = .ok ds ∧
        ds.map (·.members.items) = [[.field ⟨"a", {}, .stub "" "int[\t]"⟩]]) ∧
      ∃ ds, (details src' root').result = .ok ds ∧
        ds.map (·.members.items) = [[.field ⟨"a", {}, .stub "" "int[]"⟩]] := by
  intro src root src' root'
  have heval : (∃ n ∈ root.preorder, ∃ d ∈ n.childrenBy "declarator",
        src.fieldText? d "name" = some "a" ∧ src.fieldText? n "type" = some "int" ∧
        src.fieldText? d "dimensions" = some "[\t]") ∧
      (∃ n ∈ root'.preorder, ∃ d ∈ n.childrenBy "declarator",
        src'.fieldText? d "name" = some "a" ∧ src'.fieldText? n "type" = some ("int" ++ "[\t]") ∧
        src'.fieldText? d "dimensions" = none) ∧
      (details src root).result.toOption.any (fun ds =>
        ds.map (·.members.items) = [[.field ⟨"a", {}, .stub "" "int[\t]"⟩]]) ∧
      (details src' root').result.toOption.any (fun ds =>
        ds.map (·.members.items) = [[.field ⟨"a", {}, .stub "" "int[]"⟩]]) := by
    decide +kernel
  obtain ⟨⟨n, hn, d, hd, hname, htype, hdims⟩, ⟨n', hn', d', hd', hname', htype', hdims'⟩, hkept,
    hdropped⟩ := heval
  obtain ⟨ds, hds, hitems⟩ := exists_eq_ok_of_any hkept
  obtain ⟨ds', hds', hitems'⟩ := exists_eq_ok_of_any hdropped
  refine ⟨⟨by decide, by rintro c ⟨⟩; decide⟩, ⟨n, hn, d, hd, by decide, hname, htype, hdims⟩,
    ⟨n', hn', d', hd', by decide, hname', htype', hdims'⟩, ⟨ds, hds, ?_⟩, ds', hds', ?_⟩
  · simpa using hitems
  · simpa using hitems'

end Sides

end SourceOutline.Java
