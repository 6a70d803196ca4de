import SourceOutline.Proofs.Java.DocumentOrder
import SourceOutline.Proofs.Java.TypeBodies
import SourceOutline.Proofs.Syntax.Comments

/-!
# Changes to the members of one type

Two trees over one text may differ in the members of one declaration that are no type declarations: fields,
methods, constructors, constants of an enum, elements of an annotation and all that is inside them, also among
the declarations after the constants of an enum.

* `OtherMembersAt p root root'`: the trees differ so, at the declaration at `p`.
* `Matching`, `Twin`: what stands in bodies, and which declarations are reached, in the one tree and in the
  other; all else has the same shell.
* `forall₂_twin`: the declarations of the two files correspond one for one, so names are looked up in the same
  scope (`fileScope_eq`).
* `SameOutside.foundAt_eq`, `SameOutside.sameHeader`: what is found elsewhere is the same, and what is found at
  the declaration has the same header, but for being final if it is an enum.

Main statement: `details_of_otherMembers`.
-/

namespace SourceOutline.Java

open Declaration Node Position

/-! ## Trees that differ in one place -/

/-- The trees differ in the declaration at this position only, and there only in what stands in the body besides
type declarations. -/
inductive OtherMembersAt : Position → Node → Node → Prop
  | here {n body : Node} {cs : List Node} :
    (declaredKind? n).isSome → n.child? "body" = some body → body.kind ∈ typeBodyKinds →
      (bodyMembers (n.setChild (n.fieldIndex "body") { body with children := cs })).filter
        (fun m => (declaredKind? m).isSome) = (bodyMembers n).filter (fun m => (declaredKind? m).isSome) →
      OtherMembersAt [] n (n.setChild (n.fieldIndex "body") { body with children := cs })
  | child {n c c' : Node} {i : Nat} {p : Position} :
    n.children[i]? = some c → OtherMembersAt p c c' → OtherMembersAt (i :: p) n (n.setChild i c')

section Trees

variable {src : Source} {n n' c c' : Node} {p q : Position} {i : Nat}

theorem map_shell_setChild (hc : n.children[i]? = some c) (hshell : shell c = shell c') :
    (n.setChild i c').children.map shell = n.children.map shell := by
  obtain ⟨hi, rfl⟩ := List.getElem?_eq_some_iff.mp hc
  rw [setChild, List.map_set, ← hshell, ← List.getElem_map shell (h := by simpa using hi), List.set_getElem_self]

theorem shell_setChild (hc : n.children[i]? = some c) (hshell : shell c = shell c') :
    shell (n.setChild i c') = shell n := by
  have hbody : IsTypeBody (n.setChild i c') ↔ IsTypeBody n := Iff.rfl
  rw [shell_eq, shell_eq n, map_shell_setChild hc hshell]
  simp only [hbody]
  rfl

theorem isTypeBody_of_body {body : Node} (hbody : n.child? "body" = some body)
    (hkind : body.kind ∈ typeBodyKinds) : IsTypeBody body :=
  ⟨by simpa using List.find?_some hbody, hkind⟩

/-- Outside of bodies of types the trees are the same. -/
theorem OtherMembersAt.shell_eq (h : OtherMembersAt p n n') : shell n = shell n' := by
  induction h with
  | here _ hbody hkind _ =>
    exact (shell_setChild (getElem?_fieldIndex hbody)
      (shell_eq_of_isTypeBody (isTypeBody_of_body hbody hkind)).symm).symm
  | child hc _ ih => exact (shell_setChild hc ih).symm

end Trees

/-! ## What stands in bodies -/

/-- Nodes at the same position of the two trees: on the way to the place where these differ, away from it, or
the body in which they differ. -/
inductive Matching (p : Position) : Position × Node → Position × Node → Prop
  | path {q r : Position} {n n' : Node} : p = q ++ r → OtherMembersAt r n n' → Matching p (q, n) (q, n')
  | off {q : Position} {n : Node} : ¬ q <+: p → Matching p (q, n) (q, n)
  | body {q : Position} {n n' : Node} : IsTypeBody n → shell n = shell n' → Matching p (q, n) (q, n')

section Bodies

variable {src : Source} {n n' : Node} {p : Position} {es es' : List (Position × Node)}

theorem Matching.shell_eq {e e' : Position × Node} (h : Matching p e e') : shell e.2 = shell e'.2 := by
  cases h with
  | path _ h => exact h.shell_eq
  | off _ => rfl
  | body _ h => exact h

theorem matching_under {i : Nat} (h : List.Forall₂ (Matching p) es es') :
    List.Forall₂ (Matching (i :: p)) (under [i] es) (under [i] es') := by
  refine List.forall₂_map_left_iff.mpr (List.forall₂_map_right_iff.mpr (h.imp fun e e' he => ?_))
  cases he with
  | path hp h => exact .path (by rw [hp]; rfl) h
  | off hq => exact .off fun hprefix => hq (List.cons_prefix_cons.mp hprefix).2
  | body hbody hshell => exact .body hbody hshell

theorem matching_under_off {q : Position} (hq : ¬ q <+: p) :
    List.Forall₂ (Matching p) (under q es) (under q es) := by
  refine List.forall₂_map_left_iff.mpr (List.forall₂_map_right_iff.mpr (List.forall₂_same.mpr fun e _ => ?_))
  exact .off fun hprefix => hq ((List.prefix_append q e.1).trans hprefix)

theorem matching_children (h : OtherMembersAt p n n') :
    List.Forall₂ (Matching p) (numbered n.children) (numbered n'.children) := by
  cases h with
  | @here _ body _ _ hbody hkind _ =>
    refine forall₂_numbered_set (fun c hc => ?_) fun j c _ _ => .off (by simp)
    obtain rfl : body = c := Option.some.inj ((getElem?_fieldIndex hbody).symm.trans hc)
    have htype := isTypeBody_of_body hbody hkind
    exact .body htype (shell_eq_of_isTypeBody htype).symm
  | @child _ c _ i q hc h =>
    refine forall₂_numbered_set (fun d hd => ?_) fun j d hj _ => .off (by simp [hj])
    obtain rfl : c = d := Option.some.inj (hc.symm.trans hd)
    exact .path rfl h

/-- What the children of a body stand for matches as well. -/
theorem matching_ungroup {cs cs' : List Node} (h : List.Forall₂ (Matching p) (numbered cs) (numbered cs')) :
    List.Forall₂ (Matching p) (placed ungroup cs) (placed ungroup cs') := by
  rw [placed_eq_flatMap, placed_eq_flatMap]
  have hnumbers := (List.forall₂_and_left _ _).mpr ⟨fun e he => mem_numbered_iff.mp he, h⟩
  refine List.rel_flatMap hnumbers ?_
  rintro ⟨q, c⟩ ⟨q', c'⟩ ⟨⟨i, rfl, -⟩, he⟩
  have hkind : c.kind = c'.kind := kind_eq_of_shell he.shell_eq
  cases he with
  | off hoff => exact matching_under_off hoff
  | path hp hc =>
    subst hp
    refine matching_under ?_
    unfold ungroup
    rw [← hkind]
    split
    · exact matching_children hc
    · exact .cons (.path rfl hc) .nil
  | body hbody hshell =>
    have hgroup : c.kind ≠ "enum_body_declarations" := fun heq => by
      have hmem := hbody.2
      rw [heq] at hmem
      exact absurd hmem (by decide)
    have hsingle : ungroup c = [([], c)] := if_neg hgroup
    have hsingle' : ungroup c' = [([], c')] := if_neg (hkind ▸ hgroup)
    dsimp only
    rw [hsingle, hsingle']
    exact .cons (.body hbody hshell) .nil

/-- Where the trees differ further below, what stands in the bodies matches. -/
theorem matching_placedMembers (hp : p ≠ []) (h : OtherMembersAt p n n') :
    List.Forall₂ (Matching p) (placedMembers n) (placedMembers n') := by
  cases h with
  | here _ _ _ _ => exact absurd rfl hp
  | @child _ c c' i q hc h =>
    have hindex := fieldIndex_setChild hc (field_eq_of_shell h.shell_eq).symm "body"
    unfold placedMembers
    rw [child?_eq_getElem?, child?_eq_getElem?, hindex]
    by_cases hi : n.fieldIndex "body" = i
    · have hc' : (n.setChild i c').children[i]? = some c' := by
        rw [setChild, List.getElem?_set_self (List.getElem?_eq_some_iff.mp hc).1]
      rw [hi, hc, hc']
      exact matching_under (matching_ungroup (matching_children h))
    · rw [setChild, List.getElem?_set_ne (Ne.symm hi)]
      cases n.children[n.fieldIndex "body"]? with
      | none => exact .nil
      | some body => exact matching_under_off (by simp [hi])

theorem shells_bodyMembers (hp : p ≠ []) (h : OtherMembersAt p n n') :
    (bodyMembers n).map shell = (bodyMembers n').map shell := by
  rw [← map_snd_placedMembers, ← map_snd_placedMembers, List.map_map, List.map_map]
  exact map_eq_of_forall₂ (matching_placedMembers hp h) fun _ _ he => he.shell_eq

end Bodies

/-! ## Reached declarations -/

/-- The same declaration but for what stands in bodies of types. -/
structure SameOutside (n n' : Node) : Prop where
  notBody : ¬ IsTypeBody n
  shell_eq : shell n = shell n'

/-- Spots of the two trees that correspond: on the way to the place where these differ, or away from it. -/
structure Twin (p : Position) (s t : Spot Node) : Prop where
  outer : List.Forall₂ SameOutside s.outer t.outer
  item : SameOutside s.item t.item
  place : (s.position = t.position ∧ ∃ q, p = s.position ++ q ∧ OtherMembersAt q s.item t.item) ∨
    (s.item = t.item ∧ ¬ s.position <+: p ∧ ¬ t.position <+: p)

section Spots

variable {src : Source} {n n' root root' : Node} {p : Position} {s t : Spot Node}

theorem SameOutside.of_declares (h : Declares src n) (hshell : shell n = shell n') : SameOutside n n' :=
  ⟨not_isTypeBody_of_declaredKind? h.1, hshell⟩

theorem declares_shell (n : Node) : Declares src (shell n) ↔ Declares src n := by
  by_cases hkind : (declaredKind? n).isSome
  · rw [Declares, Declares, declaredKind?_shell, declaredName?_shell (not_isTypeBody_of_declaredKind? hkind)]
  · simp [Declares, declaredKind?_shell, hkind]

theorem declares_iff_of_shell (h : shell n = shell n') : Declares src n ↔ Declares src n' := by
  rw [← declares_shell, h, declares_shell]

/-- The declarations among matching nodes match. -/
theorem matching_declared {es es' : List (Position × Node)} (h : List.Forall₂ (Matching p) es es') :
    List.Forall₂ (fun e e' => Declares src e.2 ∧ Matching p e e') (declared src es) (declared src es') :=
  (List.forall₂_and_left _ _).mpr ⟨fun _ he => (mem_declared_iff.mp he).2,
    List.rel_filter (fun e e' he => by simpa using declares_iff_of_shell he.shell_eq) h⟩

theorem twin_of_matching {q r : Position} {e e' : Position × Node} {outer outer' : List Node}
    (houter : List.Forall₂ SameOutside outer outer') (h : Declares src e.2 ∧ Matching q e e') :
    Twin (r ++ q) ⟨r ++ e.1, outer, e.2⟩ ⟨r ++ e'.1, outer', e'.2⟩ := by
  obtain ⟨hdeclares, hmatch⟩ := h
  refine ⟨houter, .of_declares hdeclares hmatch.shell_eq, ?_⟩
  cases hmatch with
  | path hp h => exact .inl ⟨rfl, _, by rw [hp, List.append_assoc], h⟩
  | off hq =>
    have hoff := fun hprefix => hq ((List.prefix_append_right_inj r).mp hprefix)
    exact .inr ⟨rfl, hoff, hoff⟩
  | body hbody _ => exact absurd hbody (not_isTypeBody_of_declaredKind? hdeclares.1)

/-- In the declaration where the trees differ the same declarations are nested. -/
theorem nested_eq_of_here (h : OtherMembersAt [] n n') :
    ((nesting src).below n).map Prod.snd = ((nesting src).below n').map Prod.snd := by
  have hnested : ∀ m : Node, ((nesting src).below m).map Prod.snd =
      ((bodyMembers m).filter fun m => (declaredKind? m).isSome).filter fun m => Declares src m := by
    intro m
    rw [← map_snd_placedMembers, List.filter_filter, List.filter_map]
    show List.map _ (List.filter _ _) = _
    congr 1
    refine List.filter_congr fun e _ => ?_
    by_cases hkind : (declaredKind? e.2).isSome <;> simp [Declares, hkind]
  cases h with
  | here _ _ _ hsame => rw [hnested, hnested, hsame]

/-- What is nested in declarations that correspond does so as well. -/
theorem Twin.nested (h : Twin p s t) :
    List.Forall₂
      (fun d e =>
        Twin p ⟨s.position ++ d.1, s.outer ++ [s.item], d.2⟩ ⟨t.position ++ e.1, t.outer ++ [t.item], e.2⟩)
      ((nesting src).below s.item) ((nesting src).below t.item) := by
  obtain ⟨sposition, souter, sitem⟩ := s
  obtain ⟨tposition, touter, titem⟩ := t
  obtain ⟨houter, hitem, hplace⟩ := h
  dsimp only at houter hitem hplace ⊢
  have houter' : List.Forall₂ SameOutside (souter ++ [sitem]) (touter ++ [titem]) :=
    List.rel_append houter (.cons hitem .nil)
  have hdeclares : ∀ {e : Position × Node} {m : Node}, e ∈ (nesting src).below m → Declares src e.2 :=
    fun he => (mem_declared_iff.mp he).2
  rcases hplace with ⟨rfl, q, rfl, hedit⟩ | ⟨rfl, hs, ht⟩
  · by_cases hq : q = []
    · -- here the trees differ: what is nested is the same, perhaps at other positions
      subst hq
      have hsame : List.Forall₂ (fun d e => d.2 = e.2) ((nesting src).below sitem) ((nesting src).below titem) :=
        List.forall₂_map_left_iff.mp (List.forall₂_map_right_iff.mp
          (List.forall₂_eq_eq_eq ▸ nested_eq_of_here hedit))
      have hoff : ∀ {e : Position × Node} {m : Node}, e ∈ (nesting src).below m →
          ¬ sposition ++ e.1 <+: sposition ++ [] := fun he hprefix =>
        (nesting src).ne_nil he (List.prefix_nil.mp ((List.prefix_append_right_inj sposition).mp hprefix))
      refine List.forall₂_iff_zip.mpr ⟨hsame.length_eq, fun {d e} hde => ?_⟩
      obtain ⟨hd, he⟩ := List.of_mem_zip hde
      have hitems : d.2 = e.2 := (List.forall₂_iff_zip.mp hsame).2 hde
      exact ⟨houter', .of_declares (hdeclares hd) (congrArg shell hitems), .inr ⟨hitems, hoff hd, hoff he⟩⟩
    · exact (matching_declared (matching_placedMembers hq hedit)).imp fun _ _ h => twin_of_matching houter' h
  · refine List.forall₂_same.mpr fun e he => ⟨houter', .of_declares (hdeclares he) rfl, .inr ⟨rfl, ?_, ?_⟩⟩
    · exact fun hprefix => hs ((List.prefix_append _ _).trans hprefix)
    · exact fun hprefix => ht ((List.prefix_append _ _).trans hprefix)

/-- **The declarations of the two files correspond one for one.** -/
theorem forall₂_twin (h : OtherMembersAt p root root') :
    List.Forall₂ (Twin p) (spots src root) (spots src root') :=
  Nesting.forall₂_spots ((matching_declared (matching_children h)).imp fun _ _ he =>
    twin_of_matching (r := []) .nil he) fun _ _ hst => hst.nested

end Spots

/-! ## Scopes -/

section Scopes

variable {src : Source} {n n' root root' : Node} {p : Position} {s t : Spot Node}

namespace SameOutside

theorem notBody' (h : SameOutside n n') : ¬ IsTypeBody n' :=
  fun hn' => h.notBody ((isTypeBody_iff_of_shell h.shell_eq).mpr hn')

/-- What is read off the shells is the same. -/
theorem eq_of_shell {α : Type} {f : Node → α} (h : SameOutside n n')
    (hf : ∀ {m : Node}, ¬ IsTypeBody m → f (shell m) = f m) : f n = f n' := by
  rw [← hf h.notBody, h.shell_eq, hf h.notBody']

theorem declaredName_eq (h : SameOutside n n') : declaredName src n = declaredName src n' :=
  h.eq_of_shell fun hm => by rw [declaredName, declaredName, declaredName?_shell hm]

theorem declaredKind?_eq (h : SameOutside n n') : declaredKind? n = declaredKind? n' :=
  h.eq_of_shell fun _ => declaredKind?_shell _

theorem isRecord_eq (h : SameOutside n n') : isRecord n = isRecord n' :=
  h.eq_of_shell fun _ => isRecord_shell _

theorem modifierWords_eq (h : SameOutside n n') : modifierWords n = modifierWords n' :=
  h.eq_of_shell modifierWords_shell

theorem superClasses_eq (h : SameOutside n n') (scope : Scope) :
    superClasses src scope n = superClasses src scope n' :=
  h.eq_of_shell superClasses_shell

theorem interfaces_eq (h : SameOutside n n') (scope : Scope) : interfaces src scope n = interfaces src scope n' :=
  h.eq_of_shell interfaces_shell

theorem inside_eq (h : SameOutside n n') (scope : Scope) : inside src n scope = inside src n' scope :=
  h.eq_of_shell (f := fun m => inside src m scope) fun hm => inside_shell hm scope

/-- Both hand on the same to what is nested in them. -/
theorem into_eq (h : SameOutside n n') (e : Surroundings) :
    e.into src (declarationOf src n) = e.into src (declarationOf src n') := by
  simp only [Surroundings.into, declarationOf, h.declaredKind?_eq, h.inside_eq, h.declaredName_eq]

end SameOutside

theorem foldl_into_eq {path path' : List Node} (h : List.Forall₂ SameOutside path path') (e : Surroundings) :
    (path.map (declarationOf src)).foldl (Surroundings.into src) e =
      (path'.map (declarationOf src)).foldl (Surroundings.into src) e := by
  induction h generalizing e with
  | nil => rfl
  | cons hn _ ih => rw [List.map_cons, List.map_cons, List.foldl_cons, List.foldl_cons, hn.into_eq, ih]

theorem shells_children (h : OtherMembersAt p n n') : n.children.map shell = n'.children.map shell := by
  rw [← map_snd_numbered n.children, ← map_snd_numbered n'.children, List.map_map, List.map_map]
  exact map_eq_of_forall₂ (matching_children h) fun _ _ he => he.shell_eq

/-- The same names are declared. -/
theorem entries_eq_of_otherMembers (h : OtherMembersAt p root root') :
    entries (declarations src root) = entries (declarations src root') := by
  have hentries : ∀ root : Node, entries (declarations src root) = (spots src root).map fun s =>
      (declaredName src s.item,
        ".".intercalate (s.outer.map (declaredName src) ++ [declaredName src s.item])) := by
    intro root
    rw [entries_eq, places_eq, List.map_map]
    refine List.map_congr_left fun s _ => ?_
    rw [Function.comp_apply, outer_surroundings, nest_foldl_within, List.map_map]
    rfl
  rw [hentries, hentries]
  refine map_eq_of_forall₂ (forall₂_twin h) fun s t hst => ?_
  rw [map_eq_of_forall₂ hst.outer fun _ _ hn => hn.declaredName_eq, hst.item.declaredName_eq]

/-- Names are looked up in the same scope. -/
theorem fileScope_eq (h : OtherMembersAt p root root') : fileScope src root = fileScope src root' := by
  rw [fileScope, fileScope, packageName_eq_of_shells (shells_children h), imports_eq_of_shells (shells_children h),
    registerAll_eq_foldl, registerAll_eq_foldl]
  show Scope.mk _ _ ((entries _).foldl enter []) _ = Scope.mk _ _ ((entries _).foldl enter []) _
  rw [entries_eq_of_otherMembers h]

theorem Twin.surroundings_eq (h : OtherMembersAt p root root') (hst : Twin p s t) :
    surroundings src root s = surroundings src root' t := by
  rw [surroundings, surroundings, fileScope_eq h, foldl_into_eq hst.outer]

end Scopes

/-! ## What is found -/

/-- What stays of a type where other members of its declaration are changed: all of it, but for being final if
it is an enum. -/
structure SameHeader (t t' : TypeDecl) : Prop where
  package : t'.package = t.package
  name : t'.name = t.name
  kind : t'.kind = t.kind
  superClasses : t'.superClasses = t.superClasses
  interfaces : t'.interfaces = t.interfaces
  modifiers : t'.modifiers = { t.modifiers with isFinal := t'.modifiers.isFinal }
  isFinal : t.kind ≠ .enumType → t'.modifiers.isFinal = t.modifiers.isFinal

section Found

variable {src : Source} {n n' root root' : Node} {p : Position} {s t : Spot Node} {d d' : TypeDetails}

/-- The words that the modifiers of a declaration amount to, written and implied. -/
def headerWords (e : Surroundings) (n : Node) : List String :=
  modifierWords n ++ typeImplied (e.outer.map Prod.snd) ((declaredKind? n).getD .classType) n

theorem modifiers_headerAt (e : Surroundings) (n : Node) :
    (headerAt src (e, declarationOf src n)).modifiers = modifiersOf (headerWords e n) :=
  rfl

namespace SameOutside

/-- Only being final is implied by what stands in the body, and for an enum only. -/
theorem mem_headerWords_iff (h : SameOutside n n') (e : Surroundings) {w : String}
    (hw : w = "final" → (declaredKind? n).getD .classType ≠ .enumType) :
    w ∈ headerWords e n ↔ w ∈ headerWords e n' := by
  unfold headerWords typeImplied
  rw [← h.declaredKind?_eq, ← h.modifierWords_eq, ← h.isRecord_eq]
  by_cases hfinal : w = "final"
  · simp only [hw hfinal, false_and, or_false]
  · cases e.outer <;> simp [hfinal]

theorem headerWords_eq (h : SameOutside n n') (hbodies : hasConstantBodies n = hasConstantBodies n')
    (e : Surroundings) : headerWords e n = headerWords e n' := by
  unfold headerWords typeImplied
  rw [h.declaredKind?_eq, h.modifierWords_eq, h.isRecord_eq, hbodies]

theorem sameHeader (h : SameOutside n n') (e : Surroundings) :
    SameHeader (headerAt src (e, declarationOf src n)) (headerAt src (e, declarationOf src n')) := by
  have hnever : ∀ {w}, w ≠ "final" → (w ∈ headerWords e n ↔ w ∈ headerWords e n') :=
    fun hw => h.mem_headerWords_iff e fun heq => absurd heq hw
  constructor
  case package => rfl
  case name => exact congrArg (nest (e.outer.map Prod.fst)) h.declaredName_eq.symm
  case kind => exact congrArg (Option.getD · TypeKind.classType) h.declaredKind?_eq.symm
  case superClasses => exact (h.superClasses_eq e.scope).symm
  case interfaces => exact (h.interfaces_eq e.scope).symm
  case modifiers =>
    rw [modifiers_headerAt, modifiers_headerAt]
    unfold modifiersOf
    simp only [hnever (w := "static") (by decide), hnever (w := "abstract") (by decide),
      hnever (w := "private") (by decide), hnever (w := "protected") (by decide),
      hnever (w := "public") (by decide)]
  case isFinal =>
    intro hkind
    rw [modifiers_headerAt, modifiers_headerAt]
    simp only [modifiersOf, h.mem_headerWords_iff e fun _ => hkind]

/-- Where the bodies differ below what stands in them only, the same is found. -/
theorem foundAt_eq (h : SameOutside n n') (hbody : (bodyMembers n).map shell = (bodyMembers n').map shell)
    (e : Surroundings) : foundAt src (e, declarationOf src n) = foundAt src (e, declarationOf src n') := by
  have hwords : headerWords e n = headerWords e n' := h.headerWords_eq (hasConstantBodies_eq_of_shells hbody) e
  have hheader : headerAt src (e, declarationOf src n) = headerAt src (e, declarationOf src n') := by
    show TypeDecl.mk _ (nest _ (declaredName src n)) (modifiersOf (headerWords e n)) ((declaredKind? n).getD _)
      (superClasses src e.scope n) (interfaces src e.scope n) = _
    rw [h.declaredName_eq, hwords, h.declaredKind?_eq, h.superClasses_eq, h.interfaces_eq]
    rfl
  have hmembers :
      ∀ type, members src (inside src n e.scope) type n = members src (inside src n' e.scope) type n' :=
    fun type => by rw [h.inside_eq, members_eq_of_shells h.notBody h.shell_eq hbody]
  rw [foundAt, foundAt, hheader]
  show Except.map (fun type => Found.mk type (members src (inside src n e.scope) type n)) _ = _
  simp only [hmembers]
  rfl

end SameOutside

/-- What is given for declarations that correspond. -/
theorem Twin.given (hedit : OtherMembersAt p root root') (hst : Twin p s t) (hd : FoundAt src root s d)
    (hd' : FoundAt src root' t d') :
    (s.position = p ↔ t.position = p) ∧ (s.position ≠ p → d' = d) ∧
      (s.position = p → SameHeader d.type d'.type) := by
  obtain ⟨f, hf, rfl⟩ := hd
  obtain ⟨f', hf', rfl⟩ := hd'
  rw [hst.surroundings_eq hedit] at hf
  have hheader : SameHeader f.type f'.type := by
    rw [(of_foundAt_eq_ok hf).1, (of_foundAt_eq_ok hf').1]
    exact hst.item.sameHeader _
  have hsame : foundAt src (surroundings src root' t, declarationOf src s.item) =
      foundAt src (surroundings src root' t, declarationOf src t.item) → f' = f := fun heq => by
    rw [heq, hf'] at hf
    exact Except.ok.inj hf
  rcases hst.place with ⟨hposition, q, hp, hbelow⟩ | ⟨hitem, hs, ht⟩
  · refine ⟨by rw [hposition], fun hne => ?_, fun _ => hheader⟩
    have hq : q ≠ [] := by
      rintro rfl
      exact hne (by rw [hp, List.append_nil])
    rw [hsame (hst.item.foundAt_eq (shells_bodyMembers hq hbelow) _)]
  · have hs' : s.position ≠ p := fun h => hs (h ▸ List.prefix_rfl)
    have ht' : t.position ≠ p := fun h => ht (h ▸ List.prefix_rfl)
    refine ⟨by simp [hs', ht'], fun _ => ?_, fun h => absurd h hs'⟩
    rw [hsame (by rw [hitem])]

/-- Lists that are related one for one, each to another list. -/
theorem forall₂_zip {α β γ δ : Type} {R : α → β → Prop} {S : α → γ → Prop} {S' : β → δ → Prop}
    {as : List α} {bs : List β} {cs : List γ} {ds : List δ} (h : List.Forall₂ R as bs)
    (hc : List.Forall₂ S as cs) (hd : List.Forall₂ S' bs ds) :
    List.Forall₂ (fun e e' => R e.1 e'.1 ∧ S e.1 e.2 ∧ S' e'.1 e'.2) (as.zip cs) (bs.zip ds) := by
  induction h generalizing cs ds with
  | nil => exact .nil
  | cons hab _ ih =>
    cases hc with
    | cons hac hc =>
      cases hd with
      | cons hbd hd => exact .cons ⟨hab, hac, hbd⟩ (ih hc hd)

/-- **Members that are no types are local to their declaration.**  Where two error-free trees over one text
differ in such members of one declaration only, as many types are given for both, one for each reached
declaration; those of all other declarations are the same with all their members, and that of this declaration
keeps package, name, kind and supertypes, and its modifiers but for being final if it is an enum. -/
theorem details_of_otherMembers {ds ds' : List TypeDetails} (hedit : OtherMembersAt p root root')
    (hds : (Handler.java.detailsIn src root).result = .ok ds)
    (hds' : (Handler.java.detailsIn src root').result = .ok ds') :
    ds.length = ds'.length ∧
    List.Forall₂ (Describes src root) (spots src root) ds ∧
    List.Forall₂ (Describes src root') (spots src root') ds' ∧
    List.Forall₂ (fun e e' => (e.1.position = p ↔ e'.1.position = p) ∧ (e.1.position ≠ p → e'.2 = e.2) ∧
        (e.1.position = p → SameHeader e.2.type e'.2.type))
      ((spots src root).zip ds) ((spots src root').zip ds') := by
  obtain ⟨-, hdetails⟩ := Handler.of_result_detailsIn_eq_ok hds
  obtain ⟨-, hdetails'⟩ := Handler.of_result_detailsIn_eq_ok hds'
  have hfound := forall₂_foundAt hdetails
  have hfound' := forall₂_foundAt hdetails'
  have htwin : List.Forall₂ (Twin p) (spots src root) (spots src root') := forall₂_twin hedit
  refine ⟨hfound.length_eq.symm.trans (htwin.length_eq.trans hfound'.length_eq), forall₂_describes hdetails,
    forall₂_describes hdetails', ?_⟩
  exact (forall₂_zip htwin hfound hfound').imp fun _ _ ⟨hst, hd, hd'⟩ => hst.given hedit hd hd'

/-! ### An enum with other members -/

/-- An enum with a constant, a nested class and a field, and a class that refers to it. -/
def constantCode : String :=
  "enum E \x7b X \x7b\x7d; class I \x7b\x7d int f; \x7d class B \x7b E g; \x7d"

/-- A token, or a node of which nothing more is read. -/
def leafNode (kind : String) (start stop : Nat) (field : Option String := none) : Node where
  kind := kind
  start := start
  stop := stop
  field := field

/-- A declaration with a name and a body. -/
def declarationNode (kind : String) (start stop : Nat) (name body : Node) : Node where
  kind := kind
  start := start
  stop := stop
  children := [{ name with field := some "name" }, { body with field := some "body" }]

/-- A field with type and name. -/
def fieldNode (start stop : Nat) (type name : Node) : Node where
  kind := "field_declaration"
  start := start
  stop := stop
  children := [{ type with field := some "type" }, {
    kind := "variable_declarator"
    start := name.start
    stop := name.stop
    field := some "declarator"
    children := [{ name with field := some "name" }] }]

/-- The nested class of `constantCode`. -/
def innerNode : Node :=
  declarationNode "class_declaration" 15 25 (leafNode "identifier" 21 22) (leafNode "class_body" 23 25)

/-- The enum of `constantCode`, with this body. -/
def enumNode (members : List Node) : Node :=
  declarationNode "enum_declaration" 0 34 (leafNode "identifier" 5 6)
    { leafNode "enum_body" 7 34 with children := members }

/-- The tree of `constantCode`, with this in the body of the enum. -/
def constantTree (members : List Node) : Node where
  kind := "program"
  start := 0
  stop := 51
  children := [enumNode members, declarationNode "class_declaration" 35 51 (leafNode "identifier" 41 42) {
    kind := "class_body"
    start := 43
    stop := 51
    children := [fieldNode 45 49 (leafNode "type_identifier" 45 46) (leafNode "identifier" 47 48)] }]

/-- Without the body of the constant. -/
def plainMembers : List Node :=
  [{ leafNode "enum_constant" 9 13 with children := [leafNode "identifier" 9 10 (some "name")] },
    { leafNode "enum_body_declarations" 13 32 with
      children := [innerNode, fieldNode 26 32 (leafNode "integral_type" 26 29) (leafNode "identifier" 30 31)] }]

/-- With the body of the constant, without the field, and the nested class on the level of the constant. -/
def otherMembers : List Node :=
  [{ leafNode "enum_constant" 9 13 with
      children := [leafNode "identifier" 9 10 (some "name"), leafNode "class_body" 11 13 (some "body")] },
    innerNode]

theorem enum_with_otherMembers :
    let src := Source.ofString constantCode
    let root := constantTree plainMembers
    let root' := constantTree otherMembers
    OtherMembersAt [0] root root' ∧
    ∃ ds ds', (Handler.java.detailsIn src root).result = .ok ds ∧
      (Handler.java.detailsIn src root').result = .ok ds' ∧
      ds.map (fun d => (d.type.name, d.type.modifiers.isFinal)) = [("E", true), ("E.I", false), ("B", false)] ∧
      ds'.map (fun d => (d.type.name, d.type.modifiers.isFinal)) = [("E", false), ("E.I", false), ("B", false)] ∧
      List.Forall₂ (fun e e' => (e.1.position = [0] ↔ e'.1.position = [0]) ∧
          (e.1.position ≠ [0] → e'.2 = e.2) ∧ (e.1.position = [0] → SameHeader e.2.type e'.2.type))
        ((spots src root).zip ds) ((spots src root').zip ds') := by
  intro src root root'
  have hedit : OtherMembersAt [0] root root' :=
    .child (c := enumNode plainMembers) rfl
      (@OtherMembersAt.here _ { leafNode "enum_body" 7 34 (some "body") with children := plainMembers }
        otherMembers rfl rfl (by decide) rfl)
  have heval : (Handler.java.detailsIn src root).result.toOption.any (fun ds =>
        ds.map (fun d => (d.type.name, d.type.modifiers.isFinal)) = [("E", true), ("E.I", false), ("B", false)]) ∧
      (Handler.java.detailsIn src root').result.toOption.any (fun ds =>
        ds.map (fun d => (d.type.name, d.type.modifiers.isFinal)) =
          [("E", false), ("E.I", false), ("B", false)]) := by
    decide +kernel
  obtain ⟨hgiven, hgiven'⟩ := heval
  obtain ⟨ds, hds, hnames⟩ := exists_eq_ok_of_any hgiven
  obtain ⟨ds', hds', hnames'⟩ := exists_eq_ok_of_any hgiven'
  obtain ⟨-, -, -, hlocal⟩ := details_of_otherMembers hedit hds hds'
  exact ⟨hedit, ds, ds', hds, hds', of_decide_eq_true hnames, of_decide_eq_true hnames', hlocal⟩

end Found

end SourceOutline.Java
