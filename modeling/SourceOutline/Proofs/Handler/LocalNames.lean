import SourceOutline.Java.Grammar
import SourceOutline.Proofs.Handler.Stubs
import SourceOutline.Proofs.Java.Reference
import SourceOutline.Proofs.Model.TypeTable
import SourceOutline.Proofs.Python.Reference
import SourceOutline.Text.Blank

/-!
# References inside a file

A file that names one of its own types refers to it: the stub has the qualified name under which the
type is emitted, so a table of the types of the file resolves it to the whole declaration.

* `qualifiedName_stubOf`: a declared name is qualified like the declaration it stands for.

Main statement: `Handler.resolve_stubOf_of_declared`.
-/

namespace SourceOutline.Handler

open Declaration

section LookedUp

variable (h : Handler) (m : Mention)

/-- The name that a mention is looked up by. -/
def lookedUp : String :=
  match h with
  | java => m.text
  | python _ => Python.lookupName m.text

/-- A declaration may be meant: in Java, the name is neither primitive nor a type variable. -/
def MayBeDeclared : Prop :=
  match h with
  | java => m.text ∉ Java.primitives ∧ m.text ∉ m.scope.typeVariables
  | python _ => True

instance : Decidable (h.MayBeDeclared m) :=
  match h with
  | java => inferInstanceAs (Decidable (_ ∧ _))
  | python _ => inferInstanceAs (Decidable True)

end LookedUp

/-- No dot, square bracket, quotation mark, bar or blank stands in the name. -/
def PlainName (name : String) : Prop :=
  ∀ c ∈ name.toList, c ∉ ['.', '[', ']', '\'', '"', '|'] ∧ Text.isBlank c = false

instance : DecidablePred PlainName := fun name =>
  List.decidableBAll _ name.toList

variable {h : Handler}

/-- A declared name is qualified like the declaration that it stands for. -/
theorem qualifiedName_stubOf {src : Source} {root : Node} {m : Mention} {full : String}
    (hm : m ∈ h.mentions src root) (hmay : h.MayBeDeclared m)
    (hbracket : ']' ∉ (h.lookedUp m).toList) (hbar : '|' ∉ (h.lookedUp m).toList)
    (hdeclared : (registerAll none [] (h.declarations src root)).get? (h.lookedUp m) = some full) :
    (h.stubOf m).qualifiedName = Dotted.join (h.packageOf src root) full := by
  cases h with
  | java =>
    obtain ⟨hpackage, -, htable⟩ := Java.scope_of_mem_mentions hm
    have hsplit : Java.splitDimensions m.text = (m.text, "") := Java.splitDimensions_of_not_mem hbracket
    have hget : m.scope.declared.get? m.text = some full := by
      rw [htable]
      exact hdeclared
    have hresolve := Java.resolve_of_declared hmay.1 hmay.2 hget
    show (Java.reference m.scope m.text m.kind).qualifiedName = _
    rw [Java.qualifiedName_reference _ (by rw [hsplit]), hsplit, hresolve, hpackage]
    rfl
  | python module =>
    have hscope := Python.scope_of_mem_mentions hm
    have hget : m.scope.declared.get? (Python.lookupName m.text) = some full := by
      rw [hscope]
      exact hdeclared
    show (Python.reference m.scope m.text m.kind).qualifiedName = _
    rw [Python.qualifiedName_reference hbar, Python.resolve_of_declared hget, hscope]
    rfl

/-- **A file refers to its own types**: what is built for the nested name of a type, or for a simple
name that only its declaration bears, is resolved to the whole declaration by a table of the types of
the file. -/
theorem resolve_stubOf_of_declared (h : Handler) (parse : String → Node) (code : String)
    {f : ParsedFile} {table : TypeTable} {m : Mention} {d : TypeDecl}
    (hfile : (h.fileIn parse code).result = .ok f) (htable : TypeTable.ofFiles [f] = .ok table)
    (hplain : ∀ e ∈ entries (h.declarations (.ofString code) (parse code)), PlainName e.1)
    (hm : m ∈ h.mentions (.ofString code) (parse code)) (hmay : h.MayBeDeclared m) (hd : d ∈ f.types)
    (hname : h.lookedUp m = d.name ∨
      bearers (h.declarations (.ofString code) (parse code)) (h.lookedUp m) = [d.name]) :
    h.stubOf m ∈ h.stubs (.ofString code) (parse code) ∧ table.resolve (h.stubOf m) = d := by
  refine ⟨mem_stubs hfile hm, ?_⟩
  -- the declaration behind the type
  have hnames : (d.package.name, d.name) ∈ f.types.map fun t => (t.package.name, t.name) :=
    List.mem_map_of_mem hd
  rw [names_types hfile] at hnames
  obtain ⟨e, he, heq⟩ := List.mem_map.mp hnames
  obtain ⟨hpackage, hnested⟩ := Prod.mk.inj heq
  have hfull : d.name ∈ (entries (h.declarations (.ofString code) (parse code))).map Prod.snd :=
    List.mem_map.mpr ⟨e, he, hnested⟩
  -- simple names are plain, so there are no brackets and bars in nested ones either
  have hsimple : ∀ c ∈ ['.', ']', '|'], ∀ e ∈ entries (h.declarations (.ofString code) (parse code)),
      c ∉ e.1.toList := by
    intro c hc e he hmem
    refine (hplain e he c hmem).1 ?_
    simp only [List.mem_cons, List.not_mem_nil, or_false] at hc ⊢
    tauto
  have hbracket := not_mem_key (by decide) (hsimple ']' (by simp)) hfull hname
  have hbar := not_mem_key (by decide) (hsimple '|' (by simp)) hfull hname
  have hget := get?_registerAll_of_bearers (hsimple '.' (by simp)) hfull hname
  have hstub := qualifiedName_stubOf hm hmay hbracket hbar hget
  refine TypeTable.resolve_of_mem_ofFiles htable (List.mem_singleton_self f) hd ?_
  rw [hstub, hpackage, TypeDecl.qualifiedName]

/-! ## A reference to a later, nested class -/

/-- A class that extends one nested in the next class. -/
def forwardCode : String :=
  "class A extends C \x7b\x7d class B \x7b class C \x7b\x7d \x7d"

/-- What is extracted from `forwardCode`. -/
def forwardFile : ParsedFile where
  types := [⟨⟨""⟩, "A", {}, .classType, [.stub "" "B.C"], []⟩, ⟨⟨""⟩, "B", {}, .classType, [], []⟩,
    ⟨⟨""⟩, "B.C", {}, .classType, [], []⟩]

theorem resolve_forward :
    let src := Source.ofString forwardCode
    let m : Mention := ⟨Java.fileScope src (Java.parse forwardCode), "C", .classType⟩
    ∃ table, TypeTable.ofFiles [forwardFile] = .ok table ∧
      java.stubOf m ∈ java.stubs src (Java.parse forwardCode) ∧
        table.resolve (java.stubOf m) = ⟨⟨""⟩, "B.C", {}, .classType, [], []⟩ := by
  intro src m
  have heval : (java.fileIn Java.parse forwardCode).result.toOption = some forwardFile ∧
      (∀ e ∈ entries (java.declarations src (Java.parse forwardCode)), PlainName e.1) ∧
      m ∈ java.mentions src (Java.parse forwardCode) ∧ java.MayBeDeclared m ∧
      bearers (java.declarations src (Java.parse forwardCode)) (java.lookedUp m) = ["B.C"] := by
    decide +kernel
  obtain ⟨hfile, hplain, hm, hmay, hbearers⟩ := heval
  obtain ⟨table, htable⟩ : ∃ table, TypeTable.ofFiles [forwardFile] = .ok table := ⟨_, rfl⟩
  exact ⟨table, htable, resolve_stubOf_of_declared java Java.parse forwardCode (eq_ok_of_toOption hfile)
    htable hplain hm hmay (by decide +kernel) (Or.inr hbearers)⟩

end SourceOutline.Handler
