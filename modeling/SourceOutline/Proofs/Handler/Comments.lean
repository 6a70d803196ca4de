import SourceOutline.Java.Grammar
import SourceOutline.Proofs.Handler.Answers
import SourceOutline.Proofs.Java.Comments

/-!
# Files with comments

Comments that are put into a tree of Java without errors change none of its imports.  Put into
harmless places they change no types and no members either (`Handler.same_of_commented`).  Before the
type of a super class a comment is taken for that type (`Handler.comment_taken_for_superclass`).
-/

namespace SourceOutline.Handler

open Node

theorem importsIn_of_commented {opens : String → Node → Bool} {src : Source} {root root' : Node}
    (hok : root.hasError = false) (h : Commented opens root root') :
    root'.hasError = false ∧ java.importsIn src root' = java.importsIn src root := by
  have hok' : root'.hasError = false := h.hasError_eq ▸ hok
  have himports : java.treeImports src root' = java.treeImports src root := (Java.imports_of_commented h).symm
  refine ⟨hok', ?_⟩
  rw [importsIn, importsIn, check_of_not_hasError _ _ hok, check_of_not_hasError _ _ hok', himports]

theorem detailsIn_of_commented {src : Source} {root root' : Node} (hok : root.hasError = false)
    (h : Commented Java.harmlessAfter root root') : java.detailsIn src root' = java.detailsIn src root := by
  have hok' : root'.hasError = false := h.hasError_eq ▸ hok
  have hdetails : java.treeDetails src root' = java.treeDetails src root := (Java.details_of_commented h).symm
  rw [detailsIn, detailsIn, check_of_not_hasError _ _ hok, check_of_not_hasError _ _ hok', hdetails]

/-- **Comments and what is extracted**: comments after the first child of any nodes leave a tree without
errors and with the same imports; comments in harmless places leave the same types and members too. -/
theorem same_of_commented (src : Source) (root root' : Node) (hok : root.hasError = false) :
    (∀ opens, Commented opens root root' →
      root'.hasError = false ∧ java.importsIn src root' = java.importsIn src root) ∧
    (Commented Java.harmlessAfter root root' →
      java.typesIn src root' = java.typesIn src root ∧ java.detailsIn src root' = java.detailsIn src root) := by
  refine ⟨fun opens h => importsIn_of_commented hok h, fun h => ?_⟩
  have hdetails : java.detailsIn src root' = java.detailsIn src root := detailsIn_of_commented hok h
  exact ⟨by rw [typesIn, typesIn, hdetails], hdetails⟩

/-! ## A comment before the type of a super class -/

/-- A class with two comments. -/
def commentedCode : String :=
  "class A extends /* c */ B /* d */ \x7b\x7d"

/-- The comment between `extends` and `B`. -/
def innerComment : Node :=
  { kind := "block_comment", start := 16, stop := 23 }

/-- The comment before the body. -/
def outerComment : Node :=
  { kind := "block_comment", start := 26, stop := 33 }

/-- The super class in `commentedCode`, with the given nodes before its type. -/
def extendsNode (before : List Node) : Node where
  kind := "superclass"
  start := 8
  stop := 25
  field := some "superclass"
  children := { kind := "extends", start := 8, stop := 15, named := false } ::
    (before ++ [{ kind := "type_identifier", start := 24, stop := 25 }])

/-- The tree of `commentedCode`, with the given nodes before the type of the super class and after it. -/
def extendingTree (before after : List Node) : Node where
  kind := "program"
  start := 0
  stop := 36
  children := [{
    kind := "class_declaration"
    start := 0
    stop := 36
    children :=
      { kind := "class", start := 0, stop := 5, named := false } ::
      { kind := "identifier", start := 6, stop := 7, field := some "name" } ::
      extendsNode before :: (after ++ [{
        kind := "class_body"
        start := 34
        stop := 36
        field := some "body"
        children := [{ kind := "\x7b", start := 34, stop := 35, named := false },
          { kind := "\x7d", start := 35, stop := 36, named := false }] }]) }]

theorem commented_extendsNode : Commented (fun _ _ => true) (extendsNode []) (extendsNode [innerComment]) :=
  .node (.cons (.refl _ _) (.comment rfl ⟨.inr rfl, rfl, rfl, rfl, rfl, rfl⟩ (.cons (.refl _ _) .nil)))

theorem commented_extendingTree {opens : String → Node → Bool} {before before' : List Node}
    (hopens : ∀ c, opens "class_declaration" c = true)
    (h : Commented opens (extendsNode before) (extendsNode before')) :
    Commented opens (extendingTree before []) (extendingTree before' [outerComment]) := by
  refine .node (.cons (.node (.cons (.refl _ _) (.cons (.refl _ _) (.cons h ?_)))) .nil)
  exact .comment (by simp [Gate.after, hopens]) ⟨.inr rfl, rfl, rfl, rfl, rfl, rfl⟩ (.cons (.refl _ _) .nil)

theorem same_of_outerComment :
    let src := Source.ofString commentedCode
    let bare := extendingTree [] []
    let root := extendingTree [] [outerComment]
    bare.hasError = false ∧ Commented Java.harmlessAfter bare root ∧ root.hasError = false ∧
      java.importsIn src root = java.importsIn src bare ∧ java.typesIn src root = java.typesIn src bare ∧
      java.detailsIn src root = java.detailsIn src bare := by
  intro src bare root
  have hok : bare.hasError = false := by decide +kernel
  have hcommented : Commented Java.harmlessAfter bare root :=
    commented_extendingTree (fun _ => rfl) (.refl _ _)
  obtain ⟨himports, hdetails⟩ := same_of_commented src bare root hok
  exact ⟨hok, hcommented, (himports _ hcommented).1, (himports _ hcommented).2, (hdetails hcommented).1,
    (hdetails hcommented).2⟩

/-- With the other comment the class extends what the comment says, also in the tree that is read from
the code. -/
theorem comment_taken_for_superclass :
    let src := Source.ofString commentedCode
    let bare := extendingTree [] []
    let root := extendingTree [innerComment] [outerComment]
    bare.hasError = false ∧ Commented (fun _ _ => true) bare root ∧
      (java.typesIn src bare).result = .ok [⟨⟨""⟩, "A", {}, .classType, [.stub "" "B"], []⟩] ∧
      (java.typesIn src root).result = .ok [⟨⟨""⟩, "A", {}, .classType, [.stub "" "/*c*/"], []⟩] ∧
      (java.typesIn src (Java.parse commentedCode)).result =
        .ok [⟨⟨""⟩, "A", {}, .classType, [.stub "" "/*c*/"], []⟩] := by
  intro src bare root
  have hcommented : Commented (fun _ _ => true) bare root :=
    commented_extendingTree (fun _ => rfl) commented_extendsNode
  have heval : bare.hasError = false ∧
      (java.typesIn src bare).result.toOption = some [⟨⟨""⟩, "A", {}, .classType, [.stub "" "B"], []⟩] ∧
      (java.typesIn src root).result.toOption = some [⟨⟨""⟩, "A", {}, .classType, [.stub "" "/*c*/"], []⟩] ∧
      (java.typesIn src (Java.parse commentedCode)).result.toOption =
        some [⟨⟨""⟩, "A", {}, .classType, [.stub "" "/*c*/"], []⟩] := by
    decide +kernel
  obtain ⟨hok, hbare, hroot, hparsed⟩ := heval
  exact ⟨hok, hcommented, eq_ok_of_toOption hbare, eq_ok_of_toOption hroot, eq_ok_of_toOption hparsed⟩

end SourceOutline.Handler
