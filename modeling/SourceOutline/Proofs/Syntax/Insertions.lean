import SourceOutline.Proofs.Syntax.Comments

/-!
# Trees with more import statements

`Grown src src' added n n'` says that `n'`, a tree over `src'`, is the tree `n` over `src` with import statements
put into lists of statements, and signs between statements where these share a line.  The statements stand in
blocks, and blocks in compound statements and definitions; the text of all these changes.  Everything else is
`Alike`: it has the same text, and so has all that is below it.

* `Alike.child?_cases`, `Grown.child?_cases`: what is picked by field name.
* `Grown.alike_of_kind`, `Grown.alike_of_field`: what has no statements in it is alike.
* `Grown.hasError_eq`: what is put in is no error.
-/

namespace SourceOutline.Node

/-- The same tree over another source: the nodes have the same texts. -/
inductive Alike (src src' : Source) : Node → Node → Prop
  | node {kind : String} {start stop start' stop' : Nat} {field : Option String} {named missing flagged : Bool}
    {cs cs' : List Node} :
    src.slice start stop = src'.slice start' stop' → List.Forall₂ (Alike src src') cs cs' →
      Alike src src' ⟨kind, start, stop, field, named, missing, flagged, cs⟩
        ⟨kind, start', stop', field, named, missing, flagged, cs'⟩

/-- An import statement as it stands in a block. -/
structure IsImportStatement (x : Node) : Prop where
  kind : x.kind = "import_statement" ∨ x.kind = "import_from_statement"
  field : x.field = none
  ok : x.hasError = false

/-- The sign between two statements on a line. -/
structure IsSemicolon (x : Node) : Prop where
  kind : x.kind = ";"
  field : x.field = none
  children : x.children = []
  ok : x.hasError = false

/-- What is put in: import statements, and signs between these and the others. -/
def Inserted (added : Node → Prop) (x : Node) : Prop :=
  (IsImportStatement x ∧ added x) ∨ IsSemicolon x

/-- The nodes that statements stand in. -/
def statementHolders : List String :=
  ["module", "block", "class_definition", "function_definition", "decorated_definition", "if_statement",
    "elif_clause", "else_clause", "for_statement", "while_statement", "try_statement", "except_clause",
    "except_group_clause", "finally_clause", "with_statement", "match_statement", "case_clause"]

/-- The fields that such nodes have in others. -/
def statementFields : List (Option String) :=
  [none, some "body", some "definition", some "consequence", some "alternative"]

/-- The same tree with import statements put in, over another source.  Signs among statements are leaves. -/
inductive Grown (src src' : Source) (added : Node → Prop) : Node → Node → Prop
  | alike {n n' : Node} : Alike src src' n n' → Grown src src' added n n'
  | holder {kind : String} {start stop start' stop' : Nat} {field : Option String} {named missing flagged : Bool}
    {cs cs' : List Node} :
    kind ∈ statementHolders → field ∈ statementFields → (∀ c ∈ cs, c.named = false → c.children = []) →
      Gains (Grown src src' added) (Inserted added) cs cs' →
      Grown src src' added ⟨kind, start, stop, field, named, missing, flagged, cs⟩
        ⟨kind, start', stop', field, named, missing, flagged, cs'⟩

/-! ## Lists -/

theorem filter_rel {α β : Type} {R : α → β → Prop} {as : List α} {bs : List β} {p : α → Bool}
    {q : β → Bool} (h : List.Forall₂ R as bs) (hsame : ∀ a b, R a b → p a = q b) :
    List.Forall₂ R (as.filter p) (bs.filter q) :=
  List.rel_filter (fun a b hab => iff_of_eq (congrArg (· = true) (hsame a b hab))) h

/-- Related children with the same field names: what is picked by one. -/
theorem child?_cases_of_forall₂ {R : Node → Node → Prop} {n n' : Node}
    (h : List.Forall₂ R n.children n'.children) (hsame : ∀ c c', R c c' → c'.field = c.field)
    (field : String) :
    (n.child? field = none ∧ n'.child? field = none) ∨
      ∃ c c', n.child? field = some c ∧ n'.child? field = some c' ∧ R c c' := by
  rw [child?, child?, ← List.head?_filter, ← List.head?_filter]
  exact head?_cases_of_forall₂ (filter_rel h fun _ _ hc => by rw [hsame _ _ hc])

/-! ## Trees that are alike -/

namespace Alike

variable {src src' : Source} {n n' : Node}

theorem kind_eq (h : Alike src src' n n') : n'.kind = n.kind := by
  cases h
  rfl

theorem field_eq (h : Alike src src' n n') : n'.field = n.field := by
  cases h
  rfl

theorem named_eq (h : Alike src src' n n') : n'.named = n.named := by
  cases h
  rfl

theorem text_eq (h : Alike src src' n n') : src.text n = src'.text n' := by
  cases h
  assumption

theorem children (h : Alike src src' n n') : List.Forall₂ (Alike src src') n.children n'.children := by
  cases h
  assumption

theorem namedChildren (h : Alike src src' n n') :
    List.Forall₂ (Alike src src') n.namedChildren n'.namedChildren :=
  filter_rel h.children fun _ _ hc => hc.named_eq.symm

theorem childrenBy (h : Alike src src' n n') (field : String) :
    List.Forall₂ (Alike src src') (n.childrenBy field) (n'.childrenBy field) :=
  filter_rel h.children fun _ _ hc => by rw [hc.field_eq]

theorem child?_cases (h : Alike src src' n n') (field : String) :
    (n.child? field = none ∧ n'.child? field = none) ∨
      ∃ c c', n.child? field = some c ∧ n'.child? field = some c' ∧ Alike src src' c c' :=
  child?_cases_of_forall₂ h.children (fun _ _ hc => hc.field_eq) field

/-- What stands under a field has the same text, if it is alike. -/
theorem fieldText?_eq_of_cases {field : String}
    (h : (n.child? field = none ∧ n'.child? field = none) ∨
      ∃ c c', n.child? field = some c ∧ n'.child? field = some c' ∧ Alike src src' c c') :
    src.fieldText? n field = src'.fieldText? n' field := by
  unfold Source.fieldText?
  rcases h with ⟨hn, hn'⟩ | ⟨c, c', hn, hn', hc⟩
  · rw [hn, hn']
    rfl
  · rw [hn, hn', Option.map_some, Option.map_some, hc.text_eq]

theorem fieldText?_eq (h : Alike src src' n n') (field : String) :
    src.fieldText? n field = src'.fieldText? n' field :=
  fieldText?_eq_of_cases (h.child?_cases field)

theorem hasError_eq {n n' : Node} (h : Alike src src' n n') : n.hasError = n'.hasError := by
  match n, n', h with
  | _, _, @node _ _ kind start stop start' stop' field named missing flagged cs cs' _ hcs =>
    rw [hasError, hasError, Commented.anyError_eq_any, Commented.anyError_eq_any]
    congr 1
    have hgains := Gains.of_forall₂ (P := fun _ => False) hcs
    exact hgains.any_eq (fun _ hx => hx.elim) fun c hc c' hcc' => hasError_eq hcc'
termination_by sizeOf n
decreasing_by
  have hlt := List.sizeOf_lt_of_mem hc
  simp only [Node.mk.sizeOf_spec]
  omega

end Alike

/-! ## Trees with insertions -/

namespace Inserted

variable {added : Node → Prop} {x : Node}

theorem kind (h : Inserted added x) :
    x.kind = "import_statement" ∨ x.kind = "import_from_statement" ∨ x.kind = ";" := by
  rcases h with ⟨h, -⟩ | h
  · exact h.kind.imp_right .inl
  · exact .inr (.inr h.kind)

theorem field (h : Inserted added x) : x.field = none :=
  h.elim (·.1.field) (·.field)

theorem ok (h : Inserted added x) : x.hasError = false :=
  h.elim (·.1.ok) (·.ok)

end Inserted

namespace Grown

variable {src src' : Source} {added : Node → Prop} {n n' : Node}

theorem kind_eq (h : Grown src src' added n n') : n'.kind = n.kind := by
  cases h with
  | alike h => exact h.kind_eq
  | holder => rfl

theorem field_eq (h : Grown src src' added n n') : n'.field = n.field := by
  cases h with
  | alike h => exact h.field_eq
  | holder => rfl

theorem named_eq (h : Grown src src' added n n') : n'.named = n.named := by
  cases h with
  | alike h => exact h.named_eq
  | holder => rfl

theorem children (h : Grown src src' added n n') :
    Gains (Grown src src' added) (Inserted added) n.children n'.children := by
  cases h with
  | alike h => exact .of_forall₂ (h.children.imp fun _ _ => .alike)
  | holder _ _ _ h => exact h

theorem alike_of_kind (h : Grown src src' added n n') (hkind : n.kind ∉ statementHolders) :
    Alike src src' n n' := by
  cases h with
  | alike h => exact h
  | holder h => exact absurd h hkind

theorem alike_of_field (h : Grown src src' added n n') (hfield : n.field ∉ statementFields) :
    Alike src src' n n' := by
  cases h with
  | alike h => exact h
  | holder _ h => exact absurd h hfield

theorem filter_children (h : Grown src src' added n n') {p : Node → Bool}
    (hadded : ∀ x, Inserted added x → p x = false) (hsame : ∀ c c', Grown src src' added c c' → p c = p c') :
    List.Forall₂ (Grown src src' added) (n.children.filter p) (n'.children.filter p) :=
  h.children.forall₂_filter hadded hsame

theorem child?_cases (h : Grown src src' added n n') (field : String) :
    (n.child? field = none ∧ n'.child? field = none) ∨
      ∃ c c', n.child? field = some c ∧ n'.child? field = some c' ∧ Grown src src' added c c' := by
  rw [child?, child?, ← List.head?_filter, ← List.head?_filter]
  refine head?_cases_of_forall₂ (h.filter_children (fun x hx => ?_) fun c c' hc => ?_)
  · rw [hx.field]
    rfl
  · rw [hc.field_eq]

/-- What stands under a field that no statements stand under is alike. -/
theorem child?_alike (h : Grown src src' added n n') {field : String} (hfield : some field ∉ statementFields) :
    (n.child? field = none ∧ n'.child? field = none) ∨
      ∃ c c', n.child? field = some c ∧ n'.child? field = some c' ∧ Alike src src' c c' := by
  rcases h.child?_cases field with hnone | ⟨c, c', hc, hc', hcc'⟩
  · exact .inl hnone
  · have hcfield : c.field = some field := by simpa using List.find?_some hc
    exact .inr ⟨c, c', hc, hc', hcc'.alike_of_field (hcfield ▸ hfield)⟩

theorem fieldText?_eq (h : Grown src src' added n n') {field : String} (hfield : some field ∉ statementFields) :
    src.fieldText? n field = src'.fieldText? n' field :=
  Alike.fieldText?_eq_of_cases (h.child?_alike hfield)

/-- What is put in is no error. -/
theorem hasError_eq {n n' : Node} (h : Grown src src' added n n') : n.hasError = n'.hasError := by
  match n, n', h with
  | _, _, .alike h => exact h.hasError_eq
  | _, _, @holder _ _ _ kind start stop start' stop' field named missing flagged cs cs' _ _ _ hcs =>
    rw [hasError, hasError, Commented.anyError_eq_any, Commented.anyError_eq_any]
    congr 1
    exact hcs.any_eq (fun x hx => hx.ok) fun c hc c' hcc' => hasError_eq hcc'
termination_by sizeOf n
decreasing_by
  have hlt := List.sizeOf_lt_of_mem hc
  simp only [Node.mk.sizeOf_spec]
  omega

end Grown

end SourceOutline.Node
