import SourceOutline.Text.Dotted
import SourceOutline.Text.Quoted

/-!
# Type declarations

A class, interface, enum or annotation with its package, modifiers and supertypes. Supertypes are
usually stubs: they carry package, name and kind only.

* `TypeDecl.qualifiedName` puts the package before the name; `TypeDecl.reference` builds a stub
  from such a name.
* Only classes have super classes, and annotations have no interfaces: `violation?` tells what a
  declaration breaks, and `TypeDecl.make` refuses it.
-/

namespace SourceOutline

/-- The package or module of a type; the empty name is the default package. -/
structure Package where
  name : String := ""
  deriving DecidableEq, Repr, Inhabited

/-- Who may use a declared element. -/
inductive Visibility where
  /-- Everyone. -/
  | pub
  /-- The declaring type only. -/
  | priv
  /-- The declaring type and what extends it. -/
  | prot
  /-- No word was given: the package. -/
  | unstated
  deriving DecidableEq, Repr, Inhabited

/-- The word for a visibility. -/
def Visibility.word : Visibility → String
  | .pub => "public"
  | .priv => "private"
  | .prot => "protected"
  | .unstated => "default"

/-- All visibilities. -/
def Visibility.all : List Visibility := [.pub, .priv, .prot, .unstated]

/-- The visibility that a word names. -/
def Visibility.ofWord? (w : String) : Option Visibility :=
  all.find? fun v => v.word = w

theorem Visibility.ofWord?_word (v : Visibility) : ofWord? v.word = some v := by
  cases v <;> decide

/-- The flags of a declared element. -/
structure Modifiers where
  isStatic : Bool := false
  isFinal : Bool := false
  isAbstract : Bool := false
  visibility : Visibility := .unstated
  deriving DecidableEq, Repr, Inhabited

/-- The kinds of type declarations. -/
inductive TypeKind where
  | classType
  | interfaceType
  | enumType
  | annotationType
  deriving DecidableEq, Repr, Inhabited

/-- The word for a kind. -/
def TypeKind.word : TypeKind → String
  | .classType => "class"
  | .interfaceType => "interface"
  | .enumType => "enum"
  | .annotationType => "annotation"

/-- All kinds. -/
def TypeKind.all : List TypeKind := [.classType, .interfaceType, .enumType, .annotationType]

/-- The kind that a word names. -/
def TypeKind.ofWord? (w : String) : Option TypeKind :=
  all.find? fun k => k.word = w

theorem TypeKind.ofWord?_word (k : TypeKind) : ofWord? k.word = some k := by
  cases k <;> decide

/-- A declared type, or a stub for one. -/
structure TypeDecl where
  package : Package
  name : String
  modifiers : Modifiers
  kind : TypeKind
  superClasses : List TypeDecl
  interfaces : List TypeDecl
  deriving Inhabited

namespace TypeDecl

/-! ## Equality -/

mutual

/-- Two declarations agree in every part. -/
def same : TypeDecl → TypeDecl → Bool
  | ⟨p, n, m, k, cs, is⟩, ⟨p', n', m', k', cs', is'⟩ =>
    decide (p = p') && decide (n = n') && decide (m = m') && decide (k = k') && sameAll cs cs'
      && sameAll is is'

/-- Two lists of declarations agree item by item. -/
def sameAll : List TypeDecl → List TypeDecl → Bool
  | [], [] => true
  | t :: ts, t' :: ts' => same t t' && sameAll ts ts'
  | _, _ => false

end

mutual

theorem same_iff : ∀ a b : TypeDecl, same a b = true ↔ a = b
  | ⟨p, n, m, k, cs, is⟩, ⟨p', n', m', k', cs', is'⟩ => by
    simp [same, sameAll_iff cs cs', sameAll_iff is is', and_assoc]

theorem sameAll_iff : ∀ a b : List TypeDecl, sameAll a b = true ↔ a = b
  | [], [] => by simp [sameAll]
  | [], _ :: _ => by simp [sameAll]
  | _ :: _, [] => by simp [sameAll]
  | t :: ts, t' :: ts' => by simp [sameAll, same_iff t t', sameAll_iff ts ts']

end

instance : DecidableEq TypeDecl := fun a b => decidable_of_iff _ (same_iff a b)

/-! ## Names and stubs -/

/-- The name with its package in front. -/
def qualifiedName (t : TypeDecl) : String :=
  Dotted.join t.package.name t.name

/-- A type without modifiers and supertypes. -/
def stub (package name : String) (kind : TypeKind := .classType) : TypeDecl :=
  ⟨⟨package⟩, name, {}, kind, [], []⟩

/-- The stub for a dotted name: its last component is the name, the rest the package. -/
def reference (qualified : String) (kind : TypeKind := .classType) : TypeDecl :=
  let p := Dotted.splitLast qualified
  stub p.1 p.2 kind

@[simp] theorem qualifiedName_stub (package name : String) (kind : TypeKind) :
    (stub package name kind).qualifiedName = Dotted.join package name := rfl

/-! ## Kinds and supertypes -/

/-- How a declaration contradicts its kind. -/
inductive Violation where
  /-- Super classes on something other than a class. -/
  | superClasses (kind : TypeKind) (name : String)
  /-- Interfaces on an annotation. -/
  | interfaces (name : String)
  deriving DecidableEq, Repr

/-- The wording of a violation. -/
def Violation.message : Violation → String
  | .superClasses kind name => s!"{kind.word} {Text.quoted name} cannot declare super classes"
  | .interfaces name => s!"annotation {Text.quoted name} cannot declare interfaces"

/-- What the declaration itself breaks; its supertypes are not looked into. -/
def violation? (t : TypeDecl) : Option Violation :=
  if t.superClasses ≠ [] ∧ t.kind ≠ .classType then some (.superClasses t.kind t.name)
  else if t.interfaces ≠ [] ∧ t.kind = .annotationType then some (.interfaces t.name)
  else none

theorem violation?_eq_none_iff {t : TypeDecl} :
    t.violation? = none ↔
      ¬ (t.kind ≠ .classType ∧ t.superClasses ≠ []) ∧
        ¬ (t.kind = .annotationType ∧ t.interfaces ≠ []) := by
  unfold violation?
  rw [and_comm (a := t.kind ≠ .classType), and_comm (a := t.kind = .annotationType)]
  split
  · simp [*]
  · split <;> simp [*]

/-- A declaration that agrees with its kind. -/
def make (t : TypeDecl) : Except Violation TypeDecl :=
  match t.violation? with
  | some v => .error v
  | none => .ok t

theorem violation?_stub (package name : String) (kind : TypeKind) :
    (stub package name kind).violation? = none := by
  simp [violation?, stub]

theorem make_eq_ok_iff {t u : TypeDecl} : make t = .ok u ↔ t.violation? = none ∧ u = t := by
  cases h : t.violation? <;> simp [make, h, eq_comm]

end TypeDecl

end SourceOutline
