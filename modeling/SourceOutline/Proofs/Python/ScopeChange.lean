import SourceOutline.Proofs.Python.Failures
import SourceOutline.Proofs.Python.Mentions

/-!
# Python classes in another scope

The scope decides what the names in a class stand for, and nothing else.

* `untyped_foundAt`: without the types that are named in it, a class is the same in every scope of its module.
* `sitesAt_inScope`: in another scope the same names are looked up in the same places.
* `Found.eq_of_untyped`: a class is determined by what it is without its types, and its types.
-/

namespace SourceOutline

/-- What stands for a type that is left out. -/
def leftOut : TypeDecl :=
  .stub "" ""

/-- The type without its supertypes, but with as many. -/
def TypeDecl.untyped (t : TypeDecl) : TypeDecl :=
  { t with
    superClasses := t.superClasses.map fun _ => leftOut
    interfaces := t.interfaces.map fun _ => leftOut }

/-- The member without its types. -/
def Member.untyped : Member → Member
  | field f => .field { f with type := leftOut }
  | method m => .method
      { m with returnType := leftOut, parameters := m.parameters.map fun p => ⟨p.name, leftOut⟩ }

/-- The mention in another scope. -/
def Mention.inScope (scope : Scope) (m : Mention) : Mention :=
  { m with scope := scope }

/-- The site in another scope. -/
def Site.inScope (scope : Scope) : Site → Site
  | named m => .named (m.inScope scope)
  | understood t => .understood t

theorem Site.stub_inScope (refer : Mention → TypeDecl) (scope : Scope) (s : Site) :
    (s.inScope scope).stub refer = s.stub fun m => refer (m.inScope scope) := by
  cases s <;> rfl

namespace Python

/-- The class without the types that are named in it. -/
def Found.untyped (f : Found) : TypeDecl × List Member :=
  (f.type.untyped, f.members.map Member.untyped)

/-! ## Types apart from the rest -/

section Parts

theorem length_eq_of_map_const {α β : Type} {b : β} {as as' : List α}
    (h : (as.map fun _ => b) = as'.map fun _ => b) : as.length = as'.length := by
  have hlength := congrArg List.length h
  rwa [List.length_map, List.length_map] at hlength

theorem parameters_eq {ps ps' : List Parameter} (hnames : ps.map Parameter.name = ps'.map Parameter.name)
    (htypes : ps.map Parameter.type = ps'.map Parameter.type) : ps = ps' := by
  induction ps generalizing ps' with
  | nil =>
    cases ps' with
    | nil => rfl
    | cons p' ps' => cases hnames
  | cons p ps ih =>
    cases ps' with
    | nil => cases hnames
    | cons p' ps' =>
      obtain ⟨hname, hrest⟩ := List.cons.inj hnames
      obtain ⟨htype, hrest'⟩ := List.cons.inj htypes
      have hp : p = p' := congrArg₂ Parameter.mk hname htype
      rw [ih hrest hrest', hp]

/-- Members that differ in their types only have as many types. -/
theorem length_types_of_untyped {m m' : Member} (h : m.untyped = m'.untyped) :
    m.types.length = m'.types.length := by
  cases m <;> cases m' <;> simp only [Member.untyped, Member.field.injEq, Member.method.injEq, reduceCtorEq] at h
  · rfl
  · have hparameters := congrArg MethodDecl.parameters h
    have hlength := congrArg List.length hparameters
    rw [List.length_map, List.length_map] at hlength
    simp [Member.types, hlength]

theorem member_eq_of_untyped {m m' : Member} (h : m.untyped = m'.untyped) (htypes : m.types = m'.types) :
    m = m' := by
  cases m with
  | field f =>
    cases m' with
    | method m' => cases h
    | field f' =>
      obtain ⟨name, modifiers, type⟩ := f
      obtain ⟨name', modifiers', type'⟩ := f'
      simp only [Member.untyped, Member.field.injEq, FieldDecl.mk.injEq] at h
      simp only [Member.types, List.cons.injEq] at htypes
      rw [h.1, h.2.1, htypes.1]
  | method m =>
    cases m' with
    | field f' => cases h
    | method m' =>
      obtain ⟨name, modifiers, returnType, parameters⟩ := m
      obtain ⟨name', modifiers', returnType', parameters'⟩ := m'
      simp only [Member.untyped, Member.method.injEq, MethodDecl.mk.injEq] at h
      simp only [Member.types, List.cons.injEq] at htypes
      have hnames := congrArg (List.map Parameter.name) h.2.2.2
      rw [List.map_map, List.map_map] at hnames
      rw [h.1, h.2.1, htypes.1, parameters_eq hnames htypes.2]

theorem members_eq_of_untyped {ms ms' : List Member} (h : ms.map Member.untyped = ms'.map Member.untyped)
    (htypes : ms.flatMap Member.types = ms'.flatMap Member.types) : ms = ms' := by
  induction ms generalizing ms' with
  | nil => simpa [eq_comm] using h
  | cons m ms ih =>
    cases ms' with
    | nil => cases h
    | cons m' ms' =>
      obtain ⟨hm, hms⟩ := List.cons.inj h
      rw [List.flatMap_cons, List.flatMap_cons] at htypes
      -- the first members have as many types, so both lists part at the same place
      obtain ⟨hfirst, hrest⟩ := List.append_inj htypes (length_types_of_untyped hm)
      rw [member_eq_of_untyped hm hfirst, ih hms hrest]

/-- A class is determined by what it is without its types, and its types. -/
theorem Found.eq_of_untyped {f f' : Found} (h : f.untyped = f'.untyped) (hstubs : f.stubs = f'.stubs) :
    f = f' := by
  obtain ⟨⟨package, name, modifiers, kind, superClasses, interfaces⟩, ms⟩ := f
  obtain ⟨⟨package', name', modifiers', kind', superClasses', interfaces'⟩, ms'⟩ := f'
  obtain ⟨htype, hmembers⟩ := Prod.mk.inj h
  dsimp only [Found.stubs] at htype hmembers hstubs
  simp only [TypeDecl.untyped, TypeDecl.mk.injEq] at htype
  obtain ⟨hpackage, hname, hmodifiers, hkind, hsuper, hinterfaces⟩ := htype
  have hlength := length_eq_of_map_const hsuper
  obtain ⟨hsupertypes, htypes⟩ := List.append_inj hstubs
    (by rw [List.length_append, List.length_append, hlength, length_eq_of_map_const hinterfaces])
  obtain ⟨hsuperClasses, hinterfaces⟩ := List.append_inj hsupertypes hlength
  rw [hpackage, hname, hmodifiers, hkind, hsuperClasses, hinterfaces, members_eq_of_untyped hmembers htypes]

end Parts

/-! ## The same class in two scopes -/

section Scopes

variable {src : Source} {scope scope' : Scope} (hpackage : scope'.package = scope.package)

theorem untyped_makeField (scope scope' : Scope) (owner : TypeDecl) (name : String) (hint : Option String) :
    (Member.field (makeField scope' owner name hint)).untyped =
      (Member.field (makeField scope owner name hint)).untyped := by
  unfold makeField
  split
  · rfl
  · simp only [Member.untyped]

theorem untyped_method (src : Source) (scope scope' : Scope) (decorators : List String) (n : Node) :
    (method src scope' decorators n).map (fun m => (Member.method m).untyped) =
      (method src scope decorators n).map fun m => (Member.method m).untyped := by
  cases hps : parameters src (n.child? "parameters") with
  | error u => simp only [method, hps, bind, Except.bind, Except.map]
  | ok ps =>
    simp only [method, hps, bind, Except.bind, pure, Except.pure, Except.map, Member.untyped, List.map_map,
      Function.comp_def]

theorem untyped_membersOf (src : Source) (scope scope' : Scope) (owner : TypeDecl) (n : Node) :
    (membersOf src scope' owner n).map (List.map Member.untyped) =
      (membersOf src scope owner n).map (List.map Member.untyped) := by
  have hsplit : ∀ x : Except Unit MethodDecl, (x.map fun m => [Member.method m]).map (List.map Member.untyped) =
      (x.map fun m => (Member.method m).untyped).map fun m => [m] := by
    intro x
    cases x <;> rfl
  have hmethod : ∀ decorators f,
      ((method src scope' decorators f).map fun m => [Member.method m]).map (List.map Member.untyped) =
        ((method src scope decorators f).map fun m => [Member.method m]).map (List.map Member.untyped) := by
    intro decorators f
    rw [hsplit, hsplit, untyped_method src scope scope']
  unfold membersOf
  split
  · refine congrArg Except.ok ?_
    rw [List.map_flatMap, List.map_flatMap]
    refine List.flatMap_congr fun e _ => ?_
    rw [fields, fields, List.map_map, List.map_map, List.map_map, List.map_map]
    exact List.map_congr_left fun name _ => untyped_makeField scope scope' owner name _
  split
  · exact hmethod [] n
  split
  · split
    · rfl
    · exact hmethod _ _
  · rfl

theorem untyped_members (src : Source) (scope scope' : Scope) (type : TypeDecl) (body : Node) :
    (members src scope' type body).map (List.map Member.untyped) =
      (members src scope type body).map (List.map Member.untyped) := by
  have hflatten : ∀ x : Except Unit (List (List Member)), (x.map List.flatten).map (List.map Member.untyped) =
      (x.map (List.map (List.map Member.untyped))).map List.flatten := by
    intro x
    cases x with
    | error u => rfl
    | ok mss => exact congrArg Except.ok List.map_flatten
  unfold members
  dsimp only
  rw [hflatten, hflatten, map_mapM_congr fun n _ => untyped_membersOf src scope scope' _ n]

include hpackage in
theorem untyped_header (outer : Option String) (d : Declaration) :
    (header src scope' outer d).untyped = (header src scope outer d).untyped := by
  simp only [TypeDecl.untyped, header, hpackage, TypeDecl.mk.injEq, true_and]
  constructor <;> split <;> simp

include hpackage in
/-- Without the types that are named in it, a class is the same in every scope of its module. -/
theorem untyped_foundAt (e : Option String × Declaration) :
    (foundAt src scope' e).map Found.untyped = (foundAt src scope e).map Found.untyped := by
  have hmembers : (declaredMembers src scope' (header src scope' e.1 e.2) e.2.node).map (List.map Member.untyped) =
      (declaredMembers src scope (header src scope e.1 e.2) e.2.node).map (List.map Member.untyped) := by
    unfold declaredMembers
    split
    · rfl
    · rename_i body _
      rw [untyped_members src scope scope', members, members]
      simp only [header, hpackage]
  unfold foundAt
  rw [find_eq, find_eq]
  cases hms : declaredMembers src scope (header src scope e.1 e.2) e.2.node with
  | error u =>
    cases hms' : declaredMembers src scope' (header src scope' e.1 e.2) e.2.node with
    | error u' => rfl
    | ok ms' =>
      rw [hms, hms'] at hmembers
      cases hmembers
  | ok ms =>
    cases hms' : declaredMembers src scope' (header src scope' e.1 e.2) e.2.node with
    | error u' =>
      rw [hms, hms'] at hmembers
      cases hmembers
    | ok ms' =>
      rw [hms, hms'] at hmembers
      have hsame : ms'.map Member.untyped = ms.map Member.untyped := Except.ok.inj hmembers
      simp only [Except.map, Found.untyped, hsame, untyped_header hpackage]

/-! ### Sites -/

theorem supertypeSites_inScope (src : Source) (scope scope' : Scope) (n : Node) :
    supertypeSites src scope' n = (supertypeSites src scope n).map (Site.inScope scope') := by
  unfold supertypeSites
  dsimp only
  rw [List.map_append]
  congr 1 <;> split <;> simp [Site.inScope, Mention.inScope]

theorem annotatedSite_inScope (scope scope' : Scope) (text : Option String) :
    annotatedSite scope' text = (annotatedSite scope text).inScope scope' := by
  unfold annotatedSite
  split <;> rfl

theorem fieldSites_inScope (src : Source) (scope scope' : Scope) (owner : TypeDecl) (n : Node) :
    fieldSites src scope' owner n = (fieldSites src scope owner n).map (Site.inScope scope') := by
  rw [fieldSites, fieldSites, List.map_map]
  refine List.map_congr_left fun name _ => ?_
  rw [Function.comp_apply, fieldSite, fieldSite]
  split
  · rfl
  · exact annotatedSite_inScope scope scope' _

theorem methodSites_inScope (src : Source) (scope scope' : Scope) (decorators : List String) (n : Node) :
    methodSites src scope' decorators n = (methodSites src scope decorators n).map (Site.inScope scope') := by
  unfold methodSites
  split
  · rfl
  · rw [List.map_cons, List.map_map, annotatedSite_inScope scope scope']
    refine congrArg (List.cons _) (List.map_congr_left fun p _ => ?_)
    exact annotatedSite_inScope scope scope' _

theorem memberSites_inScope (src : Source) (scope scope' : Scope) (owner : TypeDecl) (n : Node) :
    memberSites src scope' owner n = (memberSites src scope owner n).map (Site.inScope scope') := by
  unfold memberSites
  split
  · rw [List.map_flatMap]
    exact List.flatMap_congr fun e _ => fieldSites_inScope src scope scope' owner e
  split
  · exact methodSites_inScope src scope scope' [] n
  split
  · split
    · rfl
    · exact methodSites_inScope src scope scope' _ _
  · rfl

include hpackage in
/-- In another scope the same names are looked up in the same places. -/
theorem sitesAt_inScope (e : Option String × Declaration) :
    sitesAt src scope' e = (sitesAt src scope e).map (Site.inScope scope') := by
  have howner : (header src scope' e.1 e.2).package = (header src scope e.1 e.2).package := by
    simp only [header, hpackage]
  unfold sitesAt
  dsimp only
  rw [List.map_append, supertypeSites_inScope src scope scope', howner]
  congr 1
  show bodySites src scope' (.stub (header src scope e.1 e.2).package.name (header src scope e.1 e.2).name
    (header src scope e.1 e.2).kind) e.2.node = _
  unfold bodySites
  split
  · rfl
  · rw [List.map_flatMap]
    exact List.flatMap_congr fun n _ => memberSites_inScope src scope scope' _ n

end Scopes

end Python

end SourceOutline
