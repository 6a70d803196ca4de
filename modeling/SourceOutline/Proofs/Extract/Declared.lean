import Mathlib.Data.List.Forall2
import Mathlib.Data.List.Induction
import SourceOutline.Proofs.Extract.Walk
import SourceOutline.Proofs.Text.Dotted

/-!
# The table of declared names

The first pass enters every declaration of a file under its simple name, unless that name is taken,
and under its nested name in any case.

* `get?_registerAll`: in the end a nested name stands for itself, and a name that is no nested name for
  the first declaration that bears it.
* `get?_registerAll_of_bearers`: if names have no dots, a name that one declaration bears stands for it.
* `get?_registerAll_of_partial`: a path from a nested declaration on is not in the table.
* `registerAll_of_related`: declarations of the same names, nested in the same way, give the same table.
-/

namespace SourceOutline.Declaration

/-- What is around the declarations nested in a declaration: its own nested name. -/
def within (outer : Option String) (d : Declaration) : Option String :=
  some (nest outer d.name)

/-- The simple name and the nested name of a declaration. -/
def entry (e : Option String × Declaration) : String × String :=
  (e.2.name, nest e.1 e.2.name)

/-- The simple and nested names of declarations and of those nested in them, outer ones first. -/
def entries (ds : List Declaration) : List (String × String) :=
  (walkAll within none ds).map entry

/-- Enters a declaration under its simple name, unless that is taken, and under its nested name. -/
def enter (t : Table String String) (e : String × String) : Table String String :=
  (t.setIfAbsent e.1 e.2).set e.2 e.2

/-- The nested name of a declaration puts the names on its path together, with dots between them. -/
theorem nest_foldl_within (ds : List Declaration) (name : String) :
    nest (ds.foldl within none) name = ".".intercalate (ds.map Declaration.name ++ [name]) := by
  induction ds using List.reverseRecOn generalizing name with
  | nil => simp [nest]
  | append_singleton ds d ih =>
    rw [List.foldl_append, List.map_append, List.append_assoc]
    show nest (within (ds.foldl within none) d) name = ".".intercalate (ds.map Declaration.name ++ [d.name, name])
    rw [within, ih, Dotted.intercalate_concat]
    rfl

/-! ## The table -/

mutual

theorem register_eq_foldl : ∀ (d : Declaration) (outer : Option String) (t : Table String String),
    register outer t d = ((walk within outer d).map entry).foldl enter t
  | ⟨node, name, decorators, nested⟩, outer, t => by
    rw [register, walk, List.map_cons, List.foldl_cons, registerAll_eq_foldl nested]
    rfl

theorem registerAll_eq_foldl : ∀ (ds : List Declaration) (outer : Option String) (t : Table String String),
    registerAll outer t ds = ((walkAll within outer ds).map entry).foldl enter t
  | [], _, _ => rfl
  | d :: ds, outer, t => by
    rw [registerAll, walkAll, List.map_append, List.foldl_append, register_eq_foldl d,
      registerAll_eq_foldl ds]

end

theorem get?_enter (t : Table String String) (e : String × String) (key : String) :
    (enter t e).get? key =
      if e.2 = key then some key else (t.get? key).or (if e.1 = key then some e.2 else none) := by
  rw [enter, Table.get?_set, Table.get?_setIfAbsent]
  by_cases hfull : e.2 = key
  · rw [if_pos hfull, if_pos hfull, hfull]
  · rw [if_neg hfull, if_neg hfull]
    by_cases hsimple : e.1 = key
    · subst hsimple
      cases ht : t.get? e.1 <;> simp
    · simp [hsimple]

theorem get?_foldl_enter (es : List (String × String)) (t : Table String String) (key : String) :
    (es.foldl enter t).get? key =
      if key ∈ es.map Prod.snd then some key
      else (t.get? key).or ((es.find? fun e => e.1 = key).map Prod.snd) := by
  induction es generalizing t with
  | nil => simp
  | cons e es ih =>
    rw [List.foldl_cons, ih, get?_enter, List.map_cons]
    by_cases hrest : key ∈ es.map Prod.snd
    · rw [if_pos hrest, if_pos (List.mem_cons_of_mem _ hrest)]
    rw [if_neg hrest]
    by_cases hfull : e.2 = key
    · rw [if_pos hfull, if_pos (by simp [hfull])]
      rfl
    have hnew : key ∉ e.2 :: es.map Prod.snd := by
      simp only [List.mem_cons, not_or]
      exact ⟨Ne.symm hfull, hrest⟩
    rw [if_neg hfull, if_neg hnew, List.find?_cons]
    by_cases hsimple : e.1 = key
    · cases t.get? key <;> simp [hsimple]
    · simp [hsimple]

/-- **The table of declared names**: nested names stand for themselves, and any other name for the
first declaration that bears it. -/
theorem get?_registerAll (ds : List Declaration) (key : String) :
    (registerAll none [] ds).get? key =
      if key ∈ (entries ds).map Prod.snd then some key
      else ((entries ds).find? fun e => e.1 = key).map Prod.snd := by
  rw [registerAll_eq_foldl, get?_foldl_enter]
  rfl

/-! ## Nested names -/

/-- The nested names of the declarations that bear a simple name. -/
def bearers (ds : List Declaration) (name : String) : List String :=
  ((entries ds).filter fun e => e.1 = name).map Prod.snd

theorem mem_bearers {ds : List Declaration} {e : String × String} (he : e ∈ entries ds) :
    e.2 ∈ bearers ds e.1 :=
  List.mem_map_of_mem (List.mem_filter.mpr ⟨he, by simp⟩)

/-- The table by the bearers of a name. -/
theorem get?_registerAll_eq_head? (ds : List Declaration) (key : String) :
    (registerAll none [] ds).get? key =
      if key ∈ (entries ds).map Prod.snd then some key else (bearers ds key).head? := by
  rw [get?_registerAll, bearers, List.head?_map, List.head?_filter]

/-- The only declaration that bears a name. -/
theorem exists_of_bearers_eq_singleton {ds : List Declaration} {key full : String}
    (h : bearers ds key = [full]) :
    ∃ e ∈ entries ds, e.1 = key ∧ e.2 = full ∧ ((entries ds).filter fun e => e.1 = key) = [e] := by
  obtain ⟨e, he, hfull⟩ := List.map_eq_singleton_iff.mp h
  have hmem : e ∈ (entries ds).filter fun e => e.1 = key := he ▸ List.mem_singleton_self e
  have hname : e.1 = key := by simpa using (List.mem_filter.mp hmem).2
  exact ⟨e, (List.mem_filter.mp hmem).1, hname, hfull, he⟩

theorem nest_of_not_mem {outer : Option String} {name : String} (h : '.' ∉ (nest outer name).toList) :
    nest outer name = name := by
  cases outer with
  | none => rfl
  | some o =>
    exfalso
    apply h
    rw [nest, String.toList_append, String.toList_append]
    simp

/-- A nested name without a dot is a simple name. -/
theorem simple_of_not_mem {ds : List Declaration} {e : String × String} (he : e ∈ entries ds)
    (h : '.' ∉ e.2.toList) : e.2 = e.1 := by
  obtain ⟨p, -, rfl⟩ := List.mem_map.mp he
  exact nest_of_not_mem h

/-- A character other than the dot stands in a nested name only if it stands in a simple one. -/
theorem not_mem_nested {ds : List Declaration} {c : Char} (hdot : c ≠ '.')
    (hsimple : ∀ e ∈ entries ds, c ∉ e.1.toList) : ∀ e ∈ entries ds, c ∉ e.2.toList := by
  have hnest :
      ∀ p ∈ walkAll within none ds, (∀ o ∈ p.1, c ∉ o.toList) → c ∉ (nest p.1 p.2.name).toList := by
    rintro ⟨outer, d⟩ hp houter
    have hname : c ∉ d.name.toList := hsimple (entry (outer, d)) (List.mem_map_of_mem hp)
    cases outer with
    | none => exact hname
    | some o =>
      rw [nest, String.toList_append, String.toList_append]
      simp [houter o rfl, hdot, hname]
  -- the name around a declaration is itself a nested name
  have houter : ∀ p ∈ walkAll within none ds, ∀ o ∈ p.1, c ∉ o.toList := by
    refine mem_walkAll_imp (P := fun outer : Option String => ∀ o ∈ outer, c ∉ o.toList) ?_ (by simp)
    rintro p hp houter _ ⟨⟩
    exact hnest p hp houter
  intro e he
  obtain ⟨p, hp, rfl⟩ := List.mem_map.mp he
  exact hnest p hp (houter p hp)

/-- The same holds of a key that is a nested name, or a simple one that a single declaration bears. -/
theorem not_mem_key {ds : List Declaration} {c : Char} {key full : String} (hdot : c ≠ '.')
    (hsimple : ∀ e ∈ entries ds, c ∉ e.1.toList) (hfull : full ∈ (entries ds).map Prod.snd)
    (hkey : key = full ∨ bearers ds key = [full]) : c ∉ key.toList := by
  rcases hkey with rfl | hkey
  · obtain ⟨e, he, rfl⟩ := List.mem_map.mp hfull
    exact not_mem_nested hdot hsimple e he
  · obtain ⟨e, he, rfl, -⟩ := exists_of_bearers_eq_singleton hkey
    exact hsimple e he

/-- **A name that one declaration bears stands for it**, and so does its nested name, if there are no
dots in simple names. -/
theorem get?_registerAll_of_bearers {ds : List Declaration} {key full : String}
    (hdots : ∀ e ∈ entries ds, '.' ∉ e.1.toList) (hfull : full ∈ (entries ds).map Prod.snd)
    (hkey : key = full ∨ bearers ds key = [full]) : (registerAll none [] ds).get? key = some full := by
  rw [get?_registerAll]
  rcases hkey with rfl | hkey
  · rw [if_pos hfull]
  obtain ⟨e, he, hname, rfl, honly⟩ := exists_of_bearers_eq_singleton hkey
  by_cases hnested : key ∈ (entries ds).map Prod.snd
  · -- a declaration whose nested name is the simple name bears it as well
    obtain ⟨e', he', hfull'⟩ := List.mem_map.mp hnested
    have hdot : '.' ∉ e'.2.toList := by
      rw [hfull', ← hname]
      exact hdots e he
    have hbears : e' ∈ (entries ds).filter fun e => e.1 = key :=
      List.mem_filter.mpr ⟨he', by simp [← simple_of_not_mem he' hdot, hfull']⟩
    rw [honly] at hbears
    rw [if_pos hnested, ← hfull', List.mem_singleton.mp hbears]
  · rw [if_neg hnested, ← List.head?_filter, honly]
    rfl

/-! ## Partial paths -/

/-- The first component of a nested name is a nested name itself. -/
theorem head_mem_entries {ds : List Declaration} (hdots : ∀ e ∈ entries ds, '.' ∉ e.1.toList) :
    ∀ e ∈ entries ds, (Dotted.head e.2, Dotted.head e.2) ∈ entries ds := by
  have hnest : ∀ p ∈ walkAll within none ds, (∀ o ∈ p.1, (Dotted.head o, Dotted.head o) ∈ entries ds) →
      (Dotted.head (nest p.1 p.2.name), Dotted.head (nest p.1 p.2.name)) ∈ entries ds := by
    rintro ⟨outer, d⟩ hp houter
    have hentry : entry (outer, d) ∈ entries ds := List.mem_map_of_mem hp
    cases outer with
    | none =>
      have hhead : Dotted.head d.name = d.name := Dotted.head_of_not_mem (hdots _ hentry)
      rw [nest, hhead]
      exact hentry
    | some o =>
      rw [nest, Dotted.head_append_dot]
      exact houter o rfl
  -- the name around a declaration is itself a nested name
  have houter : ∀ p ∈ walkAll within none ds, ∀ o ∈ p.1, (Dotted.head o, Dotted.head o) ∈ entries ds := by
    refine mem_walkAll_imp (P := fun outer : Option String =>
      ∀ o ∈ outer, (Dotted.head o, Dotted.head o) ∈ entries ds) ?_ (by simp)
    rintro p hp houter _ ⟨⟩
    exact hnest p hp houter
  intro e he
  obtain ⟨p, hp, rfl⟩ := List.mem_map.mp he
  exact hnest p hp (houter p hp)

/-- A path that begins with the simple name of a nested declaration is not in the table. -/
theorem get?_registerAll_of_partial {ds : List Declaration} {name full : String}
    (hdots : ∀ e ∈ entries ds, '.' ∉ e.1.toList) (hbearer : bearers ds name = [full]) (hne : full ≠ name)
    (rest : String) : (registerAll none [] ds).get? (name ++ "." ++ rest) = none := by
  obtain ⟨e, he, hname, -, -⟩ := exists_of_bearers_eq_singleton hbearer
  have hdot : '.' ∉ name.toList := hname ▸ hdots e he
  have hnested : name ++ "." ++ rest ∉ (entries ds).map Prod.snd := by
    intro hmem
    obtain ⟨e', he', hfull⟩ := List.mem_map.mp hmem
    have htop := head_mem_entries hdots e' he'
    rw [hfull, Dotted.head_append_dot, Dotted.head_of_not_mem hdot] at htop
    have hself := mem_bearers htop
    rw [hbearer, List.mem_singleton] at hself
    exact hne hself.symm
  have hnone : bearers ds (name ++ "." ++ rest) = [] := by
    refine List.map_eq_nil_iff.mpr (List.filter_eq_nil_iff.mpr fun e' he' heq => hdots e' he' ?_)
    rw [of_decide_eq_true heq]
    simp
  rw [get?_registerAll_eq_head?, if_neg hnested, hnone, List.head?_nil]

/-- A character other than the dot stands in a path to a declared type only if it stands in a simple name. -/
theorem not_mem_path {ds : List Declaration} {c : Char} {name full rest : String} (hdot : c ≠ '.')
    (hsimple : ∀ e ∈ entries ds, c ∉ e.1.toList) (hbearer : bearers ds name = [full])
    (hdeclared : full ++ "." ++ rest ∈ (entries ds).map Prod.snd) : c ∉ (name ++ "." ++ rest).toList := by
  obtain ⟨bearer, hmem, rfl, -, -⟩ := exists_of_bearers_eq_singleton hbearer
  obtain ⟨e, he, hnested⟩ := List.mem_map.mp hdeclared
  have hend := not_mem_nested hdot hsimple e he
  rw [hnested, String.toList_append, List.mem_append, not_or] at hend
  rw [String.toList_append, String.toList_append]
  simp [hsimple bearer hmem, hdot, hend.2]

/-- A nested name that is not the simple one ends in it, after a dot. -/
theorem exists_outer_of_bearer {ds : List Declaration} {name full : String} (hbearer : bearers ds name = [full])
    (hne : full ≠ name) : ∃ outer, full = outer ++ "." ++ name := by
  obtain ⟨e, he, rfl, rfl, -⟩ := exists_of_bearers_eq_singleton hbearer
  obtain ⟨⟨outer, d⟩, -, rfl⟩ := List.mem_map.mp he
  cases outer with
  | none => exact absurd rfl hne
  | some o => exact ⟨o, rfl⟩

/-! ## Declarations of the same names -/

/-- Declarations of the same name, with the same decorators and related nodes; those nested in them are of
this sort too. -/
inductive Related (R : Node → Node → Prop) : Declaration → Declaration → Prop
  | mk {node node' : Node} {name : String} {decorators : List String} {nested nested' : List Declaration} :
    R node node' → List.Forall₂ (Related R) nested nested' →
      Related R ⟨node, name, decorators, nested⟩ ⟨node', name, decorators, nested'⟩

section Related

variable {R : Node → Node → Prop}

theorem Related.node {d d' : Declaration} (h : Related R d d') : R d.node d'.node := by
  cases h
  assumption

mutual

theorem register_of_related : ∀ {d d' : Declaration}, Related R d d' →
    ∀ (outer : Option String) (t : Table String String), register outer t d = register outer t d'
  | ⟨_, _, _, _⟩, ⟨_, _, _, _⟩, .mk _ hnested, outer, t => by
    rw [register, register]
    exact registerAll_of_related hnested _ _

theorem registerAll_of_related : ∀ {ds ds' : List Declaration}, List.Forall₂ (Related R) ds ds' →
    ∀ (outer : Option String) (t : Table String String), registerAll outer t ds = registerAll outer t ds'
  | [], _, .nil, _, _ => rfl
  | _ :: _, _, .cons hd hds, outer, t => by
    rw [registerAll, registerAll, register_of_related hd, registerAll_of_related hds]

end

end Related

end SourceOutline.Declaration
