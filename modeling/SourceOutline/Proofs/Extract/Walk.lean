import SourceOutline.Extract.Declaration
import SourceOutline.Extract.Emission
import SourceOutline.Proofs.Outcome

/-!
# Walks through declarations

`Declaration.walk` lists a declaration and those nested in it, outer ones first, each with what it
inherits from the declarations around it.  The passes over a file differ only in what a declaration
hands on, so what holds along a walk is proved here for all of them.

* `mem_walkAll_of_mem`, `mem_walkAll_nested`: which declarations are on a walk.
* `mem_walkAll_induction`: what holds of the first declarations, and every declaration on the walk hands
  on to those nested in it, holds everywhere.
* `walkAll_map`: walks that hand on corresponding things visit the same declarations.
-/

namespace SourceOutline.Declaration

variable {σ τ : Type}

mutual

/-- A declaration and those nested in it, outer ones first, each with what it inherits; `into` is
what a declaration hands on. -/
def walk (into : σ → Declaration → σ) (s : σ) : Declaration → List (σ × Declaration)
  | ⟨node, name, decorators, nested⟩ =>
    (s, ⟨node, name, decorators, nested⟩) ::
      walkAll into (into s ⟨node, name, decorators, nested⟩) nested

/-- The walks through several declarations, one after another. -/
def walkAll (into : σ → Declaration → σ) (s : σ) : List Declaration → List (σ × Declaration)
  | [] => []
  | d :: ds => walk into s d ++ walkAll into s ds

end

theorem walk_eq_cons (into : σ → Declaration → σ) (s : σ) (d : Declaration) :
    walk into s d = (s, d) :: walkAll into (into s d) d.nested := by
  cases d
  rw [walk]

theorem walkAll_eq_flatMap (into : σ → Declaration → σ) (s : σ) (ds : List Declaration) :
    walkAll into s ds = ds.flatMap (walk into s) := by
  induction ds with
  | nil => rfl
  | cons d ds ih => rw [walkAll, ih, List.flatMap_cons]

section Membership

variable {into : σ → Declaration → σ}

theorem mem_walk_self {s : σ} {d : Declaration} : (s, d) ∈ walk into s d := by
  cases d
  exact List.mem_cons_self

theorem mem_walkAll_of_mem {s : σ} {d : Declaration} {ds : List Declaration} (hd : d ∈ ds) :
    (s, d) ∈ walkAll into s ds := by
  induction ds with
  | nil => simp at hd
  | cons d' ds ih =>
    rcases List.mem_cons.mp hd with rfl | hd
    · exact List.mem_append_left _ mem_walk_self
    · exact List.mem_append_right _ (ih hd)

mutual

theorem mem_walk_nested : ∀ {d : Declaration} {s : σ}, ∀ e ∈ walk into s d, ∀ d' ∈ e.2.nested,
    (into e.1 e.2, d') ∈ walk into s d
  | ⟨node, name, decorators, nested⟩, s => by
    intro e he d' hd'
    rcases List.mem_cons.mp he with rfl | he
    · exact List.mem_cons_of_mem _ (mem_walkAll_of_mem hd')
    · exact List.mem_cons_of_mem _ (mem_walkAll_nested e he d' hd')

/-- What is nested in a declaration on a walk is on the walk. -/
theorem mem_walkAll_nested : ∀ {ds : List Declaration} {s : σ}, ∀ e ∈ walkAll into s ds, ∀ d' ∈ e.2.nested,
    (into e.1 e.2, d') ∈ walkAll into s ds
  | [], _ => by
    intro e he
    simp [walkAll] at he
  | d :: ds, s => by
    intro e he d' hd'
    rcases List.mem_append.mp he with he | he
    · exact List.mem_append_left _ (mem_walk_nested e he d' hd')
    · exact List.mem_append_right _ (mem_walkAll_nested e he d' hd')

end

end Membership

section Invariants

variable {into : σ → Declaration → σ} {P : σ → Declaration → Prop}

mutual

theorem mem_walk_induction : ∀ {d : Declaration} {s : σ},
    (∀ e ∈ walk into s d, P e.1 e.2 → ∀ d' ∈ e.2.nested, P (into e.1 e.2) d') → P s d →
      ∀ e ∈ walk into s d, P e.1 e.2
  | ⟨node, name, decorators, nested⟩, s, hstep, hs => by
    intro e he
    rcases List.mem_cons.mp he with rfl | he
    · exact hs
    · have hnested := hstep _ List.mem_cons_self hs
      exact mem_walkAll_induction (fun e' he' => hstep e' (List.mem_cons_of_mem _ he')) hnested e he

/-- What holds of the first declarations, and is handed on to nested ones, holds all along a walk. -/
theorem mem_walkAll_induction : ∀ {ds : List Declaration} {s : σ},
    (∀ e ∈ walkAll into s ds, P e.1 e.2 → ∀ d' ∈ e.2.nested, P (into e.1 e.2) d') →
      (∀ d ∈ ds, P s d) → ∀ e ∈ walkAll into s ds, P e.1 e.2
  | [], _, _, _ => by
    intro e he
    simp [walkAll] at he
  | d :: ds, s, hstep, hs => by
    intro e he
    rcases List.mem_append.mp he with he | he
    · exact mem_walk_induction (fun e' he' => hstep e' (List.mem_append_left _ he'))
        (hs d List.mem_cons_self) e he
    · exact mem_walkAll_induction (fun e' he' => hstep e' (List.mem_append_right _ he'))
        (fun d' hd' => hs d' (List.mem_cons_of_mem _ hd')) e he

end

/-- What a declaration hands on if it inherits it is inherited all along a walk. -/
theorem mem_walkAll_imp {P : σ → Prop} {ds : List Declaration} {s : σ}
    (hstep : ∀ e ∈ walkAll into s ds, P e.1 → P (into e.1 e.2)) (hs : P s) :
    ∀ e ∈ walkAll into s ds, P e.1 :=
  mem_walkAll_induction (P := fun s _ => P s) (fun e he hP _ _ => hstep e he hP) fun _ _ => hs

end Invariants

section Simulation

variable {into : σ → Declaration → σ} {into' : τ → Declaration → τ} {f : σ → τ}

mutual

theorem walk_map (hf : ∀ s d, f (into s d) = into' (f s) d) : ∀ (d : Declaration) (s : σ),
    walk into' (f s) d = (walk into s d).map fun e => (f e.1, e.2)
  | ⟨node, name, decorators, nested⟩, s => by
    rw [walk, walk, List.map_cons, ← hf, walkAll_map hf nested]

/-- Walks that hand on corresponding things visit the same declarations. -/
theorem walkAll_map (hf : ∀ s d, f (into s d) = into' (f s) d) : ∀ (ds : List Declaration) (s : σ),
    walkAll into' (f s) ds = (walkAll into s ds).map fun e => (f e.1, e.2)
  | [], _ => rfl
  | d :: ds, s => by
    rw [walkAll, walkAll, List.map_append, walk_map hf d, walkAll_map hf ds]

end

end Simulation

end SourceOutline.Declaration

namespace SourceOutline.Emission

variable {ε α β : Type}

/-! ## Passes as walks -/

/-- What a pass without a failure emits is its result. -/
theorem result_eq_ok_iff {p : Emission ε α} {as : List α} :
    p.result = .ok as ↔ p.failure = none ∧ p.emitted = as := by
  unfold result
  cases p.failure <;> simp

theorem result_ofExcept (f : β → Except ε α) (e : β) : (ofExcept (f e)).result = [e].mapM f := by
  rw [List.mapM_cons, List.mapM_nil]
  cases f e <;> rfl

/-- A pass that does one thing after another stops where the list of both stops. -/
theorem result_append_eq_mapM {f : β → Except ε α} {p q : Emission ε α} {xs ys : List β}
    (hp : p.result = xs.mapM f) (hq : q.result = ys.mapM f) : (p.append q).result = (xs ++ ys).mapM f := by
  rw [result_append, hp, hq, List.mapM_append]
  cases xs.mapM f with
  | error e => rfl
  | ok as => cases ys.mapM f <;> rfl

end SourceOutline.Emission
