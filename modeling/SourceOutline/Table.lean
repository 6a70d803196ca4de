/-!
# Tables in insertion order

A table maps keys to values and remembers the order in which its keys came. Setting a key that is
present keeps its place. Most tables have texts for keys.

* `get?`, `set`, `setIfAbsent`, `keys`: the operations, with one look-up lemma each.
-/

namespace SourceOutline

/-- Keys with their values, first come first. -/
abbrev Table (κ : Type v) (β : Type u) := List (κ × β)

namespace Table

variable {κ : Type v} [DecidableEq κ] {β : Type u}

/-- The value of a key. -/
def get? : Table κ β → κ → Option β
  | [], _ => none
  | (k, v) :: t, key => if k = key then some v else get? t key

/-- The key has a value. -/
def has (t : Table κ β) (key : κ) : Bool :=
  (t.get? key).isSome

/-- Gives a key a value; a new key comes last, a known one keeps its place. -/
def set : Table κ β → κ → β → Table κ β
  | [], key, value => [(key, value)]
  | (k, v) :: t, key, value => if k = key then (k, value) :: t else (k, v) :: set t key value

/-- Gives a key a value unless it has one. -/
def setIfAbsent (t : Table κ β) (key : κ) (value : β) : Table κ β :=
  if t.has key then t else t.set key value

/-- The keys, first come first. -/
def keys (t : Table κ β) : List κ :=
  t.map Prod.fst

/-- The values in the order of their keys. -/
def values (t : Table κ β) : List β :=
  t.map Prod.snd

/-- Removes a key. -/
def erase (t : Table κ β) (key : κ) : Table κ β :=
  t.filter fun e => e.1 ≠ key

/-- The table of a list of pairs; a later pair wins, in the place of the first. -/
def ofPairs (pairs : List (κ × β)) : Table κ β :=
  pairs.foldl (fun t e => Table.set t e.1 e.2) []

@[simp] theorem get?_nil (key : κ) : get? ([] : Table κ β) key = none := rfl

theorem get?_set (t : Table κ β) (key key' : κ) (value : β) :
    get? (set t key value) key' = if key = key' then some value else get? t key' := by
  induction t with
  | nil => simp [set, get?]
  | cons e t ih =>
    obtain ⟨k, v⟩ := e
    by_cases h : k = key
    · subst h
      by_cases h' : k = key' <;> simp [set, get?, h']
    · by_cases h' : k = key'
      · subst h'
        simp [set, get?, h, Ne.symm h]
      · simp [set, get?, h, h', ih]

theorem mem_set_imp {t : Table κ β} {key : κ} {value : β} {e : κ × β}
    (h : e ∈ set t key value) : e = (key, value) ∨ e ∈ t := by
  induction t with
  | nil => simpa [set] using h
  | cons a t ih =>
    obtain ⟨k, v⟩ := a
    rw [set] at h
    split at h
    · rename_i hk
      rcases List.mem_cons.1 h with h | h
      · exact .inl (hk ▸ h)
      · exact .inr (List.mem_cons_of_mem _ h)
    · rcases List.mem_cons.1 h with h | h
      · exact .inr (h ▸ List.mem_cons_self)
      · exact (ih h).imp_right (List.mem_cons_of_mem _)

theorem get?_setIfAbsent (t : Table κ β) (key key' : κ) (value : β) :
    get? (setIfAbsent t key value) key' =
      if key = key' ∧ get? t key = none then some value else get? t key' := by
  unfold setIfAbsent has
  cases h : get? t key with
  | none => simp [get?_set]
  | some v => simp

end Table

end SourceOutline
