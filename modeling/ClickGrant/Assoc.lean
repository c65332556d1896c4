/-!
# Association lists

Finite maps as lists of pairs, in the order in which their keys first came in. Every operation
keeps the keys distinct, and the lemmas say what each does to a look-up.
-/
set_option autoImplicit false

namespace ClickGrant

/-- A finite map. -/
structure Assoc (κ α : Type) where
  entries : List (κ × α)
  deriving DecidableEq, Repr

namespace Assoc

variable {κ α : Type} [DecidableEq κ]

/-- The map without keys. -/
def empty : Assoc κ α := ⟨[]⟩

instance : Inhabited (Assoc κ α) := ⟨empty⟩

/-- The value of the first pair with a key. -/
def find (k : κ) : List (κ × α) → Option α
  | [] => none
  | (k', v) :: rest => if k' = k then some v else find k rest

/-- The value at a key. -/
def get? (m : Assoc κ α) (k : κ) : Option α := find k m.entries

/-- The value at a key, or a default. -/
def getD (m : Assoc κ α) (k : κ) (default : α) : α := (m.get? k).getD default

/-- Whether the map has a key. -/
def contains (m : Assoc κ α) (k : κ) : Bool := (m.get? k).isSome

/-- The keys in order. -/
def keys (m : Assoc κ α) : List κ := m.entries.map (·.1)

/-- The values in the order of their keys. -/
def values (m : Assoc κ α) : List α := m.entries.map (·.2)

/-- The pairs with the value at `k` replaced, or with a new pair at the end. -/
def put (k : κ) (v : α) : List (κ × α) → List (κ × α)
  | [] => [(k, v)]
  | (k', v') :: rest => if k' = k then (k, v) :: rest else (k', v') :: put k v rest

/-- The map with a value at a key. -/
def set (m : Assoc κ α) (k : κ) (v : α) : Assoc κ α := ⟨put k v m.entries⟩

/-- The map without a key. -/
def erase (m : Assoc κ α) (k : κ) : Assoc κ α := ⟨m.entries.filter (·.1 ≠ k)⟩

/-- The map with the value at a key changed, if it has the key. -/
def modify (m : Assoc κ α) (k : κ) (f : α → α) : Assoc κ α :=
  match m.get? k with
  | none => m
  | some v => m.set k (f v)

/-- The map with every value changed. -/
def mapValues (m : Assoc κ α) (f : α → α) : Assoc κ α := ⟨m.entries.map fun e => (e.1, f e.2)⟩

/-- The map built from pairs; the last one of a key wins. -/
def ofList (pairs : List (κ × α)) : Assoc κ α := pairs.foldl (fun m p => m.set p.1 p.2) empty

@[simp] theorem get?_empty (k : κ) : (empty : Assoc κ α).get? k = none := rfl

theorem find_put (k k' : κ) (v : α) :
    ∀ l : List (κ × α), find k' (put k v l) = if k = k' then some v else find k' l
  | [] => by simp [put, find]
  | (k₀, v₀) :: rest => by
    by_cases h : k₀ = k
    · subst h; by_cases h' : k₀ = k' <;> simp [put, find, h']
    · by_cases h' : k₀ = k'
      · subst h'; simp [put, find, h, Ne.symm h]
      · simp [put, find, h, h', find_put k k' v rest]

@[simp] theorem get?_set (m : Assoc κ α) (k k' : κ) (v : α) :
    (m.set k v).get? k' = if k = k' then some v else m.get? k' :=
  find_put k k' v m.entries

theorem find_filter_ne (k k' : κ) :
    ∀ l : List (κ × α), find k' (l.filter (·.1 ≠ k)) = if k = k' then none else find k' l
  | [] => by simp [find]
  | (k₀, v₀) :: rest => by
    have ih := find_filter_ne k k' rest
    by_cases h : k₀ = k
    · subst h; by_cases h' : k₀ = k' <;> simp_all [find]
    · by_cases h' : k₀ = k'
      · subst h'; simp [find, h, Ne.symm h]
      · simp_all [find]

@[simp] theorem get?_erase (m : Assoc κ α) (k k' : κ) :
    (m.erase k).get? k' = if k = k' then none else m.get? k' :=
  find_filter_ne k k' m.entries

@[simp] theorem get?_modify (m : Assoc κ α) (k k' : κ) (f : α → α) :
    (m.modify k f).get? k' = if k = k' then (m.get? k').map f else m.get? k' := by
  unfold modify
  split
  next h => by_cases hk : k = k' <;> simp [hk]; subst hk; simp [h]
  next v h => by_cases hk : k = k' <;> simp [hk]; subst hk; simp [h]

theorem find_mapValues (k : κ) (f : α → α) :
    ∀ l : List (κ × α), find k (l.map fun e => (e.1, f e.2)) = (find k l).map f
  | [] => rfl
  | (k₀, v₀) :: rest => by by_cases h : k₀ = k <;> simp [find, h, find_mapValues k f rest]

@[simp] theorem get?_mapValues (m : Assoc κ α) (f : α → α) (k : κ) :
    (m.mapValues f).get? k = (m.get? k).map f :=
  find_mapValues k f m.entries

end Assoc

end ClickGrant
