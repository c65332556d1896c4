import ClickGrant.Datum.Fields

/-!
# Data made to be read

Data that were made from a value are read as that value: a whole number from a machine word
(`Datum.uint64?_toNat` and the like), a list item by item (`mapM_map_of`, `Datum.list?_map`), a record
whose members are declared and distinct as its own fields (`Datum.fields?_self`). A field of such a
record is looked for member by member, which `simp` does by the lemmas of `Datum.Fields`.
-/
set_option autoImplicit false

namespace ClickGrant

/-- Items that are read one by one. -/
theorem mapM_map_of {α β γ : Type} {read : γ → Option α} {written : β → γ} {made : β → α}
    (reads : ∀ x, read (written x) = some (made x)) :
    ∀ xs : List β, (xs.map written).mapM read = some (xs.map made)
  | [] => rfl
  | x :: xs => by
    rw [List.map_cons, List.mapM_cons, reads, mapM_map_of reads xs]
    rfl

/-- Whatever was read from a list was read from one of its items. -/
theorem exists_of_mapM {α γ : Type} {read : γ → Option α} : ∀ {items : List γ} {xs : List α},
    items.mapM read = some xs → ∀ x ∈ xs, ∃ item ∈ items, read item = some x
  | [], xs, h => by
    cases h
    nofun
  | d :: items, xs, h => by
    rw [List.mapM_cons] at h
    obtain ⟨x, first, h⟩ := Option.bind_eq_some_iff.mp h
    obtain ⟨xs', later, h⟩ := Option.bind_eq_some_iff.mp h
    cases h
    refine List.forall_mem_cons.mpr ⟨⟨d, List.mem_cons_self, first⟩, fun y member => ?_⟩
    obtain ⟨item, inside, eq⟩ := exists_of_mapM later y member
    exact ⟨item, List.mem_cons_of_mem d inside, eq⟩

namespace Datum

theorem intIn?_natCast {n high : Nat} (range : n ≤ high) : (Datum.int n).intIn? 0 high = some (n : Int) :=
  if_pos (by simpa using range)

theorem uint8?_toNat (n : UInt8) : (Datum.int n.toNat).uint8? = some n := by
  have read : (Datum.int n.toNat).intIn? 0 255 = some (n.toNat : Int) :=
    intIn?_natCast (Nat.le_of_lt_succ n.toNat_lt)
  rw [uint8?, read]
  exact congrArg some n.ofNat_toNat

theorem uint32?_toNat (n : UInt32) : (Datum.int n.toNat).uint32? = some n := by
  have read : (Datum.int n.toNat).intIn? 0 4294967295 = some (n.toNat : Int) :=
    intIn?_natCast (Nat.le_of_lt_succ n.toNat_lt)
  rw [uint32?, read]
  exact congrArg some n.ofNat_toNat

theorem uint64?_toNat (n : UInt64) : (Datum.int n.toNat).uint64? = some n := by
  have read : (Datum.int n.toNat).intIn? 0 18446744073709551615 = some (n.toNat : Int) :=
    intIn?_natCast (Nat.le_of_lt_succ n.toNat_lt)
  rw [uint64?, read]
  exact congrArg some n.ofNat_toNat

theorem list?_map {α β : Type} {read : Datum → Option α} {written : β → Datum} {made : β → α}
    (reads : ∀ x, read (written x) = some (made x)) (xs : List β) :
    (Datum.list (xs.map written)).list? read = some (xs.map made) :=
  mapM_map_of reads xs

theorem declared_self {names : List String} : ∀ {members : List (String × Datum)},
    (members.map Prod.fst).Nodup → (∀ m ∈ members, names.contains m.1 = true) →
    declared names members = some members
  | [], _, _ => rfl
  | (k, d) :: members, distinct, known => by
    have ih := declared_self (List.nodup_cons.mp distinct).2 fun m member =>
      known m (List.mem_cons_of_mem _ member)
    have alone : members.any (fun m => m.1 == k) = false := by
      rw [List.any_eq_false]
      intro m member same
      have inside : m.1 ∈ members.map Prod.fst := List.mem_map_of_mem member
      rw [beq_iff_eq.mp same] at inside
      exact (List.nodup_cons.mp distinct).1 inside
    rw [declared, ih]
    dsimp only
    rw [if_pos (known _ List.mem_cons_self), alone, if_neg Bool.false_ne_true]

/-- The members of a record in which every name is declared, and each once, are its fields. -/
theorem fields?_self (c : Conventions) {names : List String} {members : List (String × Datum)}
    (distinct : (members.map Prod.fst).Nodup) (known : ∀ m ∈ members, names.contains m.1 = true) :
    (Datum.record members).fields? c names = some members :=
  declared_self distinct known

namespace Fields

variable {α : Type} {name k : String} (d : Datum) (fs : Fields) (default : α) (read : Datum → Option α)

@[simp] theorem get?_first : Fields.get? ((name, d) :: fs) name = some d := List.lookup_cons_self

@[simp] theorem get?_later (other : name ≠ k) : Fields.get? ((k, d) :: fs) name = fs.get? name := by
  unfold Fields.get?
  rw [List.lookup_cons, beq_false_of_ne other]

@[simp] theorem required_first : Fields.required ((name, d) :: fs) name read = read d := by
  rw [Fields.required, get?_first]
  rfl

@[simp] theorem required_later (other : name ≠ k) :
    Fields.required ((k, d) :: fs) name read = fs.required name read := by
  rw [Fields.required, get?_later d fs other]
  rfl

@[simp] theorem withDefault_first : Fields.withDefault ((name, d) :: fs) name default read = read d := by
  rw [Fields.withDefault, get?_first]

@[simp] theorem withDefault_later (other : name ≠ k) :
    Fields.withDefault ((k, d) :: fs) name default read = fs.withDefault name default read := by
  rw [Fields.withDefault, get?_later d fs other]
  rfl

@[simp] theorem optional_nil : Fields.optional [] name read = some none := rfl

@[simp] theorem optional_text (s : String) :
    Fields.optional ((name, .text s) :: fs) name read = (read (.text s)).map some := by
  rw [Fields.optional, get?_first]

@[simp] theorem optional_later (other : name ≠ k) :
    Fields.optional ((k, d) :: fs) name read = fs.optional name read := by
  rw [Fields.optional, get?_later d fs other]
  rfl

end Fields

end Datum

end ClickGrant
