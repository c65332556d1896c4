import ClickGrant.Proofs.Registry.Rejected
import ClickGrant.Proofs.Registry.Standalone
import Mathlib.Data.List.Chain
import Mathlib.Order.Minimal

/-!
# Which identifier is handed out

The identifiers form a cycle: from the cursor up to the last one, then from the base up to the one
before the cursor. `rank` is the place of an identifier on this way round. What is proved:
  1. `FirstFree` — the identifier of least rank that no process has a component of. The search gives
     it, moves the cursor behind it, and fails exactly if every identifier is in use.
  2. `search` — the search as a loop that counts its rounds and gives up where an addition would
     leave the 32-bit range. It never gives up there, takes as many rounds as the identifier's rank
     says and never more than there are identifiers, and agrees with `allocate`.
  3. `Issued` — identifiers handed out one after the other, whatever happens to the components in
     between. They increase strictly as long as something above the last one is free.
-/
set_option autoImplicit false

namespace ClickGrant

/-- The identifier that stands for no component. -/
def invalidId : ComponentId := -1

namespace ComponentTable

variable {t t' : ComponentTable} {cursor id other : ComponentId} {attempts : Nat}

/-- How many identifiers come before `id` on the way round the cycle that starts at `cursor`. -/
def rank (cursor id : ComponentId) : Nat :=
  if cursor ≤ id then (id.toInt - cursor.toInt).toNat
  else (lastId.toInt - cursor.toInt + 1 + (id.toInt - baseId.toInt)).toNat

/-! ## Around the cycle -/

theorem toInt_baseId : baseId.toInt = 1000 := by decide

theorem toInt_lastId : lastId.toInt = 2147483647 := by decide

theorem idCount_eq : idCount = 2147482648 := by decide

theorem le_iff_toInt : baseId ≤ id ↔ 1000 ≤ id.toInt := by
  rw [Int32.le_iff_toInt_le, toInt_baseId]

theorem toInt_le_last (id : ComponentId) : id.toInt ≤ 2147483647 := by
  have below := id.toInt_lt
  omega

/-- The step to the next identifier stays in the 32-bit range. -/
theorem toInt_successor_eq (id : ComponentId) :
    (successor id).toInt = if id = lastId then 1000 else id.toInt + 1 := by
  unfold successor
  split
  next => exact toInt_baseId
  next other =>
    have one : (1 : Int32).toInt = 1 := by decide
    have ne : id.toInt ≠ 2147483647 := fun same => other (Int32.toInt_inj.mp (same.trans toInt_lastId.symm))
    have above := id.le_toInt
    have below := toInt_le_last id
    rw [Int32.toInt_add, one, Int.bmod_eq_of_le]
    all_goals omega

/-- `rank` in whole numbers. -/
theorem rank_eq (cursor id : ComponentId) : rank cursor id =
    if cursor.toInt ≤ id.toInt then (id.toInt - cursor.toInt).toNat
    else (2147483647 - cursor.toInt + 1 + (id.toInt - 1000)).toNat := by
  unfold rank
  simp only [Int32.le_iff_toInt_le, toInt_lastId, toInt_baseId]

@[simp] theorem rank_self (id : ComponentId) : rank id id = 0 := by
  rw [rank_eq, if_pos (Int.le_refl _), Int.sub_self, Int.toNat_zero]

theorem rank_lt_idCount (low : baseId ≤ cursor) (inCycle : baseId ≤ id) : rank cursor id < idCount := by
  rw [le_iff_toInt] at low inCycle
  have := toInt_le_last id
  rw [rank_eq, idCount_eq]
  split <;> omega

/-- All other identifiers are one step nearer from the next one. -/
theorem rank_successor (low : baseId ≤ cursor) (inCycle : baseId ≤ id) (ne : id ≠ cursor) :
    rank cursor id = rank (successor cursor) id + 1 := by
  rw [le_iff_toInt] at low inCycle
  have differ : id.toInt ≠ cursor.toInt := fun same => ne (Int32.toInt_inj.mp same)
  have := toInt_le_last id
  have := toInt_le_last cursor
  rw [rank_eq, rank_eq, toInt_successor_eq]
  by_cases last : cursor = lastId
  · have : cursor.toInt = 2147483647 := last ▸ toInt_lastId
    rw [if_pos last, if_pos inCycle]
    split <;> omega
  · have : cursor.toInt ≠ 2147483647 := fun same => last (Int32.toInt_inj.mp (same.trans toInt_lastId.symm))
    rw [if_neg last]
    split <;> split <;> omega

/-- No two identifiers have the same place. -/
theorem eq_of_rank_eq (low : baseId ≤ cursor) (inCycle : baseId ≤ id) (inCycle' : baseId ≤ other)
    (same : rank cursor id = rank cursor other) : id = other := by
  rw [le_iff_toInt] at low inCycle inCycle'
  have := toInt_le_last id
  have := toInt_le_last other
  have := toInt_le_last cursor
  rw [rank_eq, rank_eq] at same
  refine Int32.toInt_inj.mp ?_
  split at same <;> split at same <;> omega

/-! ## The first free identifier -/

/-- An identifier is in use exactly if some process has a component of it. -/
theorem isLive_iff : t.isLive id = true ↔ id ∈ t.ids := by
  constructor
  · intro live
    by_contra free
    obtain ⟨p, listed, found⟩ := List.any_eq_true.mp live
    obtain ⟨e, he⟩ := Option.isSome_iff_exists.mp found
    have same : e.id = id := by simpa using List.find?_some he
    exact free (List.mem_flatMap.mpr ⟨p, listed, List.mem_map.mpr ⟨e, List.mem_of_find?_eq_some he, same⟩⟩)
  · intro listed
    by_contra free
    exact id_notMem_ids (Bool.eq_false_iff.mpr free) listed

/-- Of the identifiers that no process has a component of, the one that the way round the cycle from
`cursor` comes to first. -/
structure FirstFree (t : ComponentTable) (cursor id : ComponentId) : Prop where
  inCycle : baseId ≤ id
  free : id ∉ t.ids
  first : ∀ other, baseId ≤ other → other ∉ t.ids → rank cursor id ≤ rank cursor other

theorem FirstFree.unique (low : baseId ≤ cursor) (one : t.FirstFree cursor id)
    (two : t.FirstFree cursor other) : id = other :=
  eq_of_rank_eq low one.inCycle two.inCycle
    (Nat.le_antisymm (one.first other two.inCycle two.free) (two.first id one.inCycle one.free))

/-- A search finds the first free identifier if it goes that far. -/
theorem freeFrom_eq_some_iff : ∀ {attempts : Nat} {cursor : ComponentId}, baseId ≤ cursor →
    (t.freeFrom attempts cursor = some id ↔ t.FirstFree cursor id ∧ rank cursor id < attempts)
  | 0, cursor, _ => by simp [freeFrom]
  | attempts + 1, cursor, low => by
    have rest : t.freeFrom attempts (successor cursor) = some id ↔
        t.FirstFree (successor cursor) id ∧ rank (successor cursor) id < attempts :=
      freeFrom_eq_some_iff (le_successor low)
    unfold freeFrom
    by_cases live : t.isLive cursor = true
    · rw [if_pos live, rest]
      have used : cursor ∈ t.ids := isLive_iff.mp live
      -- whatever is free is not the cursor, so one step brings all of it nearer by one
      have nearer {other : ComponentId} (inCycle : baseId ≤ other) (free : other ∉ t.ids) :
          rank cursor other = rank (successor cursor) other + 1 :=
        rank_successor low inCycle fun same => free (same ▸ used)
      constructor
      · rintro ⟨⟨inCycle, free, first⟩, near⟩
        refine ⟨⟨inCycle, free, fun other inCycle' free' => ?_⟩, ?_⟩
        · rw [nearer inCycle free, nearer inCycle' free']
          exact Nat.succ_le_succ (first other inCycle' free')
        · rw [nearer inCycle free]
          exact Nat.succ_lt_succ near
      · rintro ⟨⟨inCycle, free, first⟩, near⟩
        rw [nearer inCycle free] at near
        refine ⟨⟨inCycle, free, fun other inCycle' free' => ?_⟩, Nat.lt_of_succ_lt_succ near⟩
        have := first other inCycle' free'
        rw [nearer inCycle free, nearer inCycle' free'] at this
        exact Nat.le_of_succ_le_succ this
    · rw [if_neg live]
      have here : t.FirstFree cursor cursor :=
        ⟨low, fun listed => live (isLive_iff.mpr listed), fun _ _ _ => rank_self cursor ▸ Nat.zero_le _⟩
      constructor
      · intro found
        cases found
        exact ⟨here, by rw [rank_self]; exact Nat.succ_pos _⟩
      · rintro ⟨first, -⟩
        rw [here.unique low first]

/-- As many attempts as there are identifiers reach the first free one. -/
theorem freeFrom_idCount (low : baseId ≤ cursor) :
    t.freeFrom idCount cursor = some id ↔ t.FirstFree cursor id := by
  rw [freeFrom_eq_some_iff low]
  exact and_iff_left_of_imp fun first => rank_lt_idCount low first.inCycle

theorem allocate_eq_some_iff (low : baseId ≤ t.nextId) :
    t.allocate = some (id, t') ↔ t.FirstFree t.nextId id ∧ t' = { t with nextId := successor id } := by
  unfold allocate
  rw [Option.map_eq_some_iff]
  constructor
  · rintro ⟨id', found, same⟩
    cases same
    exact ⟨(freeFrom_idCount low).mp found, rfl⟩
  · rintro ⟨first, rfl⟩
    exact ⟨id, (freeFrom_idCount low).mpr first, rfl⟩

/-- If any identifier is free, one of them comes first. -/
theorem exists_firstFree (cursor : ComponentId) (free : ∃ id, baseId ≤ id ∧ id ∉ t.ids) :
    ∃ id, t.FirstFree cursor id := by
  obtain ⟨id, ⟨inCycle, free⟩, least⟩ :=
    exists_minimalFor_of_wellFoundedLT (fun id => baseId ≤ id ∧ id ∉ t.ids) (rank cursor) free
  refine ⟨id, inCycle, free, fun other inCycle' free' => ?_⟩
  rcases Nat.le_total (rank cursor id) (rank cursor other) with le | ge
  · exact le
  · exact least ⟨inCycle', free'⟩ ge

theorem allocate_eq_none_iff (low : baseId ≤ t.nextId) :
    t.allocate = none ↔ ∀ id, baseId ≤ id → id ∈ t.ids := by
  unfold allocate
  rw [Option.map_eq_none_iff]
  constructor
  · intro nothing id inCycle
    by_contra free
    obtain ⟨first, isFirst⟩ := exists_firstFree t.nextId ⟨id, inCycle, free⟩
    rw [(freeFrom_idCount low).mpr isFirst] at nothing
    cases nothing
  · intro full
    refine Option.eq_none_iff_forall_ne_some.mpr fun id found => ?_
    obtain ⟨inCycle, free, -⟩ := (freeFrom_idCount low).mp found
    exact free (full id inCycle)

/-! ## The search as a loop -/

/-- The identifier after another one, unless the addition leaves the 32-bit range. -/
def next? (id : ComponentId) : Option ComponentId :=
  if id = lastId then some baseId
  else if id.toInt + 1 < 2147483648 then some (id + 1)
  else none

/-- How a search ends. -/
structure Search where
  found : Option ComponentId
  cursor : ComponentId
  /-- How often the loop was entered. -/
  rounds : Nat

/-- The search with at most so many rounds; nothing if an addition overflows. Every round moves the
cursor before it looks at the identifier that the cursor stood at. -/
def search (t : ComponentTable) : (attempts : Nat) → (cursor : ComponentId) → Option Search
  | 0, cursor => some { found := none, cursor, rounds := 0 }
  | attempts + 1, cursor => do
    let next ← next? cursor
    if cursor ≠ invalidId && !t.isLive cursor then
      return { found := some cursor, cursor := next, rounds := 1 }
    else
      let later ← search t attempts next
      return { later with rounds := later.rounds + 1 }

/-- No step along the cycle overflows. -/
theorem next?_eq (cursor : ComponentId) : next? cursor = some (successor cursor) := by
  unfold next? successor
  split
  next => rfl
  next other =>
    have ne : cursor.toInt ≠ 2147483647 := fun same =>
      other (Int32.toInt_inj.mp (same.trans toInt_lastId.symm))
    have below := toInt_le_last cursor
    exact if_pos (by omega)

theorem ne_invalidId (inCycle : baseId ≤ id) : id ≠ invalidId := by
  rintro rfl
  exact absurd inCycle (by decide)

/-- How many rounds a search takes. -/
def roundCount (t : ComponentTable) (attempts : Nat) (cursor : ComponentId) : Nat :=
  match t.freeFrom attempts cursor with
  | some id => rank cursor id + 1
  | none => attempts

/-- The search runs through, and ends as the walk of the cursor does. -/
theorem search_eq : ∀ (attempts : Nat) {cursor : ComponentId}, baseId ≤ cursor →
    t.search attempts cursor =
      some ⟨(t.walk attempts cursor).1, (t.walk attempts cursor).2, t.roundCount attempts cursor⟩
  | 0, cursor, _ => rfl
  | attempts + 1, cursor, low => by
    have rest := search_eq attempts (le_successor low)
    unfold search
    rw [next?_eq]
    have valid : (decide (cursor ≠ invalidId)) = true := decide_eq_true (ne_invalidId low)
    rw [valid, Bool.true_and]
    cases live : t.isLive cursor with
    | false =>
      have free : t.freeFrom (attempts + 1) cursor = some cursor := by simp [freeFrom, live]
      simp [walk, roundCount, free, live]
    | true =>
      -- what is found further on is not the cursor, and one step nearer to the next identifier
      have longer : t.roundCount (attempts + 1) cursor = t.roundCount attempts (successor cursor) + 1 := by
        have same : t.freeFrom (attempts + 1) cursor = t.freeFrom attempts (successor cursor) := by
          simp [freeFrom, live]
        unfold roundCount
        rw [same]
        cases found : t.freeFrom attempts (successor cursor) with
        | none => rfl
        | some id =>
          obtain ⟨⟨inCycle, free, -⟩, -⟩ := (freeFrom_eq_some_iff (le_successor low)).mp found
          have other : id ≠ cursor := fun here => free (here ▸ isLive_iff.mp live)
          show rank cursor id + 1 = rank (successor cursor) id + 1 + 1
          rw [rank_successor low inCycle other]
      simp [walk, live, rest, longer]

/-- The search that the table makes ends as `allocate` says. -/
theorem search_allocate (low : baseId ≤ t.nextId) :
    t.search idCount t.nextId = some (match t.allocate with
      | some (id, t') => ⟨some id, t'.nextId, rank t.nextId id + 1⟩
      | none => ⟨none, t.nextId, idCount⟩) := by
  rw [search_eq idCount low, walk_eq_allocate low, roundCount, allocate]
  cases t.freeFrom idCount t.nextId with
  | none => rfl
  | some id => rfl

/-! ## Identifiers handed out one after the other -/

/-- The identifiers that are handed out from a cursor on, each with the table it was looked for in.
Between two of them components may come and go; the cursor stays where the last search left it. -/
inductive Issued : (cursor : ComponentId) → List (ComponentTable × ComponentId) → Prop where
  | nothing (cursor : ComponentId) : Issued cursor []
  | next {cursor id : ComponentId} {t t' : ComponentTable} {rest : List (ComponentTable × ComponentId)}
      (start : t.nextId = cursor) (found : t.allocate = some (id, t')) (later : Issued t'.nextId rest) :
      Issued cursor ((t, id) :: rest)

/-- When the later identifier was looked for, there was a free one above the earlier. -/
def RoomAbove (earlier later : ComponentTable × ComponentId) : Prop :=
  ∃ id, earlier.2 < id ∧ id ∉ later.1.ids

/-- A search behind `id` comes to a larger identifier exactly if a larger one is free. -/
theorem lt_iff_free_above (inCycle : baseId ≤ id) (first : t.FirstFree (successor id) other) :
    id < other ↔ ∃ above, id < above ∧ above ∉ t.ids := by
  constructor
  · exact fun larger => ⟨other, larger, first.free⟩
  · rintro ⟨above, larger, free⟩
    have inCycle' := first.inCycle
    have near := first.first above (Int32.le_of_lt (Int32.lt_of_le_of_lt inCycle larger)) free
    have bound := toInt_le_last above
    rw [Int32.lt_iff_toInt_lt] at larger ⊢
    rw [le_iff_toInt] at inCycle inCycle'
    have below : id ≠ lastId := by
      rintro rfl
      rw [toInt_lastId] at larger
      omega
    rw [rank_eq, rank_eq, toInt_successor_eq, if_neg below] at near
    split at near <;> split at near <;> omega

theorem Issued.isChain_iff {issued : List (ComponentTable × ComponentId)} (low : baseId ≤ cursor)
    (run : Issued cursor issued) : issued.IsChain (·.2 < ·.2) ↔ issued.IsChain RoomAbove := by
  induction run with
  | nothing => simp
  | @next cursor id t t' rest start found later ih =>
    subst start
    obtain ⟨first, rfl⟩ := (allocate_eq_some_iff low).mp found
    have ih := ih (le_successor first.inCycle)
    cases later with
    | nothing => simp
    | @next _ other u u' rest start found' later =>
      have start : u.nextId = successor id := start
      have low' : baseId ≤ u.nextId := start ▸ le_successor first.inCycle
      have second := ((allocate_eq_some_iff low').mp found').1
      rw [start] at second
      rw [List.isChain_cons_cons, List.isChain_cons_cons, ih]
      exact and_congr_left fun _ => lt_iff_free_above first.inCycle second

/-- **What is handed out.** The search gives the first free identifier of the cycle and leaves the
cursor behind it; if none is free it gives nothing and leaves the cursor where it was. It is never
the invalid identifier. No addition overflows on the way, and there are not more rounds than
identifiers. Identifiers handed out one after the other increase exactly as long as there is room
above. -/
theorem hands_out_first_free (low : baseId ≤ t.nextId) :
    (∀ id t', t.allocate = some (id, t') ↔
      t.FirstFree t.nextId id ∧ t' = { t with nextId := successor id }) ∧
    (t.allocate = none ↔ ∀ id, baseId ≤ id → id ∈ t.ids) ∧
    (∀ id t', t.allocate = some (id, t') → id ≠ invalidId) ∧
    (∃ s, t.search idCount t.nextId = some s ∧ s.rounds ≤ idCount ∧
      s = match t.allocate with
        | some (id, t') => ⟨some id, t'.nextId, rank t.nextId id + 1⟩
        | none => ⟨none, t.nextId, idCount⟩) ∧
    ∀ issued, Issued t.nextId issued →
      ((issued.map (·.2)).Pairwise (· < ·) ↔ issued.IsChain RoomAbove) := by
  refine ⟨fun id t' => allocate_eq_some_iff low, allocate_eq_none_iff low, ?_,
    ⟨_, search_allocate low, ?_, rfl⟩, ?_⟩
  · intro id t' found
    exact ne_invalidId ((allocate_eq_some_iff low).mp found).1.inCycle
  · cases found : t.allocate with
    | none => exact Nat.le_refl _
    | some result => exact rank_lt_idCount low ((allocate_eq_some_iff low).mp found).1.inCycle
  · intro issued run
    rw [← run.isChain_iff low, ← List.isChain_iff_pairwise, List.isChain_map]

/-- The last identifier and the base are in use, each in a process of its own, and the cursor stands
at the last identifier. -/
def crowded : ComponentTable where
  processes := ⟨[(4242, { Registration.start 537 with components := [⟨lastId, Registry.Scene.saveButton⟩] }),
    (4343, { Registration.start 538 with components := [⟨baseId, Registry.Scene.locationButton⟩] })]⟩
  nextId := lastId

/-- The search goes round the end of the cycle and past both of them. -/
theorem hands_out_first_free_crowded :
    baseId ≤ crowded.nextId ∧ crowded.FirstFree lastId 1001 ∧
      crowded.search idCount lastId = some ⟨some 1001, 1002, 3⟩ := by
  have low : baseId ≤ crowded.nextId := by decide
  obtain ⟨given, -, -, ⟨s, ran, -, ends⟩, -⟩ := hands_out_first_free low
  have found : crowded.allocate = some (1001, { crowded with nextId := 1002 }) := rfl
  rw [found] at ends
  exact ⟨low, ((given _ _).mp found).1, ran.trans (congrArg some ends)⟩

end ComponentTable

end ClickGrant
