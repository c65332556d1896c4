import ClickGrant.Proofs.Grant.Balance

/-!
# Taking back what has just been given

A grant that is taken back at once leaves no trace but in the counters. What is proved:
  1. `revokeSave_grantSave` — a save grant is taken back with its serial, its count and its timer,
     and nobody else's.
  2. `dropCapability_addCapability` — so is a capability that was not held before. The deferred
     revocation goes with an identity's last kind, but then none was pending: `Tidy`.
  3. `alike_addCapability` — a capability that was held before is still held, and adding it has
     changed nothing.

What it rests on is that the next serial is a new one and that no slot is handed out twice, as in
every balanced state.
-/
set_option autoImplicit false

namespace ClickGrant

namespace Assoc

variable {κ α : Type} [DecidableEq κ] {m : Assoc κ α} {k : κ} {v : α}

theorem put_put (k : κ) (v v' : α) : ∀ l : List (κ × α), put k v (put k v' l) = put k v l
  | [] => by simp [put]
  | (k₀, v₀) :: rest => by by_cases here : k₀ = k <;> simp [put, here, put_put k v v' rest]

@[simp] theorem set_set (m : Assoc κ α) (k : κ) (v v' : α) : (m.set k v').set k v = m.set k v :=
  congrArg Assoc.mk (put_put k v v' m.entries)

theorem put_of_find : ∀ {l : List (κ × α)}, find k l = some v → put k v l = l
  | [], h => by cases h
  | (k₀, v₀) :: rest, h => by
    unfold find at h
    unfold put
    split at h
    next here => cases h; rw [if_pos here, here]
    next other => rw [if_neg other, put_of_find h]

/-- A value that is set to what it is. -/
theorem set_of_get? (h : m.get? k = some v) : m.set k v = m := congrArg Assoc.mk (put_of_find h)

theorem filter_put_of_find_none :
    ∀ {l : List (κ × α)}, find k l = none → (put k v l).filter (·.1 ≠ k) = l
  | [], _ => by simp [put]
  | (k₀, v₀) :: rest, h => by
    unfold find at h
    unfold put
    split at h
    next => cases h
    next other =>
      rw [if_neg other, List.filter_cons_of_pos (by simpa using other), filter_put_of_find_none h]

/-- A new key that is taken out again. -/
theorem erase_set_of_absent (absent : m.get? k = none) (v : α) : (m.set k v).erase k = m :=
  congrArg Assoc.mk (filter_put_of_find_none absent)

end Assoc

namespace TimerQueue

variable {q : TimerQueue} {key : TimerKey}

theorem get?_of_not_contains (absent : q.contains key = false) : q.slots.get? key = none := by
  unfold contains Assoc.contains at absent
  cases found : q.slots.get? key with
  | none => rfl
  | some slot => rw [found] at absent; cases absent

/-- Removing what is not pending. -/
theorem remove_of_absent (absent : q.contains key = false) : q.remove key = q := by
  unfold remove
  rw [get?_of_not_contains absent]

/-- A timer that is removed as soon as it has been scheduled. -/
theorem Paired.remove_schedule (paired : q.Paired) (absent : q.contains key = false) (deadline : UInt64)
    (event : TimerEvent) :
    (q.schedule key deadline event).remove key = { q with nextSeq := q.nextSeq + 1 } := by
  have scheduled : q.schedule key deadline event =
      { entries := place (q.scheduled key deadline event) q.entries
        slots := q.slots.set key ⟨deadline, q.nextSeq⟩
        nextSeq := q.nextSeq + 1 } := by
    unfold TimerQueue.schedule
    rw [remove_of_absent absent]
    rfl
  -- without the slot that is handed out the entry is gone again, and no other entry stands in this slot
  have placed : (place (q.scheduled key deadline event) q.entries).filter (·.slot ≠ ⟨deadline, q.nextSeq⟩) =
      q.entries.filter (·.slot ≠ ⟨deadline, q.nextSeq⟩) :=
    filter_place (by simp [TimerQueue.scheduled]) fun e' _ same => by simp [same, TimerQueue.scheduled]
  have others : q.entries.filter (·.slot ≠ ⟨deadline, q.nextSeq⟩) = q.entries := by
    refine List.filter_eq_self.mpr fun e he => decide_eq_true fun same => ?_
    have before := paired.earlier e he
    rw [same] at before
    exact UInt64.lt_irrefl _ before
  unfold TimerQueue.remove
  rw [get?_schedule, if_pos rfl, nextSeq_remove, scheduled]
  dsimp only
  rw [Assoc.erase_set_of_absent (get?_of_not_contains absent)]
  congr 1
  exact placed.trans others

end TimerQueue

theorem Kind.erase_insert {k : Kind} : ∀ {ks : List Kind}, k ∉ ks → (k.insert ks).erase k = ks
  | [], _ => by simp [Kind.insert]
  | k' :: rest, new => by
    obtain ⟨other, new⟩ := not_or.mp (List.mem_cons.not.mp new)
    unfold Kind.insert
    rw [if_neg other]
    split
    · exact List.erase_cons_head ..
    · rw [List.erase_cons_tail (by simpa using Ne.symm other), erase_insert new]

namespace GrantState

variable {g g' g'' : GrantState} {token : Token} {d : GrantDelays} {kind : Kind} {live : List SaveGrant}
  {events : List TimerEvent}

/-! ## Save grants -/

/-- The next serial is not outstanding. -/
theorem Balanced.next_not_mem (balanced : Balanced d live events g) (token : Token) :
    g.ledger.nextSerial ∉ g.ledger.serialsOf token := by
  intro outstanding
  obtain ⟨x, hx, -, same⟩ := balanced.outstanding_iff.mp outstanding
  have older := balanced.spent x hx
  rw [same] at older
  exact UInt64.lt_irrefl _ older

/-- A save grant that is taken back at once has only counted the counters up. -/
theorem revokeSave_grantSave (balanced : Balanced d live events g) (tidy : g.Tidy) (token : Token) :
    (revokeSave token g.ledger.nextSerial (grantSave d token g).2).2 =
      { g with
        ledger := { g.ledger with nextSerial := g.ledger.nextSerial + 1 }
        timers := { g.timers with nextSeq := g.timers.nextSeq + 1 } } := by
  have new := balanced.next_not_mem token
  have absent : g.timers.contains (saveKey token g.ledger.nextSerial) = false := by
    rw [← Bool.not_eq_true]
    exact fun pending => new (balanced.sound.expiring token _ pending)
  have timers : (grantSave d token g).2.timers.remove (saveKey token g.ledger.nextSerial) =
      { g.timers with nextSeq := g.timers.nextSeq + 1 } := balanced.paired.remove_schedule absent _ _
  obtain ⟨gone, -⟩ | ⟨record, found, -, taken⟩ :=
    revokeSave_cases token g.ledger.nextSerial (grantSave d token g).2
  · rw [serialsOf_grantSave, if_pos rfl] at gone
    exact absurd (List.mem_append_right _ (List.mem_singleton.mpr rfl)) gone
  change (g.ledger.saves.set token _).get? token = some record at found
  rw [Assoc.get?_set, if_pos rfl] at found
  have written : (grantSave d token g).2.ledger.saves = g.ledger.saves.set token record :=
    congrArg (g.ledger.saves.set token) (Option.some.inj found)
  have saves : (if record.count - 1 = 0 then (g.ledger.saves.set token record).erase token
      else (g.ledger.saves.set token record).set token
        ⟨record.count - 1, record.serials.erase g.ledger.nextSerial⟩) = g.ledger.saves := by
    cases held : g.ledger.saves.get? token with
    | none =>
      rw [Assoc.getD, held] at found
      obtain rfl := Option.some.inj found
      exact (if_pos rfl).trans (Assoc.erase_set_of_absent held _)
    | some before =>
      rw [Assoc.getD, held] at found
      obtain rfl : (⟨before.count + 1, before.serials ++ [g.ledger.nextSerial]⟩ : SaveRecord) = record :=
        Option.some.inj found
      -- a record that was there has a grant left
      have left : ¬before.count = 0 := by
        rw [balanced.sound.counted token before held]
        exact fun none => tidy.saves token before held (List.length_eq_zero_iff.mp none)
      have others : g.ledger.nextSerial ∉ before.serials := by
        rw [Ledger.serialsOf, held] at new
        exact new
      have back : (before.serials ++ [g.ledger.nextSerial]).erase g.ledger.nextSerial = before.serials := by
        rw [List.erase_append_right _ others, List.erase_cons_head, List.append_nil]
      dsimp only
      rw [Nat.add_sub_cancel, if_neg left, Assoc.set_set, back]
      exact Assoc.set_of_get? held
  rw [taken, timers, written, saves]
  rfl

/-! ## Capabilities -/

theorem hasCapability_addCapability (token : Token) (kind : Kind) (g : GrantState) :
    (addCapability token kind g).2.ledger.hasCapability token kind = true := by
  rw [Ledger.hasCapability, kindsOf_addCapability, if_pos rfl, List.contains_iff_mem]
  exact (Kind.mem_insert kind kind _).mpr (.inl rfl)

/-- A capability that was not held, and is taken back at once, leaves no trace. -/
theorem dropCapability_addCapability (tidy : g.Tidy) (new : g.ledger.hasCapability token kind = false) :
    dropCapability token kind (addCapability token kind g).2 = (true, g) := by
  have new : kind ∉ g.ledger.kindsOf token := by
    rw [← List.contains_iff_mem]
    exact Bool.not_eq_true _ ▸ new
  have kinds : (addCapability token kind g).2.ledger.kindsOf token = kind.insert (g.ledger.kindsOf token) := by
    rw [kindsOf_addCapability, if_pos rfl]
  have written : (addCapability token kind g).2.ledger.capabilities =
      g.ledger.capabilities.set token (kind.insert (g.ledger.kindsOf token)) := rfl
  unfold dropCapability
  rw [if_pos (hasCapability_addCapability token kind g), kinds, Kind.erase_insert new, written]
  dsimp only
  cases before : g.ledger.capabilities.get? token with
  | none =>
    have nothing : g.ledger.kindsOf token = [] := by rw [Ledger.kindsOf, Assoc.getD, before]; rfl
    -- an identity that holds nothing has no revocation deferred
    have absent : g.timers.contains (backgroundKey token) = false := by
      rw [← Bool.not_eq_true]
      intro pending
      have holds := tidy.deferring token pending
      rw [Assoc.contains, before] at holds
      cases holds
    have timers : (addCapability token kind g).2.timers.remove (backgroundKey token) = g.timers :=
      TimerQueue.remove_of_absent absent
    rw [timers, Assoc.erase_set_of_absent before, nothing]
    rfl
  | some ks =>
    have same : g.ledger.kindsOf token = ks := by rw [Ledger.kindsOf, Assoc.getD, before]; rfl
    have left : ¬ks.isEmpty = true := fun h => tidy.capabilities token ks before (List.isEmpty_iff.mp h)
    rw [same, if_neg left, Assoc.set_set, Assoc.set_of_get? before]
    rfl

/-! ## Nothing is different -/

/-- Everybody holds the same, and the same timers are pending. -/
structure Alike (g g' : GrantState) : Prop where
  serials : ∀ token, g'.ledger.serialsOf token = g.ledger.serialsOf token
  counts : ∀ token, g'.ledger.saveCount token = g.ledger.saveCount token
  capabilities : ∀ token kind, g'.ledger.hasCapability token kind = g.ledger.hasCapability token kind
  pending : g'.timers.entries = g.timers.entries
  deadlines : ∀ key, g'.timers.deadlineOf key = g.timers.deadlineOf key

theorem Alike.refl (g : GrantState) : g.Alike g :=
  ⟨fun _ => rfl, fun _ => rfl, fun _ _ => rfl, rfl, fun _ => rfl⟩

theorem Alike.trans (h₁ : g.Alike g') (h₂ : g'.Alike g'') : g.Alike g'' where
  serials := fun token => (h₂.serials token).trans (h₁.serials token)
  counts := fun token => (h₂.counts token).trans (h₁.counts token)
  capabilities := fun token kind => (h₂.capabilities token kind).trans (h₁.capabilities token kind)
  pending := h₂.pending.trans h₁.pending
  deadlines := fun key => (h₂.deadlines key).trans (h₁.deadlines key)

theorem alike_revokeSave_grantSave (balanced : Balanced d live events g) (tidy : g.Tidy) (token : Token) :
    g.Alike (revokeSave token g.ledger.nextSerial (grantSave d token g).2).2 := by
  rw [revokeSave_grantSave balanced tidy token]
  exact ⟨fun _ => rfl, fun _ => rfl, fun _ _ => rfl, rfl, fun _ => rfl⟩

/-- A capability that is held already is held once more. -/
theorem alike_addCapability (held : g.ledger.hasCapability token kind = true) :
    g.Alike (addCapability token kind g).2 where
  serials := fun _ => rfl
  counts := fun _ => rfl
  capabilities := by
    intro token' kind'
    unfold Ledger.hasCapability at held ⊢
    rw [kindsOf_addCapability]
    split
    next same =>
      subst same
      rw [Bool.eq_iff_iff, List.contains_iff_mem, List.contains_iff_mem, Kind.mem_insert]
      rw [List.contains_iff_mem] at held
      exact ⟨fun h => h.elim (fun same => same ▸ held) id, .inr⟩
    next => rfl
  pending := rfl
  deadlines := fun _ => rfl

end GrantState

end ClickGrant
