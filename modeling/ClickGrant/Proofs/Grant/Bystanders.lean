import ClickGrant.Proofs.Grant.Balance

/-!
# What the grants of one identity mean to the others

Ledger and timers are kept for all identities together, and what is done for one of them must leave
the others alone. `GrantState.Spares token g g'` says that an identity has the same record of save
grants, the same capabilities and the same timers in `g'` as in `g`. What is proved:
  1. `spares_grantSave` and what follows it — each change for one identity spares every other one.
     Keys of timers name their identity, so no key of one is a key of another.
  2. `Spares.mem_entries_iff` — an identity that is spared has the same entries in the queue, if the
     two indexes of the queue are paired before and after.
-/
set_option autoImplicit false

namespace ClickGrant

/-- The identity that a timer is for; the idle exit is for nobody. -/
def TimerEvent.owner? : TimerEvent → Option Token
  | .saveExpired token _ => some token
  | .backgroundExpired token => some token
  | .idleExpired => none

theorem TimerEvent.key_ne_of_owner {event event' : TimerEvent} (other : event.owner? ≠ event'.owner?) :
    event.key ≠ event'.key := by
  intro same
  have same := TimerEvent.key_inj.mp same
  exact other (congrArg TimerEvent.owner? same)

namespace GrantState

variable {g g' g'' : GrantState} {token other : Token} {event : TimerEvent}

/-- An identity holds what it held, and has the timers that it had. -/
structure Spares (token : Token) (g g' : GrantState) : Prop where
  saves : g'.ledger.saves.get? token = g.ledger.saves.get? token
  capabilities : g'.ledger.capabilities.get? token = g.ledger.capabilities.get? token
  timers : ∀ event : TimerEvent, event.owner? = some token →
    g'.timers.slots.get? event.key = g.timers.slots.get? event.key

theorem Spares.refl (token : Token) (g : GrantState) : Spares token g g :=
  ⟨rfl, rfl, fun _ _ => rfl⟩

theorem Spares.trans (h₁ : Spares token g g') (h₂ : Spares token g' g'') : Spares token g g'' where
  saves := h₂.saves.trans h₁.saves
  capabilities := h₂.capabilities.trans h₁.capabilities
  timers := fun event owned => (h₂.timers event owned).trans (h₁.timers event owned)

/-! ## Timers of others -/

/-- A timer that is not the identity's is cancelled. -/
theorem spares_remove (event : TimerEvent) (foreign : event.owner? ≠ some token) (g : GrantState) :
    Spares token g { g with timers := g.timers.remove event.key } where
  saves := rfl
  capabilities := rfl
  timers := by
    intro event' owned
    have apart : event.key ≠ event'.key := TimerEvent.key_ne_of_owner (owned ▸ foreign)
    show (g.timers.remove event.key).slots.get? event'.key = _
    rw [TimerQueue.get?_remove, if_neg apart]

/-- A timer that is not the identity's is set. -/
theorem spares_schedule (event : TimerEvent) (foreign : event.owner? ≠ some token) (deadline : UInt64)
    (g : GrantState) :
    Spares token g { g with timers := g.timers.schedule event.key deadline event } where
  saves := rfl
  capabilities := rfl
  timers := by
    intro event' owned
    have apart : event.key ≠ event'.key := TimerEvent.key_ne_of_owner (owned ▸ foreign)
    show (g.timers.schedule event.key deadline event).slots.get? event'.key = _
    rw [TimerQueue.get?_schedule, if_neg apart]

/-! ## Changes for another identity -/

section

variable (ne : other ≠ token) (g : GrantState)

include ne

theorem save_foreign (serial : UInt64) : (TimerEvent.saveExpired other serial).owner? ≠ some token :=
  fun same => ne (Option.some.inj same)

theorem background_foreign : (TimerEvent.backgroundExpired other).owner? ≠ some token :=
  fun same => ne (Option.some.inj same)

theorem spares_grantSave (d : GrantDelays) : Spares token g (grantSave d other g).2 where
  saves := by
    show (g.ledger.saves.set other _).get? token = _
    rw [Assoc.get?_set, if_neg ne]
  capabilities := rfl
  timers := (spares_schedule (.saveExpired other g.ledger.nextSerial) (save_foreign ne _) _ g).timers

theorem spares_revokeSaves : Spares token g (revokeSaves other g) := by
  have timers : Spares token g { g with timers := (revokeSaves other g).timers } :=
    revokeSaves_keeps (fun q => Spares token g { g with timers := q })
      (fun q serial spared =>
        spared.trans (spares_remove (.saveExpired other serial) (save_foreign ne serial) _))
      (.refl token g)
  obtain ⟨same, -⟩ | taken := revokeSaves_cases other g
  · rw [same]
    exact .refl token g
  · rw [taken] at timers ⊢
    refine ⟨?_, rfl, timers.timers⟩
    show (g.ledger.saves.erase other).get? token = _
    rw [Assoc.get?_erase, if_neg ne]

theorem spares_addCapability (kind : Kind) : Spares token g (addCapability other kind g).2 where
  saves := rfl
  capabilities := by
    show (g.ledger.capabilities.set other _).get? token = _
    rw [Assoc.get?_set, if_neg ne]
  timers := fun _ _ => rfl

theorem spares_dropCapabilities : Spares token g (dropCapabilities other g).2 where
  saves := rfl
  capabilities := by
    show (g.ledger.capabilities.erase other).get? token = _
    rw [Assoc.get?_erase, if_neg ne]
  timers := (spares_remove (.backgroundExpired other) (background_foreign ne) g).timers

theorem spares_cancelDeferred : Spares token g (cancelDeferred other g).2 :=
  spares_remove (.backgroundExpired other) (background_foreign ne) g

theorem spares_deferRevocation (d : GrantDelays) : Spares token g (deferRevocation d other g).2 := by
  unfold deferRevocation
  split
  · exact spares_schedule (.backgroundExpired other) (background_foreign ne) _ g
  · exact .refl token g

end

/-! ## Entries -/

/-- The queue has the same entries of an identity that is spared. -/
theorem Spares.mem_entries_iff (spares : Spares token g g') (sound : g.timers.Sound)
    (sound' : g'.timers.Sound) (paired : g.timers.Paired) (paired' : g'.timers.Paired)
    {e : TimerEntry} (owned : e.event.owner? = some token) :
    e ∈ g'.timers.entries ↔ e ∈ g.timers.entries := by
  -- an entry is found by its key, and what is found by this key is the entry
  have found {q q' : TimerQueue} (sound : q.Sound) (sound' : q'.Sound) (paired : q.Paired)
      (paired' : q'.Paired) (same : q'.slots.get? e.event.key = q.slots.get? e.event.key)
      (listed : e ∈ q.entries) : e ∈ q'.entries := by
    have label := sound.labelled e listed
    have slot : q'.slots.get? e.key = some e.slot := by
      rw [label, same, ← label]
      exact paired.found listed
    obtain ⟨e', listed', key, here⟩ := (paired'.found_iff e.key e.slot).mp slot
    have event : e'.event = e.event := by
      have keys : e'.event.key = e.event.key := by
        rw [← sound'.labelled e' listed', key, label]
      exact TimerEvent.key_inj.mp keys
    have equal : e' = e := by
      obtain ⟨slot', key', event'⟩ := e'
      obtain rfl : slot' = e.slot := here
      obtain rfl : key' = e.key := key
      obtain rfl : event' = e.event := event
      rfl
    exact equal ▸ listed'
  have same := spares.timers e.event owned
  constructor
  · exact found sound' sound paired' paired same.symm
  · exact found sound sound' paired paired' same

end GrantState

end ClickGrant
