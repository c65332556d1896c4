import ClickGrant.Proofs.Grant.Ends
import ClickGrant.Proofs.Grant.Expiry
import ClickGrant.Standalone.Environment

/-!
# Runs of the grants

An `Act` is something that is asked of the grants, a move of the clock, forward or back, or the
going off of everything that is due. A `Turn` is one act carried out from one state to another,
with the exchanges it took and its reply, and a `Run` is a sequence of turns from the first state
on, in which the identity store may answer what it likes. What is proved:
  1. `Outcome.balanced`, `Outcome.tidy` — what each act does to the outstanding grants, and that
     none leaves an empty record behind.
  2. `Run.balanced` — so along a run the outstanding grants are some of those given in it, as long
     as the count of schedulings does not wrap around.
  3. `in_step_throughout` — so at the end of every such run, grants and timers are `InStep`: a save
     timer is pending exactly while its grant is outstanding, whatever the clock has done since.
-/
set_option autoImplicit false

namespace ClickGrant.GrantState

/-! ## Acts -/

/-- What can be asked of the grants, and what can happen to them. -/
inductive Act where
  | grantSave (token : Token)
  | revokeSave (token : Token) (serial : UInt64)
  | revokeSaves (token : Token)
  | grantCapability (token : Token) (kind : Kind)
  | revokeCapability (token : Token) (kind : Kind)
  | deferRevocation (token : Token)
  | cancelDeferred (token : Token)
  | revokeCapabilities (token : Token)
  | revokeEverything (token : Token)
  /-- What is due is taken and handled. -/
  | runDue
  /-- The clock moves. -/
  | setClock (now : UInt64)

/-- What an act is answered with. -/
inductive Reply where
  | done
  | serial (serial : UInt64)
  | answer (yes : Bool)
  | granted (result : Except Refusal Bool)
  | kinds (kinds : List Kind)

/-- A timer has gone off. -/
def handle (event : TimerEvent) : Op GrantState Unit :=
  match event with
  | .saveExpired token serial => modify fun g => (revokeSave token serial g).2
  | .backgroundExpired token => do
    let _ ← revokeCapabilities token
  | .idleExpired => pure ()

/-- Timers have gone off, one after the other. -/
def handleAll : List TimerEvent → Op GrantState Unit
  | [] => pure ()
  | event :: rest => do
    handle event
    handleAll rest

/-- Carries an act out. -/
def perform (d : GrantDelays) : Act → Op GrantState Reply
  | .grantSave token => do return .serial (← modifyGet (grantSave d token))
  | .revokeSave token serial => do return .answer (← modifyGet (revokeSave token serial))
  | .revokeSaves token => do
    modify (revokeSaves token)
    return .done
  | .grantCapability token kind => do return .granted (← (grantCapability token kind).run)
  | .revokeCapability token kind => do return .answer (← revokeCapability token kind)
  | .deferRevocation token => do return .answer (← modifyGet (deferRevocation d token))
  | .cancelDeferred token => do return .answer (← modifyGet (cancelDeferred token))
  | .revokeCapabilities token => do return .kinds (← revokeCapabilities token)
  | .revokeEverything token => do
    revokeEverything token
    return .done
  | .runDue => do
    let due ← modifyGet takeDue
    handleAll due
    return .done
  | .setClock now => do
    modify fun g => { g with now }
    return .done

/-- The ways in which each act can end. -/
inductive Outcome (d : GrantDelays) (g : GrantState) : Act → Reply → GrantState → Prop where
  | grantSave (token : Token) :
      Outcome d g (.grantSave token) (.serial g.ledger.nextSerial) (grantSave d token g).2
  | revokeSave (token : Token) (serial : UInt64) :
      Outcome d g (.revokeSave token serial) (.answer (revokeSave token serial g).1)
        (revokeSave token serial g).2
  | revokeSaves (token : Token) : Outcome d g (.revokeSaves token) .done (revokeSaves token g)
  | denied (token : Token) (kind : Kind) (e : Refusal) :
      Outcome d g (.grantCapability token kind) (.granted (.error e)) g
  | granted (token : Token) (kind : Kind) :
      Outcome d g (.grantCapability token kind) (.granted (.ok (addCapability token kind g).1))
        (addCapability token kind g).2
  | revokeCapability (token : Token) (kind : Kind) :
      Outcome d g (.revokeCapability token kind) (.answer (dropCapability token kind g).1)
        (dropCapability token kind g).2
  | deferRevocation (token : Token) :
      Outcome d g (.deferRevocation token) (.answer (deferRevocation d token g).1)
        (deferRevocation d token g).2
  | cancelDeferred (token : Token) :
      Outcome d g (.cancelDeferred token) (.answer (cancelDeferred token g).1) (cancelDeferred token g).2
  | revokeCapabilities (token : Token) :
      Outcome d g (.revokeCapabilities token) (.kinds (g.ledger.kindsOf token)) (dropCapabilities token g).2
  | revokeEverything (token : Token) :
      Outcome d g (.revokeEverything token) .done (dropCapabilities token (revokeSaves token g)).2
  | runDue : Outcome d g .runDue .done g.ranDue
  | setClock (now : UInt64) : Outcome d g (.setClock now) .done { g with now }

variable {d : GrantDelays} {g g' : GrantState} {token : Token} {kind : Kind} {log : List Exchange}

/-- The ledger drops the kind, and the store is asked to revoke its permissions if it was held. -/
theorem revokeCapability_ends {held : Bool} (h : (revokeCapability token kind).Does g log held g') :
    held = (dropCapability token kind g).1 ∧ g' = (dropCapability token kind g).2 := by
  unfold revokeCapability at h
  rw [Op.does_modifyGet_bind] at h
  split at h
  next holds =>
    rw [Op.does_bind] at h
    obtain ⟨_, _, _, _, revoked, h, rfl⟩ := h
    obtain ⟨rfl, -⟩ := revokePermissions_ends revoked
    obtain ⟨-, rfl, rfl⟩ := Op.does_pure.mp h
    exact ⟨holds.symm, rfl⟩
  next none =>
    obtain ⟨-, rfl, rfl⟩ := Op.does_pure.mp h
    exact ⟨(Bool.not_eq_true _ ▸ none).symm, rfl⟩

theorem handle_ends {event : TimerEvent} {u : Unit} (h : (handle event).Does g log u g') :
    g' = handled g event := by
  cases event with
  | saveExpired token serial => exact (Op.does_modify.mp h).2
  | backgroundExpired token =>
    unfold handle at h
    rw [Op.does_bind] at h
    obtain ⟨_, _, _, _, revoked, h, rfl⟩ := h
    obtain ⟨-, rfl, -⟩ := revokeCapabilities_ends revoked
    obtain ⟨-, -, rfl⟩ := Op.does_pure.mp h
    rfl
  | idleExpired => exact (Op.does_pure.mp h).2.2

theorem handleAll_ends {events : List TimerEvent} {u : Unit} (h : (handleAll events).Does g log u g') :
    g' = events.foldl handled g := by
  induction events generalizing g log with
  | nil => exact (Op.does_pure.mp h).2.2
  | cons event rest ih =>
    rw [handleAll, Op.does_bind] at h
    obtain ⟨_, _, _, _, first, h, rfl⟩ := h
    rw [List.foldl_cons, ← handle_ends first]
    exact ih h

/-- An operation whose result is the reply, or part of it. -/
theorem reply_ends {α : Type} {x : Op GrantState α} {f : α → Reply} {reply : Reply}
    (h : Op.Does (x >>= fun a => pure (f a)) g log reply g') : ∃ a, x.Does g log a g' ∧ reply = f a := by
  rw [Op.does_bind] at h
  obtain ⟨_, a, _, _, done, h, rfl⟩ := h
  obtain ⟨rfl, rfl, rfl⟩ := Op.does_pure.mp h
  exact ⟨a, by rwa [List.append_nil], rfl⟩

theorem perform_ends {act : Act} {reply : Reply} (h : (perform d act).Does g log reply g') :
    Outcome d g act reply g' := by
  cases act with
  | grantSave token =>
    obtain ⟨_, done, rfl⟩ := reply_ends h
    obtain ⟨-, rfl, rfl⟩ := Op.does_modifyGet.mp done
    exact .grantSave token
  | revokeSave token serial =>
    obtain ⟨_, done, rfl⟩ := reply_ends h
    obtain ⟨-, rfl, rfl⟩ := Op.does_modifyGet.mp done
    exact .revokeSave token serial
  | revokeSaves token =>
    obtain ⟨_, done, rfl⟩ := reply_ends h
    obtain ⟨-, rfl⟩ := Op.does_modify.mp done
    exact .revokeSaves token
  | grantCapability token kind =>
    obtain ⟨_, done, rfl⟩ := reply_ends h
    cases grantCapability_ends done with
    | denied o asked => exact .denied token kind _
    | granted => exact .granted token kind
  | revokeCapability token kind =>
    obtain ⟨_, done, rfl⟩ := reply_ends h
    obtain ⟨rfl, rfl⟩ := revokeCapability_ends done
    exact .revokeCapability token kind
  | deferRevocation token =>
    obtain ⟨_, done, rfl⟩ := reply_ends h
    obtain ⟨-, rfl, rfl⟩ := Op.does_modifyGet.mp done
    exact .deferRevocation token
  | cancelDeferred token =>
    obtain ⟨_, done, rfl⟩ := reply_ends h
    obtain ⟨-, rfl, rfl⟩ := Op.does_modifyGet.mp done
    exact .cancelDeferred token
  | revokeCapabilities token =>
    obtain ⟨_, done, rfl⟩ := reply_ends h
    obtain ⟨rfl, rfl, -⟩ := revokeCapabilities_ends done
    exact .revokeCapabilities token
  | revokeEverything token =>
    obtain ⟨_, done, rfl⟩ := reply_ends h
    obtain ⟨rfl, -⟩ := revokeEverything_ends done
    exact .revokeEverything token
  | runDue =>
    rw [perform, Op.does_modifyGet_bind] at h
    obtain ⟨_, done, rfl⟩ := reply_ends h
    obtain rfl := handleAll_ends done
    exact .runDue
  | setClock now =>
    obtain ⟨_, done, rfl⟩ := reply_ends h
    obtain ⟨-, rfl⟩ := Op.does_modify.mp done
    exact .setClock now

/-! ## What each act keeps -/

variable {act : Act} {reply : Reply} {live : List SaveGrant} {events : List TimerEvent}

/-- The grant that an act gives. -/
def given (now : UInt64) : Act → Reply → List SaveGrant
  | .grantSave token, .serial serial => [⟨token, serial, now⟩]
  | _, _ => []

/-- What is outstanding after an act was so before, or has been given by it. -/
theorem Outcome.balanced (h : Outcome d g act reply g') (balanced : Balanced d live [] g)
    (few : g.timers.nextSeq ≤ g'.timers.nextSeq) :
    ∃ live', live'.Sublist (live ++ given g.now act reply) ∧ Balanced d live' [] g' := by
  -- acts other than this one give nothing, and leave some of what was outstanding
  have left {live'} (fewer : live'.Sublist live) (balanced' : Balanced d live' [] g') :
      ∃ live', live'.Sublist (live ++ given g.now act reply) ∧ Balanced d live' [] g' :=
    ⟨live', fewer.trans (List.sublist_append_left ..), balanced'⟩
  cases h with
  | grantSave token => exact ⟨_, .refl _, balanced.grantSave token few⟩
  | revokeSave token serial =>
    exact left List.filter_sublist (balanced.revokeSave token serial nofun)
  | revokeSaves token => exact left List.filter_sublist (balanced.revokeSaves token)
  | denied => exact left (.refl _) balanced
  | granted token kind => exact left (.refl _) (balanced.addCapability token kind)
  | revokeCapability token kind => exact left (.refl _) (balanced.dropCapability token kind)
  | deferRevocation token => exact left (.refl _) (balanced.deferRevocation token few)
  | cancelDeferred token => exact left (.refl _) (balanced.cancelDeferred token)
  | revokeCapabilities token => exact left (.refl _) (balanced.dropCapabilities token)
  | revokeEverything token =>
    exact left List.filter_sublist ((balanced.revokeSaves token).dropCapabilities token)
  | runDue => exact left List.filter_sublist (balanced.takeDue g.now).handledAll
  | setClock now =>
    refine left (.refl _) (balanced.of_eq ?_ rfl rfl rfl)
    exact ⟨balanced.sound.timers, balanced.sound.counted, balanced.sound.expiring⟩

theorem Outcome.tidy (h : Outcome d g act reply g') (sound : g.Sound) (tidy : g.Tidy) : g'.Tidy := by
  cases h with
  | grantSave token => exact tidy.grantSave d token
  | revokeSave token serial => exact tidy.revokeSave sound token serial
  | revokeSaves token => exact tidy.revokeSaves token
  | denied => exact tidy
  | granted token kind => exact tidy.addCapability token kind
  | revokeCapability token kind => exact tidy.dropCapability token kind
  | deferRevocation token => exact tidy.deferRevocation d token
  | cancelDeferred token => exact tidy.cancelDeferred token
  | revokeCapabilities token => exact tidy.dropCapabilities token
  | revokeEverything token => exact (tidy.revokeSaves token).dropCapabilities token
  | runDue => exact tidy.runDue sound
  | setClock now => exact ⟨tidy.saves, tidy.capabilities, tidy.deferring⟩

/-! ## Counters -/

/-- An act schedules at most one timer. -/
theorem Outcome.nextSeq (h : Outcome d g act reply g') :
    g'.timers.nextSeq = g.timers.nextSeq ∨ g'.timers.nextSeq = g.timers.nextSeq + 1 := by
  cases h with
  | grantSave token => exact .inr (nextSeq_grantSave d token g)
  | revokeSave token serial => exact .inl (nextSeq_revokeSave token serial g)
  | revokeSaves token => exact .inl (nextSeq_revokeSaves token g)
  | denied => exact .inl rfl
  | granted => exact .inl rfl
  | revokeCapability token kind => exact .inl (nextSeq_dropCapability token kind g)
  | deferRevocation token =>
    unfold GrantState.deferRevocation
    split
    · exact .inr (TimerQueue.nextSeq_schedule ..)
    · exact .inl rfl
  | cancelDeferred token => exact .inl (TimerQueue.nextSeq_remove ..)
  | revokeCapabilities token => exact .inl (nextSeq_dropCapabilities token g)
  | revokeEverything token =>
    exact .inl ((nextSeq_dropCapabilities token _).trans (nextSeq_revokeSaves token g))
  | runDue => exact .inl (counters_runDue g).1
  | setClock => exact .inl rfl

/-- A grant is given with the next serial and a timer, and no serial is used up otherwise. -/
theorem Outcome.nextSerial (h : Outcome d g act reply g') :
    (given g.now act reply = [] ∧ g'.ledger.nextSerial = g.ledger.nextSerial) ∨
      ∃ token, given g.now act reply = [⟨token, g.ledger.nextSerial, g.now⟩] ∧
        g'.ledger.nextSerial = g.ledger.nextSerial + 1 ∧ g'.timers.nextSeq = g.timers.nextSeq + 1 := by
  cases h with
  | grantSave token => exact .inr ⟨token, rfl, rfl, nextSeq_grantSave d token g⟩
  | revokeSave token serial => exact .inl ⟨rfl, nextSerial_revokeSave token serial g⟩
  | revokeSaves token => exact .inl ⟨rfl, nextSerial_revokeSaves token g⟩
  | revokeCapability token kind => exact .inl ⟨rfl, nextSerial_dropCapability token kind g⟩
  | deferRevocation token =>
    exact .inl ⟨rfl, congrArg Ledger.nextSerial (ledger_deferRevocation d token g)⟩
  | revokeEverything token => exact .inl ⟨rfl, nextSerial_revokeSaves token g⟩
  | runDue => exact .inl ⟨rfl, (counters_runDue g).2.1⟩
  | _ => exact .inl ⟨rfl, rfl⟩

/-! ## Runs -/

/-- An act from one state to another. -/
structure Turn where
  before : GrantState
  act : Act
  log : List Exchange
  reply : Reply
  after : GrantState

/-- The act can go this way. -/
def Turn.Taken (d : GrantDelays) (t : Turn) : Prop := (perform d t.act).Does t.before t.log t.reply t.after

/-- The turn has scheduled a timer. -/
def Turn.schedules (t : Turn) : Bool := t.after.timers.nextSeq ≠ t.before.timers.nextSeq

/-- The grants that have been given, oldest first. -/
def issued (turns : List Turn) : List SaveGrant :=
  turns.flatMap fun t => given t.before.now t.act t.reply

/-- Turns from a first state on, the last one at the end. -/
inductive Run (d : GrantDelays) (start : GrantState) : List Turn → GrantState → Prop where
  | start : Run d start [] start
  | next {turns : List Turn} {t : Turn} (run : Run d start turns t.before) (taken : t.Taken d) :
      Run d start (turns ++ [t]) t.after

variable {now : UInt64} {turns : List Turn}

theorem issued_append (turns : List Turn) (t : Turn) :
    issued (turns ++ [t]) = issued turns ++ given t.before.now t.act t.reply := by
  rw [issued, List.flatMap_append]
  simp [issued]

/-- The count of schedulings goes up with each turn that schedules a timer. -/
theorem Turn.Taken.nextSeq {t : Turn} (taken : t.Taken d)
    (few : t.before.timers.nextSeq.toNat + [t].countP (·.schedules) < UInt64.size) :
    t.after.timers.nextSeq.toNat = t.before.timers.nextSeq.toNat + [t].countP (·.schedules) := by
  rw [List.countP_singleton, Turn.schedules] at few ⊢
  simp only [decide_eq_true_eq] at few ⊢
  exact toNat_of_step (perform_ends taken).nextSeq few

/-- As long as the count of schedulings does not wrap around, the outstanding grants are some of
those given in the run, and these have serials of their own. -/
theorem Run.balanced (run : Run d (.start now) turns g)
    (few : turns.countP (·.schedules) < UInt64.size) :
    g.timers.nextSeq.toNat = turns.countP (·.schedules) ∧ g.Tidy ∧
      (issued turns).Pairwise (·.serial < ·.serial) ∧ (∀ x ∈ issued turns, x.serial < g.ledger.nextSerial) ∧
      ∃ live, live.Sublist (issued turns) ∧ Balanced d live [] g := by
  induction run with
  | start => exact ⟨rfl, tidy_start now, .nil, nofun, [], .refl _, balanced_start d now⟩
  | @next turns t run taken ih =>
    rw [List.countP_append] at few
    obtain ⟨seq, tidy, ordered, spent, live, part, balanced⟩ := ih (by omega)
    have next := taken.nextSeq (by rw [seq]; exact few)
    have grows : t.before.timers.nextSeq ≤ t.after.timers.nextSeq := by
      rw [UInt64.le_iff_toNat_le]
      omega
    have outcome := perform_ends taken
    obtain ⟨live', part', balanced'⟩ := outcome.balanced balanced grows
    rw [issued_append, List.countP_append]
    have all : live'.Sublist (issued turns ++ given t.before.now t.act t.reply) :=
      part'.trans (part.append (.refl _))
    rcases outcome.nextSerial with ⟨none, same⟩ | ⟨token, one, up, seqUp⟩
    · rw [none, List.append_nil] at all ⊢
      exact ⟨by omega, outcome.tidy balanced.sound tidy, ordered, same ▸ spent, live', all, balanced'⟩
    · rw [one] at all ⊢
      -- a serial is used up with a scheduling, so the count of serials does not wrap around either
      have bound := (succ_of_le balanced.fewer (seqUp ▸ grows)).1
      have more := serials_snoc ordered spent bound token t.before.now
      exact ⟨by omega, outcome.tidy balanced.sound tidy, more.1, up ▸ more.2, live', all, balanced'⟩

/-! ## Grants and timers in step -/

/-- Grants and timers agree. -/
structure InStep (d : GrantDelays) (issued : List SaveGrant) (g : GrantState) : Prop where
  /-- No serial has been given twice. -/
  once : issued.Pairwise (·.serial < ·.serial)
  pending_iff : ∀ token serial,
    g.timers.contains (saveKey token serial) = true ↔ serial ∈ g.ledger.serialsOf token
  /-- The timer of an outstanding grant announces its expiry, at the time set when it was given. -/
  timed : ∀ token serial, serial ∈ g.ledger.serialsOf token → ∃ x ∈ issued, x.Is token serial ∧
    ∃ e ∈ g.timers.entries, e.key = saveKey token serial ∧ e.event = .saveExpired token serial ∧
      e.slot.deadline = saturatingAdd x.since d.save
  distinct : ∀ token token' serial, serial ∈ g.ledger.serialsOf token →
    serial ∈ g.ledger.serialsOf token' → token = token'
  /-- Oldest first. -/
  ordered : ∀ token, (g.ledger.serialsOf token).Sublist (serialsIn issued token)
  ascending : ∀ token, (g.ledger.serialsOf token).Pairwise (· < ·)
  counted : ∀ token record, g.ledger.saves.get? token = some record →
    record.count = record.serials.length ∧ 1 ≤ record.count
  capabilities : ∀ token kinds, g.ledger.capabilities.get? token = some kinds → kinds ≠ []
  /-- A revocation is deferred only for an identity that holds a capability. -/
  deferred : ∀ token, g.timers.contains (backgroundKey token) = true → g.ledger.kindsOf token ≠ [] ∧
    ∃ e ∈ g.timers.entries, e.key = backgroundKey token ∧ e.event = .backgroundExpired token

/-- A timer that is pending is an entry with the event that belongs to its key. -/
theorem Balanced.entry_of_deadlineOf (balanced : Balanced d live events g) (event : TimerEvent)
    {deadline : UInt64} (pending : g.timers.deadlineOf event.key = some deadline) :
    ∃ e ∈ g.timers.entries, e.key = event.key ∧ e.event = event ∧ e.slot.deadline = deadline := by
  unfold TimerQueue.deadlineOf at pending
  obtain ⟨slot, found, rfl⟩ := Option.map_eq_some_iff.mp pending
  obtain ⟨e, he, key, rfl⟩ := (balanced.paired.found_iff _ _).mp found
  have label := balanced.sound.timers.labelled e he
  exact ⟨e, he, key, TimerEvent.key_inj.mp (label.symm.trans key), rfl⟩

theorem Balanced.inStep {all : List SaveGrant} (balanced : Balanced d live [] g) (tidy : g.Tidy)
    (ordered : all.Pairwise (·.serial < ·.serial)) (part : live.Sublist all) : InStep d all g where
  once := ordered
  pending_iff := fun _ _ => balanced.pending_iff
  timed := by
    intro token serial outstanding
    obtain ⟨x, hx, rfl, rfl⟩ := balanced.outstanding_iff.mp outstanding
    have timed := (balanced.timed x hx).resolve_right (by simp)
    exact ⟨x, part.mem hx, ⟨rfl, rfl⟩, balanced.entry_of_deadlineOf x.expiry timed⟩
  distinct := by
    intro token token' serial h h'
    obtain ⟨x, hx, rfl, rfl⟩ := balanced.outstanding_iff.mp h
    obtain ⟨y, hy, rfl, same⟩ := balanced.outstanding_iff.mp h'
    rw [balanced.eq_of_serial_eq hx hy same.symm]
  ordered := by
    intro token
    rw [balanced.listed]
    exact (part.filter _).map _
  ascending := by
    intro token
    rw [balanced.listed, serialsIn, List.pairwise_map]
    exact balanced.ordered.filter _
  counted := by
    intro token record found
    have count := balanced.sound.counted token record found
    have kept := List.length_pos_iff.mpr (tidy.saves token record found)
    exact ⟨count, by omega⟩
  capabilities := tidy.capabilities
  deferred := by
    intro token pending
    have holds := tidy.deferring token pending
    constructor
    · unfold Assoc.contains at holds
      unfold Ledger.kindsOf Assoc.getD
      cases found : g.ledger.capabilities.get? token with
      | none => rw [found] at holds; cases holds
      | some kinds => exact tidy.capabilities token kinds found
    · rw [TimerQueue.contains_eq_isSome_deadlineOf] at pending
      obtain ⟨deadline, pending⟩ := Option.isSome_iff_exists.mp pending
      obtain ⟨e, he, key, event, -⟩ := balanced.entry_of_deadlineOf (.backgroundExpired token) pending
      exact ⟨e, he, key, event⟩

/-- One grant, and nothing else, is taken back; the answer is whether the identity has none left. -/
structure TakesOne (token : Token) (serial : UInt64) (g : GrantState) (reply : Reply)
    (g' : GrantState) : Prop where
  absent : serial ∉ g.ledger.serialsOf token → g' = g
  serials : ∀ token', g'.ledger.serialsOf token' =
    if token = token' then (g.ledger.serialsOf token).erase serial else g.ledger.serialsOf token'
  timers : g'.timers = g.timers.remove (saveKey token serial)
  capabilities : g'.ledger.capabilities = g.ledger.capabilities
  reply : ∃ none, reply = .answer none ∧ (none = true ↔ g'.ledger.serialsOf token = [])

theorem Outcome.takesOne {serial : UInt64} (h : Outcome d g (.revokeSave token serial) reply g')
    (balanced : Balanced d live [] g) (tidy : g.Tidy) : TakesOne token serial g reply g' := by
  cases h
  refine ⟨?_, fun token' => balanced.sound.serialsOf_revokeSave token token' serial,
    balanced.timers_revokeSave token serial, ?_, _, rfl, tidy.fst_revokeSave balanced.sound token serial⟩
  · intro absent
    obtain ⟨-, same⟩ | ⟨record, found, outstanding, -⟩ := revokeSave_cases token serial g
    · exact same
    · unfold Ledger.serialsOf at absent
      rw [found] at absent
      exact absurd outstanding absent
  · obtain ⟨-, same⟩ | ⟨_, _, -, taken⟩ := revokeSave_cases token serial g
    · rw [same]
    · rw [taken]

/-- A turn of a run begins where the turns before it have led. -/
theorem Run.before {t : Turn} (run : Run d g turns g') (ht : t ∈ turns) :
    ∃ earlier, earlier.Sublist turns ∧ Run d g earlier t.before ∧ t.Taken d := by
  induction run with
  | start => cases ht
  | @next turns t' run taken ih =>
    rcases List.mem_append.mp ht with ht | ht
    · obtain ⟨earlier, part, run, taken⟩ := ih ht
      exact ⟨earlier, part.trans (List.sublist_append_left ..), run, taken⟩
    · obtain rfl := List.mem_singleton.mp ht
      exact ⟨turns, List.sublist_append_left .., run, taken⟩

/-- After every run of fewer than 2^64 schedulings, whatever the clock does and the identity store
answers, grants and timers are in step, and whenever one grant was to be taken back, it and nothing
else was. -/
theorem in_step_throughout (run : Run d (.start now) turns g)
    (few : turns.countP (·.schedules) < UInt64.size) :
    InStep d (issued turns) g ∧ ∀ t ∈ turns, ∀ token serial, t.act = .revokeSave token serial →
      TakesOne token serial t.before t.reply t.after := by
  obtain ⟨-, tidy, ordered, -, live, part, balanced⟩ := run.balanced few
  refine ⟨balanced.inStep tidy ordered part, fun t ht token serial act => ?_⟩
  obtain ⟨earlier, part, run, taken⟩ := run.before ht
  have fewer : earlier.countP (·.schedules) < UInt64.size := Nat.lt_of_le_of_lt part.countP_le few
  obtain ⟨-, tidy, -, -, live, -, balanced⟩ := run.balanced fewer
  have outcome := perform_ends taken
  rw [act] at outcome
  exact outcome.takesOne balanced tidy

/-! ## A clock that steps back -/

/-- An act carried out where the service runs alone. -/
def playAct (d : GrantDelays) (act : Act) (g : GrantState) (e : Environment) : Turn × Environment :=
  (⟨g, act, ((perform d act g).play Environment.answer e).1.1,
    ((perform d act g).play Environment.answer e).1.2.1,
    ((perform d act g).play Environment.answer e).1.2.2⟩, ((perform d act g).play Environment.answer e).2)

/-- Acts carried out one after the other. -/
def playActs (d : GrantDelays) : List Act → GrantState → Environment → List Turn × GrantState
  | [], g, _ => ([], g)
  | act :: rest, g, e =>
    let (t, e) := playAct d act g e
    let (turns, g) := playActs d rest t.after e
    (t :: turns, g)

theorem Run.play {start : GrantState} : ∀ (acts : List Act) {turns : List Turn} {g : GrantState}
    (e : Environment), Run d start turns g →
      Run d start (turns ++ (playActs d acts g e).1) (playActs d acts g e).2
  | [], _, _, _, run => by rwa [playActs, List.append_nil]
  | act :: rest, turns, g, e, run => by
    have taken : (playAct d act g e).1.Taken d := Dialogue.ends_play Environment.answer (perform d act g) e
    have played := (Run.next run taken).play rest (playAct d act g e).2
    rwa [List.append_assoc] at played

/-- The clock steps back between two grants, so the second one expires first. Then it is to be
taken back once more. -/
def steppingBack : List Act :=
  [.grantSave 12, .setClock 990000, .grantSave 12, .setClock 1055000, .runDue, .revokeSave 12 1]

/-- The first grant is still outstanding, with its timer. -/
theorem in_step_after_steppingBack :
    let d : GrantDelays := ⟨60000, 10000⟩
    let run := playActs d steppingBack (.start 1000000) (.ofConfig .standard)
    Run d (.start 1000000) run.1 run.2 ∧ run.1.countP (·.schedules) < UInt64.size ∧
      run.2.ledger.serialsOf 12 = [0] ∧ InStep d (issued run.1) run.2 ∧
      ∀ t ∈ run.1, ∀ token serial, t.act = .revokeSave token serial →
        TakesOne token serial t.before t.reply t.after := by
  intro d run
  have reached : Run d (.start 1000000) run.1 run.2 := Run.start.play steppingBack (.ofConfig .standard)
  have few : run.1.countP (·.schedules) < UInt64.size := by decide +kernel
  exact ⟨reached, few, by decide +kernel, in_step_throughout reached few⟩

end ClickGrant.GrantState
