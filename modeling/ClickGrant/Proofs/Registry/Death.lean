import ClickGrant.Proofs.Grant.Permissions
import ClickGrant.Proofs.Registry.Grants
import ClickGrant.Proofs.Registry.Standalone

/-!
# What a death takes back

When a process dies, everything is taken back from the identity it is registered under. `Stripped`
says that an identity has nothing left: no save grant, no capability, no permission of a capability
in the identity store, and no timer that would take any of it back. What is proved:
  1. `Run.backed` — as long as the identity store refuses nothing, every permission that it has
     given for a component belongs to a capability in the ledger, along every run.
  2. `Dies.stripped` — so the identity that the dead process is registered under is stripped.
  3. `Dies.untouched` — and for every other identity nothing changes.
  4. `stripped_by_death_iff` — a death thus leaves an identity stripped exactly if the process is
     still registered under it, or the identity had nothing anyway.
  5. `spared_by_death` — so a death can take back nothing at all: a process is registered only as
     long as it has a component, and this one has withdrawn its components before.
  6. `destitute_by_death` — the identity of a process that dies registered may save no more, has no
     capability, and no timer that is still to go off concerns it.
-/
set_option autoImplicit false

namespace ClickGrant

/-- The consent gate asks the user, never the identity store. -/
theorem Consents.still {required : List Kind} {token : Token} {kind : Kind} {handle : Option UInt64}
    {store store' : ConsentStore} {log : List Exchange} {result : Except Refusal Unit}
    (h : Consents required token kind handle store log result store') : Still log := by
  cases h <;> simp [Exchange.moves]

namespace Registry

variable {s : Settings} {caller : Caller} {c : Component} {declared : String} {r r' : Registry}
  {log : List Exchange} {id : ComponentId} {kind : Kind} {event : ClickEvent}
  {handle : Option UInt64} {token : Token} {pid : Pid} {store : PermissionStore}

/-! ## Calls that give and take no permission -/

@[simp] theorem still_survey (c : Component) (screen : Screen) (scale : WindowScale) :
    Still (survey c screen scale) := by
  simp [survey, Exchange.moves]

@[simp] theorem still_inspection (s : Settings) (caller : Caller) (c : Component)
    (declared : String) : Still (inspection s caller c declared) := by
  unfold inspection
  split <;> simp [Exchange.moves]

@[simp] theorem still_postureCalls (s : Settings) (r : Registry) : Still (postureCalls s r) := by
  unfold postureCalls
  split
  · split <;> simp [Exchange.moves]
  · exact still_nil

@[simp] theorem still_deathNotice (s : Settings) (pid : Pid) : Still (deathNotice s pid) := by
  unfold deathNotice
  split <;> simp [Exchange.moves]

theorem Admits.still {result : Except Refusal Component}
    (h : Admits s caller c declared r log result r') : Still log := by
  cases h <;> simp [Exchange.moves]

theorem Looks.still {windows : List Window} (h : Looks caller event log windows) : Still log := by
  cases h <;> simp [Exchange.moves]

theorem Believes.still {result : Except Refusal Unit} (h : Believes s caller c event r log result r') :
    Still log := by
  cases h with
  | untrusted => simp [Exchange.moves]
  | unseen => simp [Exchange.moves]
  | rejected looks => exact looks.still
  | believed looks => exact looks.still

theorem Registers.still {result : Except Refusal ComponentId}
    (h : Registers s caller kind c declared r log result r') : Still log := by
  cases h with
  | barred => exact still_nil
  | otherKind => exact still_nil
  | unadmitted _ _ refused => exact refused.still
  | clash _ _ admitted => exact admitted.still
  | stored _ _ admitted => simp [admitted.still]

theorem Updates.still {reply : Except Refusal Unit} (h : Updates s caller id c declared r log reply r') :
    Still log := by
  cases h with
  | turnedAway => exact still_nil
  | unadmitted _ refused => exact refused.still
  | replaced _ admitted => exact admitted.still

theorem Unregisters.still {reply : Except Refusal Unit} (h : Unregisters s caller id r log reply r') :
    Still log := by
  cases h <;> simp

/-- A click that is refused gives nothing, unless it is the identity store that refuses. -/
theorem Clicks.still_of_error {e : Refusal}
    (h : Clicks s caller id c declared event handle r log (.error e) r') (obliging : Obliging log) :
    Still log := by
  cases h with
  | turnedAway => exact still_nil
  | unadmitted _ refused => exact refused.still
  | unbelieved _ admitted disbelief => simp [admitted.still, disbelief.still]
  | unconsented _ admitted belief gate => simp [admitted.still, belief.still, gate.still]
  | denied _ _ _ _ refused =>
    cases refused with
    | denied o asked =>
      simp only [obliging_append, obliging_cons] at obliging
      obtain ⟨-, -, -, -, refusal, -⟩ := obliging
      cases refusal

/-! ## Permissions and capabilities -/

/-- A granted click has the permissions of its kind given to the identity it credits. -/
theorem Clicks.backed {l : Ledger} (h : Clicks s caller id c declared event handle r log (.ok ()) r')
    (same : l = r'.ledger) (backed : Backed store r.ledger token) :
    Backed (store.follow log) l token := by
  subst same
  cases h with
  | @granted _ _ _ token' _ _ f door admitted belief gate =>
    rw [PermissionStore.follow_append, PermissionStore.follow_append, PermissionStore.follow_append,
      PermissionStore.follow_of_still admitted.still, PermissionStore.follow_of_still belief.still,
      PermissionStore.follow_of_still gate.still]
    have kinds := kindsOf_credited s token' token c.kind r.toGrantState
    -- only a capability has permissions of its own, and the ledger notes it as well
    cases style : c.kind.grantStyle with
    | perClick =>
      have none : c.kind.permissions = [] := by
        cases kind : c.kind <;> rw [kind] at style <;> first | rfl | cases style
      rw [none]
      rw [style] at kinds
      simp only [reduceCtorEq, and_false, if_false] at kinds
      exact backed.congr kinds
    | capability =>
      simp only [style, and_true] at kinds
      refine backed.follow_gives (kinds.trans ?_)
      split
      next here => rw [here]
      next => rfl

theorem Fires.backed {fired : TimerEvent} (h : Fires r fired log r') (obliging : Obliging log)
    (backed : Backed store r.ledger token) : Backed (store.follow log) r'.ledger token := by
  cases h with
  | save token' serial =>
    rw [ledger_withdrawSave]
    exact backed.congr (GrantState.kindsOf_revokeSave ..)
  | background takes =>
    exact backed.follow_takes obliging takes (GrantState.kindsOf_dropCapabilities ..)
  | idle =>
    rw [ledger_beginShutdown]
    exact backed

theorem FiresAll.backed {events : List TimerEvent} (h : FiresAll r events log r')
    (obliging : Obliging log) (backed : Backed store r.ledger token) :
    Backed (store.follow log) r'.ledger token := by
  induction h generalizing store with
  | nil r => exact backed
  | cons first others ih =>
    obtain ⟨obliging₁, obliging₂⟩ := obliging_append.mp obliging
    rw [PermissionStore.follow_append]
    exact ih obliging₂ (first.backed obliging₁ backed)

/-- Of what is asked upon a death, only the revocations concern the identity store. -/
theorem follow_death (store : PermissionStore) (u : Registry) (revocations : List Exchange) :
    store.follow (deathNotice s pid ++ (revocations ++ postureCalls s u)) = store.follow revocations := by
  rw [PermissionStore.follow_append, PermissionStore.follow_append,
    PermissionStore.follow_of_still (still_deathNotice s pid),
    PermissionStore.follow_of_still (still_postureCalls s u)]

theorem Dies.backed (h : Dies s pid r log r') (obliging : Obliging log)
    (backed : Backed store r.ledger token) : Backed (store.follow log) r'.ledger token := by
  cases h with
  | unknown => exact backed.of_still (still_deathNotice s pid) rfl
  | @known p l n u present takes left =>
    obtain ⟨-, obliging⟩ := obliging_append.mp obliging
    obtain ⟨obliging, -⟩ := obliging_append.mp obliging
    rw [follow_death]
    refine backed.follow_takes obliging takes ?_
    rw [(idleOnly_synced s rfl).ledger_eq, left]
    exact kindsOf_forfeited p.token token r.toGrantState

/-- As long as the identity store refuses nothing, whatever it has given for a component belongs to
a capability in the ledger. -/
theorem Outcome.backed {act : Act} {reply : Except Refusal Unit} (h : Outcome s r act log reply r')
    (obliging : Obliging log) (backed : Backed store r.ledger token) :
    Backed (store.follow log) r'.ledger token := by
  have kept {l : Ledger} (still : Still log) (same : l = r.ledger) :
      Backed (store.follow log) l token := backed.of_still still (by rw [same])
  cases h with
  | register f ends => exact kept ends.still ends.idleOnly.ledger_eq
  | update ends => exact kept ends.still (by rw [ends.grants_eq])
  | unregister ends => exact kept ends.still ends.idleOnly.ledger_eq
  | reportClick f ends =>
    cases reply with
    | error e =>
      exact kept (ends.still_of_error obliging) (by rw [toGrantState_measure, ends.grants_of_error])
    | ok => exact ends.backed rfl backed
  | foreground pid => exact kept still_nil (ledger_processForeground pid r)
  | background pid => exact kept still_nil (ledger_processBackground s pid r)
  | died ends => exact ends.backed obliging backed
  | armIdleExit => exact kept still_nil rfl
  | fire ends => exact ends.backed obliging backed
  | runDueTimers ends => exact ends.backed obliging backed
  | setClock now => exact kept still_nil rfl

/-- The exchanges of turns, in their order. -/
def exchanges (turns : List Turn) : List Exchange := turns.flatMap (·.log)

theorem Run.backed {turns : List Turn} (run : Run s r turns r') (obliging : Obliging (exchanges turns))
    (backed : Backed store r.ledger token) :
    Backed (store.follow (exchanges turns)) r'.ledger token := by
  induction run generalizing store with
  | done r => exact backed
  | @next t turns r' taken rest ih =>
    rw [exchanges, List.flatMap_cons] at obliging ⊢
    obtain ⟨obliging₁, obliging₂⟩ := obliging_append.mp obliging
    rw [PermissionStore.follow_append]
    exact ih obliging₂ (taken.outcome.backed obliging₁ backed)

/-! ## Deaths -/

/-- The identity has nothing left, in the ledger or in the identity store, and no timer is pending
that would take anything from it. -/
structure Stripped (store : PermissionStore) (r : Registry) (token : Token) : Prop where
  saves : r.ledger.serialsOf token = []
  capabilities : r.ledger.kindsOf token = []
  permissions : store.Bare token
  expiries : ∀ serial, r.timers.contains (saveKey token serial) = false
  deferred : r.timers.contains (backgroundKey token) = false

/-- What the identity has is the same. -/
structure Untouched (token : Token) (store : PermissionStore) (r : Registry)
    (store' : PermissionStore) (r' : Registry) : Prop where
  saves : r'.ledger.serialsOf token = r.ledger.serialsOf token
  capabilities : r'.ledger.kindsOf token = r.ledger.kindsOf token
  permissions : ∀ p, store'.has token p = store.has token p
  expiries : ∀ serial, r'.timers.contains (saveKey token serial) = r.timers.contains (saveKey token serial)
  deferred : r'.timers.contains (backgroundKey token) = r.timers.contains (backgroundKey token)

theorem Untouched.stripped_iff {store' : PermissionStore} (h : Untouched token store r store' r') :
    Stripped store' r' token ↔ Stripped store r token := by
  constructor
  · intro ⟨saves, capabilities, permissions, expiries, deferred⟩
    refine ⟨h.saves ▸ saves, h.capabilities ▸ capabilities, ?_, ?_, h.deferred ▸ deferred⟩
    · intro kind p hp
      rw [← h.permissions]
      exact permissions kind p hp
    · intro serial
      rw [← h.expiries]
      exact expiries serial
  · intro ⟨saves, capabilities, permissions, expiries, deferred⟩
    refine ⟨h.saves.trans saves, h.capabilities.trans capabilities, ?_, ?_, h.deferred.trans deferred⟩
    · intro kind p hp
      rw [h.permissions]
      exact permissions kind p hp
    · intro serial
      rw [h.expiries]
      exact expiries serial

/-- An identity without save grants counts none. -/
theorem Stripped.saveCount_eq_zero (h : Stripped store r token) (sound : r.toGrantState.Sound) :
    r.ledger.saveCount token = 0 := by
  rw [sound.saveCount_eq token]
  show (r.ledger.serialsOf token).length = 0
  rw [h.saves]
  rfl

/-- No event that is still to come takes anything from a stripped identity. -/
theorem Stripped.event_ne (h : Stripped store r token) (sound : r.toGrantState.Sound) {e : TimerEntry}
    (he : e ∈ r.timers.entries) (serial : UInt64) :
    e.event ≠ .saveExpired token serial ∧ e.event ≠ .backgroundExpired token := by
  have pending := TimerQueue.contains_of_mem sound.timers he
  constructor
  · intro same
    rw [same] at pending
    exact absurd pending (Bool.eq_false_iff.mp (h.expiries serial))
  · intro same
    rw [same] at pending
    exact absurd pending (Bool.eq_false_iff.mp h.deferred)

theorem contains_saveKey_forfeited {token token' : Token} (other : token ≠ token') (serial : UInt64)
    (g : GrantState) : (forfeited token g).timers.contains (saveKey token' serial) =
      g.timers.contains (saveKey token' serial) := by
  show ((GrantState.revokeSaves token g).timers.remove (backgroundKey token)).contains _ = _
  rw [TimerQueue.contains_remove, decide_eq_true (saveKey_ne_backgroundKey _ _ _).symm, Bool.true_and]
  unfold GrantState.revokeSaves
  split
  · rfl
  · rw [Bool.eq_iff_iff, GrantState.contains_removeSaves, and_iff_left_iff_imp]
    intro _ serial' _ same
    exact other (saveKey_inj.mp same).1

/-- The identity that a dead process is registered under is stripped. -/
theorem Dies.stripped {p : Registration} (h : Dies s pid r log r') (sound : r.toGrantState.Sound)
    (obliging : Obliging log) (backed : Backed store r.ledger p.token)
    (present : r.table.processes.get? pid = some p) : Stripped (store.follow log) r' p.token := by
  obtain ⟨absent, -⟩ | ⟨p', present', idle⟩ := h.grants
  · rw [present] at absent; cases absent
  obtain rfl := Option.some.inj (present.symm.trans present')
  have saves : r'.ledger.serialsOf p.token = [] := by
    rw [idle.ledger_eq, serialsOf_forfeited, if_pos rfl]
  have capabilities : r'.ledger.kindsOf p.token = [] := by
    rw [idle.ledger_eq, kindsOf_forfeited, if_pos rfl]
  -- without serials there are no save timers, and without capabilities no permissions
  refine ⟨saves, capabilities, (h.backed obliging backed).bare capabilities, ?_, ?_⟩
  · intro serial
    rw [idle.contains_eq (saveKey_ne_idleKey _ _)]
    apply (sound_forfeited p.token sound).no_saveTimer
    rw [serialsOf_forfeited, if_pos rfl]
  · rw [idle.contains_eq (backgroundKey_ne_idleKey _), contains_forfeited]
    simp

/-- For every other identity nothing changes. -/
theorem Dies.untouched (h : Dies s pid r log r') (obliging : Obliging log)
    (other : ∀ p, r.table.processes.get? pid = some p → p.token ≠ token) :
    Untouched token store r (store.follow log) r' := by
  cases h with
  | unknown =>
    rw [PermissionStore.follow_of_still (still_deathNotice s pid)]
    exact ⟨rfl, rfl, fun _ => rfl, fun _ => rfl, rfl⟩
  | @known p l n u present takes left =>
    have others := other p present
    obtain ⟨-, obliging⟩ := obliging_append.mp obliging
    obtain ⟨obliging, -⟩ := obliging_append.mp obliging
    have idle : IdleOnly (forfeited p.token r.toGrantState) (synced s (showActive n u)).toGrantState := by
      subst left
      exact idleOnly_synced s rfl
    refine ⟨?_, ?_, ?_, ?_, ?_⟩
    · rw [idle.ledger_eq, serialsOf_forfeited, if_neg others]
    · rw [idle.ledger_eq, kindsOf_forfeited, if_neg others]
    · intro permission
      rw [follow_death, PermissionStore.has_follow_takes takes obliging]
      simp [others]
    · intro serial
      rw [idle.contains_eq (saveKey_ne_idleKey _ _), contains_saveKey_forfeited others]
    · rw [idle.contains_eq (backgroundKey_ne_idleKey _), contains_forfeited]
      simp [others]

/-- A death, after any run with an identity store that refuses nothing, leaves an identity stripped
exactly if the process is registered under it, or if it was stripped before. -/
theorem stripped_by_death_iff {now : UInt64} {consents : ConsentStore} {metrics : Option Metrics}
    {turns : List Turn} {t : Turn} (run : Run s (.start now consents metrics) turns t.before)
    (taken : t.Taken s) (act : t.act = .died pid) (bare : store.Bare token)
    (obliging : Obliging (exchanges turns ++ t.log)) :
    Stripped (store.follow (exchanges turns ++ t.log)) t.after token ↔
      (∃ p, t.before.table.processes.get? pid = some p ∧ p.token = token) ∨
        Stripped (store.follow (exchanges turns)) t.before token := by
  obtain ⟨obliging, obliging'⟩ := obliging_append.mp obliging
  have backed := run.backed obliging (Backed.of_bare bare)
  have dies := taken.dies act
  rw [PermissionStore.follow_append]
  by_cases registered : ∃ p, t.before.table.processes.get? pid = some p ∧ p.token = token
  · obtain ⟨p, found, rfl⟩ := registered
    exact iff_of_true (dies.stripped run.sound.1 obliging' backed found) (.inl ⟨p, found, rfl⟩)
  · have untouched : Untouched token (store.follow (exchanges turns)) t.before
        ((store.follow (exchanges turns)).follow t.log) t.after :=
      dies.untouched obliging' fun p found same => registered ⟨p, found, same⟩
    rw [untouched.stripped_iff, or_iff_right registered]

namespace Scene

/-- The standalone store refuses nothing, whatever is done. -/
theorem obliging_turns (acts : List Act) : Obliging (exchanges (turns acts)) :=
  go acts fresh environment
where
  go : ∀ (acts : List Act) (r : Registry) (e : Environment),
      Obliging (exchanges (playActs Environment.answer settings acts r e))
    | [], _, _ => by simp [exchanges, playActs, Obliging]
    | act :: rest, r, e => by
      rw [playActs, exchanges, List.flatMap_cons]
      exact obliging_append.mpr ⟨(Environment.permissions_play _ e).2, go rest _ _⟩

theorem obliging_turn (acts : List Act) (act : Act) : Obliging (turn acts act).log :=
  (Environment.permissions_play _ environment).2

/-- An application registers two buttons, has both clicked, and goes to the background. -/
def visit : List Act :=
  [.register app .location locationButton "", .register app .save lowerButton "",
    click 1000 locationButton 150 130, click 1001 lowerButton 150 330, .background app.pid]

/-- Then it withdraws its buttons, and dies. -/
def abandoned : List Act := visit ++ [.unregister app 1000, .unregister app 1001, .died app.pid]

end Scene

open Scene in
theorem stripped_by_death_of_visitor :
    ∃ t : Turn, Run settings fresh (turns visit) t.before ∧ t.Taken settings ∧ t.act = .died app.pid ∧
      PermissionStore.empty.Bare app.token ∧ Obliging (exchanges (turns visit) ++ t.log) ∧
      (Stripped (PermissionStore.empty.follow (exchanges (turns visit) ++ t.log)) t.after app.token ↔
        (∃ p, t.before.table.processes.get? app.pid = some p ∧ p.token = app.token) ∨
          Stripped (PermissionStore.empty.follow (exchanges (turns visit))) t.before app.token) := by
  have run := run_before_turn visit (.died app.pid)
  have taken := taken_turn visit (.died app.pid)
  have bare := PermissionStore.bare_empty app.token
  have obliging := obliging_append.mpr ⟨obliging_turns visit, obliging_turn visit (.died app.pid)⟩
  exact ⟨_, run, taken, rfl, bare, obliging, stripped_by_death_iff run taken rfl bare obliging⟩

open Scene in
/-- An application that has withdrawn its buttons dies, and its identity keeps everything: the save
grant with its timer, the capability with its permission and its deferred revocation. -/
theorem spared_by_death :
    ∃ turns r, Run settings fresh turns r ∧ turns.map (·.act) = abandoned ∧
      Obliging (exchanges turns) ∧ r.ledger.serialsOf 537 = [0] ∧ r.ledger.kindsOf 537 = [.location] ∧
      (PermissionStore.empty.follow (exchanges turns)).has 537 .location = true ∧
      r.timers.contains (saveKey 537 0) = true ∧ r.timers.contains (backgroundKey 537) = true := by
  refine ⟨_, _, run_turns abandoned, map_act_turns _, obliging_turns _, ?_, ?_, ?_, ?_, ?_⟩
  · decide +kernel
  · decide +kernel
  · decide +kernel
  · decide +kernel
  · decide +kernel

/-- What is asked about the identity of a process that has died while it was registered, after any run
with an identity store that refuses nothing: it may not save, it has no capability, and nothing that is
still to come is about it. -/
theorem destitute_by_death {now : UInt64} {consents : ConsentStore} {metrics : Option Metrics}
    {turns : List Turn} {t : Turn} {p : Registration}
    (run : Run s (.start now consents metrics) turns t.before) (taken : t.Taken s)
    (act : t.act = .died pid) (registered : t.before.table.processes.get? pid = some p)
    (bare : store.Bare p.token) (obliging : Obliging (exchanges turns ++ t.log)) :
    t.after.ledger.saveCount p.token = 0 ∧ t.after.verifySavePermission p.token = false ∧
      (∀ kind, t.after.ledger.hasCapability p.token kind = false) ∧
      ∀ e ∈ t.after.timers.entries, ∀ serial,
        e.event ≠ .saveExpired p.token serial ∧ e.event ≠ .backgroundExpired p.token := by
  obtain ⟨before, after⟩ := obliging_append.mp obliging
  have backed := run.backed before (Backed.of_bare bare)
  have sound := taken.outcome.sound run.sound.1
  have stripped := (taken.dies act).stripped run.sound.1 after backed registered
  have none := stripped.saveCount_eq_zero sound
  refine ⟨none, ?_, fun kind => ?_, fun e he => stripped.event_ne sound he⟩
  · show decide (0 < t.after.ledger.saveCount p.token) = false
    rw [none]
    rfl
  · rw [Ledger.hasCapability, stripped.capabilities]
    rfl

end Registry

end ClickGrant
