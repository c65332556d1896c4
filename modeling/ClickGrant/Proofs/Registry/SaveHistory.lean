import ClickGrant.Proofs.Grant.Expiry
import ClickGrant.Proofs.Registry.Grants
import ClickGrant.Proofs.Registry.Standalone

/-!
# Save permission and the history of clicks

How many save grants an identity has can be told from the turns that have been taken, without
looking at the ledger: it is how many granted clicks on save components of its processes have not
expired, and have not been followed by the death of a process of the identity (`unexpired`). What
is proved:
  1. `Turn.Taken.balanced` — what each act does to the outstanding save grants: a granted click on a
     save component adds one, a death drops those of an identity, a timer that goes off takes the one
     that it was set for, and nothing else does anything.
  2. `Records.ordinary`, `Records.tick` — so the outstanding grants stay those of the history when the
     clock stands still, and when it moves and what is due is handled at once.
  3. `saveCount_eq_unexpired` — so for every configuration that is accepted, after every `Timely`
     run, the count of an identity's save grants is that of the history, and the identity may save
     exactly if it is positive. Asking whether it may is a function of the state, so it changes
     nothing.

Serials and slots are numbers of 64 bits that are used in a cycle, so it takes a run of fewer than
2^64 schedulings for them to be told apart.
-/
set_option autoImplicit false

namespace ClickGrant.Registry

variable {s : Settings} {r r' : Registry} {log : List Exchange} {act : Act}
  {reply : Except Refusal Unit} {token : Token} {live : List SaveGrant} {turns past : List Turn}

/-! ## What the history says -/

/-- The identity that a granted click on a save component was credited to. -/
def Turn.saver (t : Turn) : Option Token :=
  match t.act, t.reply with
  | .reportClick caller _ c _ _ _, .ok _ =>
    if c.kind = .save then (t.before.table.processes.get? caller.pid).map (·.token) else none
  | _, _ => none

/-- The identity that a process was registered under when it died. -/
def Turn.buried (t : Turn) : Option Token :=
  match t.act with
  | .died pid => (t.before.table.processes.get? pid).map (·.token)
  | _ => none

/-- How many clicks have given an identity a save grant that lasts at the time `now`, and after
which no process registered under the identity has died. -/
def unexpired (delay now : UInt64) (token : Token) : List Turn → Nat
  | [] => 0
  | t :: later =>
    (if t.saver = some token ∧ now.toNat < t.before.now.toNat + delay.toNat ∧
        ∀ u ∈ later, u.buried ≠ some token then 1 else 0) + unexpired delay now token later

theorem unexpired_append (delay now : UInt64) (token : Token) (t : Turn) : ∀ turns : List Turn,
    unexpired delay now token (turns ++ [t]) =
      (if t.buried = some token then 0 else unexpired delay now token turns) +
        if t.saver = some token ∧ now.toNat < t.before.now.toNat + delay.toNat then 1 else 0
  | [] => by simp [unexpired]
  | u :: later => by
    have more : (∀ v ∈ later ++ [t], v.buried ≠ some token) ↔
        (∀ v ∈ later, v.buried ≠ some token) ∧ t.buried ≠ some token := by
      simp only [List.mem_append, List.mem_singleton, or_imp, forall_and, forall_eq]
    rw [List.cons_append, unexpired, unexpired, unexpired_append delay now token t later]
    simp only [more]
    by_cases gone : t.buried = some token
    · simp [gone]
    · simp [gone, Nat.add_assoc]

/-- The act neither moves the clock nor reports a timer that the queue has not. -/
def Act.Ordinary : Act → Prop
  | .setClock _ => False
  | .fire _ => False
  | _ => True

/-- The clock never goes back nor reaches its last time, and whenever it moves, what is due is
handled at once. -/
inductive Timely : List Turn → Prop where
  | nil : Timely []
  | act {t : Turn} {turns : List Turn} (ordinary : t.act.Ordinary) (later : Timely turns) :
      Timely (t :: turns)
  | tick {t u : Turn} {turns : List Turn} {now : UInt64} (moves : t.act = .setClock now)
      (forward : t.before.now ≤ now) (early : now < lastTime) (fires : u.act = .runDueTimers)
      (later : Timely turns) : Timely (t :: u :: turns)

/-- The turn has scheduled a timer. -/
def Turn.schedules (t : Turn) : Bool := t.after.timers.nextSeq ≠ t.before.timers.nextSeq

/-! ## News about processes -/

/-- What news from the foreground or the background does to the grants: at most it cancels or
schedules the revocation that is deferred for an identity. -/
inductive DeferOnly (d : GrantDelays) (g : GrantState) : GrantState → Prop where
  | same : DeferOnly d g g
  | cancelled (token : Token) : DeferOnly d g (GrantState.cancelDeferred token g).2
  | deferred (token : Token) : DeferOnly d g (GrantState.deferRevocation d token g).2

theorem deferOnly_processForeground (d : GrantDelays) (pid : Pid) (r : Registry) :
    DeferOnly d r.toGrantState (processForeground pid r).2.toGrantState := by
  cases found : r.table.processes.get? pid with
  | none => rw [processForeground_of_none found]; exact .same
  | some p => rw [processForeground_of_some found]; exact .cancelled p.token

theorem deferOnly_processBackground (s : Settings) (pid : Pid) (r : Registry) :
    DeferOnly s.delays r.toGrantState (processBackground s pid r).2.toGrantState := by
  cases found : r.table.processes.get? pid with
  | none => rw [processBackground_of_none found]; exact .same
  | some p => rw [processBackground_of_some found]; exact .deferred p.token

/-! ## Clock and count of schedulings -/

/-- The clock stands still, and one timer is scheduled at most. -/
structure Steady (g g' : GrantState) : Prop where
  now : g'.now = g.now
  nextSeq : g'.timers.nextSeq = g.timers.nextSeq ∨ g'.timers.nextSeq = g.timers.nextSeq + 1

theorem IdleOnly.steady {g g' : GrantState} (h : IdleOnly g g') : Steady g g' := by
  cases h with
  | same => exact ⟨rfl, .inl rfl⟩
  | armed deadline => exact ⟨rfl, .inr (TimerQueue.nextSeq_schedule ..)⟩
  | disarmed => exact ⟨rfl, .inl (TimerQueue.nextSeq_remove ..)⟩

theorem DeferOnly.steady {d : GrantDelays} {g g' : GrantState} (h : DeferOnly d g g') :
    Steady g g' := by
  cases h with
  | same => exact ⟨rfl, .inl rfl⟩
  | cancelled token => exact ⟨rfl, .inl (TimerQueue.nextSeq_remove ..)⟩
  | deferred token =>
    unfold GrantState.deferRevocation
    split
    · exact ⟨rfl, .inr (TimerQueue.nextSeq_schedule ..)⟩
    · exact ⟨rfl, .inl rfl⟩

theorem nextSeq_forfeited (token : Token) (g : GrantState) :
    (forfeited token g).timers.nextSeq = g.timers.nextSeq :=
  (GrantState.nextSeq_dropCapabilities token _).trans (GrantState.nextSeq_revokeSaves token g)

theorem Fires.grants_eq {fired : TimerEvent} (h : Fires r fired log r') :
    r'.toGrantState = GrantState.handled r.toGrantState fired := by
  cases h with
  | save token serial => exact toGrantState_withdrawSave token serial r
  | background => rfl
  | idle => exact toGrantState_beginShutdown r

theorem FiresAll.grants_eq {events : List TimerEvent} (h : FiresAll r events log r') :
    r'.toGrantState = events.foldl GrantState.handled r.toGrantState := by
  induction h with
  | nil r => rfl
  | cons first others ih => rw [ih, first.grants_eq, List.foldl_cons]

theorem Outcome.steady (h : Outcome s r act log reply r') (still : ∀ now, act ≠ .setClock now) :
    Steady r.toGrantState r'.toGrantState := by
  have same {g : GrantState} (eq : g = r.toGrantState) : Steady r.toGrantState g :=
    eq ▸ ⟨rfl, .inl rfl⟩
  cases h with
  | register f ends => exact ends.idleOnly.steady
  | update ends => exact same ends.grants_eq
  | unregister ends => exact ends.idleOnly.steady
  | reportClick f ends =>
    rw [toGrantState_measure]
    cases reply with
    | error e => exact same ends.grants_of_error
    | ok =>
      obtain ⟨token, _, grants⟩ := ends.grants_of_ok
      rw [grants]
      unfold credited
      split
      · exact ⟨rfl, .inr (GrantState.nextSeq_grantSave s.delays token _)⟩
      · exact ⟨rfl, .inl rfl⟩
  | foreground pid => exact (deferOnly_processForeground s.delays pid r).steady
  | background pid => exact (deferOnly_processBackground s pid r).steady
  | died ends =>
    obtain ⟨-, eq⟩ | ⟨p, -, idle⟩ := ends.grants
    · exact same eq
    · have steady := idle.steady
      exact ⟨steady.now.trans (GrantState.now_revokeSaves p.token _),
        nextSeq_forfeited p.token r.toGrantState ▸ steady.nextSeq⟩
  | armIdleExit => exact (IdleOnly.armed _).steady
  | fire ends =>
    rw [ends.grants_eq]
    exact ⟨GrantState.now_handled .., .inl (GrantState.nextSeq_handled ..)⟩
  | runDueTimers ends =>
    obtain ⟨seq, -, now⟩ := GrantState.counters_runDue r.toGrantState
    rw [ends.grants_eq]
    exact ⟨now, .inl seq⟩
  | setClock now => exact absurd rfl (still now)

theorem Outcome.of_setClock {now : UInt64} (h : Outcome s r (.setClock now) log reply r') :
    r' = { r with now } := by
  cases h
  rfl

theorem Outcome.of_runDueTimers (h : Outcome s r .runDueTimers log reply r') :
    r'.toGrantState = r.toGrantState.ranDue := by
  cases h with
  | runDueTimers ends => exact ends.grants_eq

/-- The count of schedulings goes up with each turn that schedules a timer. -/
theorem Turn.Taken.nextSeq {t : Turn} (taken : t.Taken s)
    (few : t.before.timers.nextSeq.toNat + [t].countP (·.schedules) < UInt64.size) :
    t.after.timers.nextSeq.toNat = t.before.timers.nextSeq.toNat + [t].countP (·.schedules) := by
  rw [List.countP_singleton, Turn.schedules] at few ⊢
  simp only [decide_eq_true_eq] at few ⊢
  refine toNat_of_step ?_ few
  by_cases moves : ∃ now, t.act = .setClock now
  · obtain ⟨now, act⟩ := moves
    have outcome := taken.outcome
    rw [act] at outcome
    rw [outcome.of_setClock]
    exact .inl rfl
  · exact (taken.outcome.steady fun now same => moves ⟨now, same⟩).nextSeq

/-! ## Outstanding grants -/

theorem IdleOnly.balanced {g g' : GrantState} (h : IdleOnly g g') {d : GrantDelays}
    (balanced : GrantState.Balanced d live [] g) (few : g.timers.nextSeq ≤ g'.timers.nextSeq) :
    GrantState.Balanced d live [] g' := by
  cases h with
  | same => exact balanced
  | armed deadline => exact balanced.schedule .idleExpired deadline (by simp) few
  | disarmed => exact balanced.remove (by simp)

theorem DeferOnly.balanced {g g' : GrantState} {d : GrantDelays} (h : DeferOnly d g g')
    (balanced : GrantState.Balanced d live [] g) (few : g.timers.nextSeq ≤ g'.timers.nextSeq) :
    GrantState.Balanced d live [] g' := by
  cases h with
  | same => exact balanced
  | cancelled token => exact balanced.cancelDeferred token
  | deferred token => exact balanced.deferRevocation token few

/-- The save grant that a turn has given. -/
def Turn.grants (t : Turn) : List SaveGrant :=
  t.saver.toList.map fun token => ⟨token, t.before.ledger.nextSerial, t.before.now⟩

theorem Turn.grants_of_granted {t : Turn} {caller : Caller} {id : ComponentId} {c : Component}
    {declared : String} {event : ClickEvent} {handle : Option UInt64} {p : Registration}
    (act : t.act = .reportClick caller id c declared event handle) (granted : t.reply = .ok ())
    (found : t.before.table.processes.get? caller.pid = some p) :
    t.grants =
      if c.kind = .save then [⟨p.token, t.before.ledger.nextSerial, t.before.now⟩] else [] := by
  rw [Turn.grants, Turn.saver, act, granted]
  simp only [found, Option.map_some]
  split <;> rfl

theorem Turn.buried_of_died {t : Turn} {pid : Pid} {p? : Option Registration}
    (act : t.act = .died pid) (found : t.before.table.processes.get? pid = p?) :
    t.buried = p?.map (·.token) := by
  rw [Turn.buried, act, ← found]

theorem balanced_credited {g : GrantState} (balanced : GrantState.Balanced s.delays live [] g)
    (kind : Kind) (few : g.timers.nextSeq ≤ (credited s token kind g).timers.nextSeq) :
    GrantState.Balanced s.delays
      (live ++ if kind = .save then [⟨token, g.ledger.nextSerial, g.now⟩] else []) []
      (credited s token kind g) := by
  cases kind with
  | save => exact balanced.grantSave token few
  | location => exact (List.append_nil live).symm ▸ balanced.addCapability token .location
  | paste => exact (List.append_nil live).symm ▸ balanced.addCapability token .paste

theorem balanced_forfeited {g : GrantState} {d : GrantDelays} (balanced : GrantState.Balanced d live [] g)
    (token : Token) :
    GrantState.Balanced d (live.filter (some token ≠ some ·.token)) [] (forfeited token g) := by
  have others : live.filter (some token ≠ some ·.token) = live.filter (·.token ≠ token) := by
    refine List.filter_congr fun x _ => ?_
    rw [decide_eq_decide, ne_eq, ne_eq, Option.some.injEq, eq_comm]
  rw [others]
  exact (balanced.revokeSaves token).dropCapabilities token

/-- The timers that go off in a turn. -/
def Turn.fired (t : Turn) : List TimerEvent :=
  match t.act with
  | .fire event => [event]
  | .runDueTimers => t.before.toGrantState.takeDue.1
  | _ => []

/-- A granted click on a save component adds a grant, a death drops those of an identity, timers
that go off take the grants whose expiry they announce, and nothing else changes what is
outstanding, whatever the clock shows. -/
theorem Turn.Taken.balanced {t : Turn} (taken : t.Taken s)
    (balanced : GrantState.Balanced s.delays live [] t.before.toGrantState)
    (few : t.before.timers.nextSeq ≤ t.after.timers.nextSeq) :
    GrantState.Balanced s.delays
      (live.filter (fun x => t.buried ≠ some x.token ∧ x.expiry ∉ t.fired) ++ t.grants) []
      t.after.toGrantState := by
  have kept (alive : t.buried = none) (quiet : t.fired = []) (none : t.saver = none)
      (after : GrantState.Balanced s.delays live [] t.after.toGrantState) :
      GrantState.Balanced s.delays
        (live.filter (fun x => t.buried ≠ some x.token ∧ x.expiry ∉ t.fired) ++ t.grants) []
        t.after.toGrantState := by
    rw [alive, quiet, Turn.grants, none, List.filter_eq_self.mpr (by simp)]
    simpa using after
  -- a turn in which timers go off does nothing else
  have expired (alive : t.buried = none) (none : t.saver = none)
      (after : GrantState.Balanced s.delays (live.filter (·.expiry ∉ t.fired)) [] t.after.toGrantState) :
      GrantState.Balanced s.delays
        (live.filter (fun x => t.buried ≠ some x.token ∧ x.expiry ∉ t.fired) ++ t.grants) []
        t.after.toGrantState := by
    rw [alive, Turn.grants, none]
    simpa using after
  obtain ⟨r, act, log, reply, r'⟩ := t
  have outcome : Outcome s r act log reply r' := taken.outcome
  cases outcome with
  | register f ends => exact kept rfl rfl rfl (ends.idleOnly.balanced balanced few)
  | update ends => exact kept rfl rfl rfl (ends.grants_eq ▸ balanced)
  | unregister ends => exact kept rfl rfl rfl (ends.idleOnly.balanced balanced few)
  | @reportClick _ _ c _ _ _ _ _ r' f ends =>
    cases reply with
    | error e => exact kept rfl rfl rfl (ends.grants_of_error ▸ balanced)
    | ok =>
      obtain ⟨token, door, grants⟩ := ends.grants_of_ok
      obtain ⟨p, _, found, -, -, rfl⟩ := door.present
      have few : r.timers.nextSeq ≤ r'.timers.nextSeq := few
      show GrantState.Balanced s.delays _ [] r'.toGrantState
      rw [grants] at few ⊢
      rw [Turn.grants_of_granted rfl rfl found,
        List.filter_eq_self.mpr (by simp [Turn.buried, Turn.fired])]
      exact balanced_credited balanced c.kind few
  | foreground pid =>
    exact kept rfl rfl rfl ((deferOnly_processForeground s.delays pid r).balanced balanced few)
  | background pid =>
    exact kept rfl rfl rfl ((deferOnly_processBackground s pid r).balanced balanced few)
  | died ends =>
    obtain ⟨absent, same⟩ | ⟨p, found, idle⟩ := ends.grants
    · refine kept ?_ rfl rfl (same ▸ balanced)
      rw [Turn.buried_of_died rfl absent, Option.map_none]
    · have quiet (x : SaveGrant) : (some p.token ≠ some x.token ∧ x.expiry ∉ ([] : List TimerEvent)) ↔
          some p.token ≠ some x.token := by simp
      rw [Turn.buried_of_died rfl found]
      show GrantState.Balanced s.delays
        (live.filter (fun x => some p.token ≠ some x.token ∧ x.expiry ∉ ([] : List TimerEvent)) ++ []) []
        r'.toGrantState
      simp only [quiet, List.append_nil]
      exact idle.balanced (balanced_forfeited balanced p.token)
        (nextSeq_forfeited p.token r.toGrantState ▸ few)
  | armIdleExit => exact kept rfl rfl rfl ((IdleOnly.armed _).balanced balanced few)
  | @fire event _ _ ends =>
    have coming : GrantState.Balanced s.delays live [event] r.toGrantState :=
      { balanced with timed := fun x hx => .inl ((balanced.timed x hx).resolve_right (by simp)) }
    exact expired rfl rfl (ends.grants_eq ▸ coming.handledAll)
  | runDueTimers ends =>
    exact expired rfl rfl (ends.grants_eq ▸ (balanced.takeDue r.now).handledAll)
  | setClock now =>
    refine kept rfl rfl rfl (balanced.of_eq ?_ rfl rfl rfl)
    exact ⟨balanced.sound.timers, balanced.sound.counted, balanced.sound.expiring⟩

/-- While the clock stands still, nothing that lasts expires. -/
theorem Turn.Taken.outstanding {t : Turn} (taken : t.Taken s) (ordinary : t.act.Ordinary)
    (balanced : GrantState.Balanced s.delays live [] t.before.toGrantState)
    (few : t.before.timers.nextSeq ≤ t.after.timers.nextSeq) (early : t.before.now < lastTime)
    (lasting : ∀ x ∈ live, x.Lasts s.delays.save t.before.now) :
    GrantState.Balanced s.delays (live.filter (fun x => t.buried ≠ some x.token) ++ t.grants) []
      t.after.toGrantState := by
  have silent (x : SaveGrant) (hx : x ∈ live) : x.expiry ∉ t.fired := by
    unfold Turn.fired
    split
    next fires => rw [fires] at ordinary; cases ordinary
    next => exact (balanced.expiry_mem_iff early hx).mpr (lasting x hx)
    next => exact List.not_mem_nil
  have same : live.filter (fun x => t.buried ≠ some x.token) =
      live.filter (fun x => t.buried ≠ some x.token ∧ x.expiry ∉ t.fired) :=
    List.filter_congr fun x hx => decide_eq_decide.mpr (and_iff_left (silent x hx)).symm
  rw [same]
  exact taken.balanced balanced few

/-! ## Along a run -/

/-- The outstanding save grants are those that the history tells of. -/
structure Records (s : Settings) (past : List Turn) (r : Registry) (live : List SaveGrant) : Prop where
  balanced : GrantState.Balanced s.delays live [] r.toGrantState
  early : r.now < lastTime
  lasting : ∀ x ∈ live, x.Lasts s.delays.save r.now
  /-- Now and at any time after. -/
  counted : ∀ token later, r.now ≤ later →
    live.countP (fun x => x.token = token ∧ x.Lasts s.delays.save later) =
      unexpired s.delays.save later token past

theorem records_start {now : UInt64} {consents : ConsentStore} {metrics : Option Metrics}
    (early : now < lastTime) : Records s [] (.start now consents metrics) [] where
  balanced := GrantState.balanced_start s.delays now
  early := early
  lasting := nofun
  counted := fun _ _ _ => rfl

/-- Of the grants that are left after a turn, none belongs to the identity of a process that has
died. -/
theorem countP_left (t : Turn) (live : List SaveGrant) (token : Token) (delay later : UInt64) :
    (live.filter (fun x => t.buried ≠ some x.token)).countP
        (fun x => x.token = token ∧ x.Lasts delay later) =
      if t.buried = some token then 0
      else live.countP (fun x => x.token = token ∧ x.Lasts delay later) := by
  rw [List.countP_filter]
  split
  next gone =>
    rw [List.countP_eq_zero]
    intro x _ h
    simp only [Bool.and_eq_true, decide_eq_true_eq] at h
    exact h.2 (h.1.1 ▸ gone)
  next alive =>
    refine List.countP_congr fun x _ => ?_
    simp only [Bool.and_eq_true, decide_eq_true_eq, and_iff_left_iff_imp]
    intro h gone
    exact alive (h.1 ▸ gone)

theorem countP_grants (t : Turn) (token : Token) (delay later : UInt64) :
    t.grants.countP (fun x => x.token = token ∧ x.Lasts delay later) =
      if t.saver = some token ∧ later.toNat < t.before.now.toNat + delay.toNat then 1 else 0 := by
  unfold Turn.grants
  cases t.saver with
  | none => rfl
  | some saver =>
    show List.countP _ [_] = _
    rw [List.countP_singleton]
    simp only [decide_eq_true_eq, Option.some.injEq]
    rfl

/-- A new grant lasts, since the delay is not zero. -/
theorem lasts_of_mem_grants {t : Turn} {delay : UInt64} {x : SaveGrant} (positive : delay ≠ 0)
    (hx : x ∈ t.grants) : x.Lasts delay t.before.now := by
  obtain ⟨token, -, rfl⟩ := List.mem_map.mp hx
  have positive : 0 < delay.toNat := Nat.pos_of_ne_zero fun zero => positive (UInt64.toNat_inj.mp zero)
  exact Nat.lt_add_of_pos_right positive

theorem Records.ordinary {t : Turn} (records : Records s past t.before live) (taken : t.Taken s)
    (ordinary : t.act.Ordinary) (few : t.before.timers.nextSeq ≤ t.after.timers.nextSeq)
    (delay : s.delays.save ≠ 0) :
    Records s (past ++ [t]) t.after (live.filter (fun x => t.buried ≠ some x.token) ++ t.grants) := by
  have still : ∀ now, t.act ≠ .setClock now := by
    intro now act
    rw [act] at ordinary
    cases ordinary
  have now := (taken.outcome.steady still).now
  refine ⟨taken.outstanding ordinary records.balanced few records.early records.lasting,
    now ▸ records.early, ?_, ?_⟩
  · rw [now]
    intro x hx
    rcases List.mem_append.mp hx with old | new
    · exact records.lasting x (List.mem_filter.mp old).1
    · exact lasts_of_mem_grants delay new
  · intro token later after
    rw [List.countP_append, unexpired_append, countP_left, countP_grants,
      records.counted token later (now ▸ after)]

theorem Records.tick {t u : Turn} {now : UInt64} (records : Records s past t.before live)
    (first : t.Taken s) (moves : t.act = .setClock now) (forward : t.before.now ≤ now)
    (early : now < lastTime) (next : u.before = t.after) (second : u.Taken s)
    (fires : u.act = .runDueTimers) :
    Records s (past ++ [t, u]) u.after (live.filter (·.Lasts s.delays.save now)) := by
  have set := first.outcome
  have ran := second.outcome
  rw [moves] at set
  rw [fires] at ran
  have ran : u.after.toGrantState = GrantState.ranDue { t.before.toGrantState with now } := by
    rw [ran.of_runDueTimers, next, set.of_setClock]
  have clock : u.after.now = now :=
    (congrArg GrantState.now ran).trans (GrantState.counters_runDue _).2.2
  have set : GrantState.Balanced s.delays live [] { t.before.toGrantState with now } :=
    records.balanced.of_eq ⟨records.balanced.sound.timers, records.balanced.sound.counted,
      records.balanced.sound.expiring⟩ rfl rfl rfl
  refine ⟨ran ▸ set.runDue early, clock ▸ early, ?_, ?_⟩
  · rw [clock]
    intro x hx
    exact of_decide_eq_true (List.mem_filter.mp hx).2
  · intro token later after
    rw [clock] at after
    have same : unexpired s.delays.save later token (past ++ [t, u]) =
        unexpired s.delays.save later token past := by
      rw [show past ++ [t, u] = past ++ [t] ++ [u] from by simp, unexpired_append, unexpired_append]
      simp [Turn.buried, Turn.saver, moves, fires]
    rw [same, ← records.counted token later (UInt64.le_trans forward after), List.countP_filter]
    -- what lasts until later lasts now
    refine List.countP_congr fun x _ => ?_
    simp only [Bool.and_eq_true, decide_eq_true_eq, and_iff_left_iff_imp]
    intro h
    exact h.2.of_le after

/-- The outstanding grants stay those of the history all along a timely run. -/
theorem Timely.records (timely : Timely turns) (delay : s.delays.save ≠ 0) :
    ∀ {past : List Turn} {r : Registry} {live : List SaveGrant}, Records s past r live →
      r.timers.nextSeq.toNat = past.countP (·.schedules) →
      (past ++ turns).countP (·.schedules) < UInt64.size → Run s r turns r' →
      ∃ live', Records s (past ++ turns) r' live' := by
  induction timely with
  | nil =>
    intro past r live records _ _ run
    cases run
    rw [List.append_nil]
    exact ⟨live, records⟩
  | @act t turns ordinary _ ih =>
    intro past r live records seq few run
    cases run with
    | next taken rest =>
      rw [List.append_cons] at few ⊢
      rw [List.countP_append, List.countP_append] at few
      have next := taken.nextSeq (by omega)
      have grows : t.before.timers.nextSeq ≤ t.after.timers.nextSeq := by
        rw [UInt64.le_iff_toNat_le]
        omega
      refine ih (records.ordinary taken ordinary grows delay) ?_ ?_ rest
      · rw [List.countP_append, next, seq]
      · rw [List.countP_append, List.countP_append]
        exact few
  | @tick t u turns now moves forward early fires _ ih =>
    intro past r live records seq few run
    have split : past ++ t :: u :: turns = past ++ [t, u] ++ turns := by simp
    rw [split] at few ⊢
    have pair : [t, u].countP (·.schedules) = [t].countP (·.schedules) + [u].countP (·.schedules) :=
      @List.countP_append _ _ [t] [u]
    rw [List.countP_append, List.countP_append, pair] at few
    cases run with
    | next first rest =>
      generalize middle : t.after = v at rest
      cases rest with
      | next second rest =>
        have seqFirst := first.nextSeq (by omega)
        rw [middle] at seqFirst
        have seqSecond := second.nextSeq (by omega)
        refine ih (records.tick first moves forward early middle.symm second fires) ?_ ?_ rest
        · rw [List.countP_append, pair]
          omega
        · rw [List.countP_append, List.countP_append, pair]
          exact few

/-- A configuration is accepted only if save grants live for some time. -/
theorem saveRevokeDelay_ne_zero {c : Config} (accepted : c.validate = .ok ()) :
    c.timing.saveRevokeDelay ≠ 0 := by
  have listed : ("timing.save_revoke_delay_ms", c.timing.saveRevokeDelay) ∈ c.nonZeroSettings := by
    simp [Config.nonZeroSettings]
  exact Config.ne_zero_of_validate accepted listed

/-- After every timely run of a fresh service with a configuration that is accepted and fewer than 2^64
schedulings, the count of an identity's save grants is that of the history, and the identity may save
exactly if it is positive. Serials of grants and sequence numbers of timers have 64 bits and wrap
around: after 2^64 of them, a new grant could share its timer with one that has not expired yet. -/
theorem saveCount_eq_unexpired {c : Config} {classifier : Option WindowClassifier} {enhanced : Bool}
    {now : UInt64} {consents : ConsentStore} {metrics : Option Metrics}
    (accepted : c.validate = .ok ()) (early : now < lastTime)
    (run : Run (.ofConfig c classifier enhanced) (.start now consents metrics) turns r)
    (timely : Timely turns) (few : turns.countP (·.schedules) < UInt64.size) (token : Token) :
    let count := unexpired c.timing.saveRevokeDelay r.now token turns
    r.ledger.saveCount token = count ∧ (r.verifySavePermission token = true ↔ 0 < count) := by
  have delay : (Settings.ofConfig c classifier enhanced).delays.save ≠ 0 :=
    saveRevokeDelay_ne_zero accepted
  obtain ⟨live, records⟩ := timely.records delay (records_start early) rfl few run
  have count : r.ledger.saveCount token = unexpired c.timing.saveRevokeDelay r.now token turns := by
    have counted : _ = unexpired c.timing.saveRevokeDelay r.now token turns :=
      records.counted token r.now (UInt64.le_refl _)
    rw [records.balanced.sound.saveCount_eq, records.balanced.listed, serialsIn, List.length_map,
      ← List.countP_eq_length_filter, ← counted]
    refine List.countP_congr fun x hx => ?_
    simp only [decide_eq_true_eq, iff_self_and]
    exact fun _ => records.lasting x hx
  refine ⟨count, ?_⟩
  rw [← count]
  exact decide_eq_true_iff

namespace Scene

/-- A save button is clicked twice, half the life of a grant apart, and then the first of the two
grants comes to its end. -/
def clickedTwice : List Act :=
  [.register app .save saveButton "", click 1000 saveButton 150 130, .setClock 1030000, .runDueTimers,
    .reportClick app 1000 saveButton "" (.point 1030000 ⟨150, 130⟩ (some [1])) none,
    .setClock 1060000, .runDueTimers]

theorem timely_clickedTwice : Timely (Scene.turns clickedTwice) :=
  .act trivial (.act trivial (.tick rfl (by decide +kernel) (by decide) rfl
    (.act trivial (.tick rfl (by decide +kernel) (by decide) rfl .nil))))

end Scene

open Scene in
/-- The grant of the second click is left. -/
theorem one_unexpired_of_clickedTwice :
    config.validate = .ok () ∧ fresh.now < lastTime ∧
      Run (.ofConfig config none false) fresh (Scene.turns clickedTwice) (state clickedTwice) ∧
      Timely (Scene.turns clickedTwice) ∧ (Scene.turns clickedTwice).countP (·.schedules) < UInt64.size ∧
      let count := unexpired config.timing.saveRevokeDelay (state clickedTwice).now app.token
        (Scene.turns clickedTwice)
      count = 1 ∧ (state clickedTwice).ledger.saveCount app.token = count ∧
        ((state clickedTwice).verifySavePermission app.token = true ↔ 0 < count) := by
  have early : fresh.now < lastTime := by decide
  have few : (Scene.turns clickedTwice).countP (·.schedules) < UInt64.size := by decide +kernel
  have run := run_turns clickedTwice
  refine ⟨accepted_config, early, run, timely_clickedTwice, few, by decide +kernel, ?_⟩
  exact saveCount_eq_unexpired accepted_config early run timely_clickedTwice few app.token

end ClickGrant.Registry
