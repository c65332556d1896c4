import ClickGrant.Proofs.Metrics
import ClickGrant.Proofs.Registry.Conviction
import ClickGrant.Proofs.Registry.Population

/-!
# What each act counts

`Turn.tally` says what one turn does to the metrics. An attempt to register counts one of its kind
and result, and so does the report of a click; a click that is granted counts as one of its kind;
whoever is flagged is counted; and the gauge shows how many components are stored. What is proved:
  1. `Registers.follows`, `Clicks.follows` and their like — before an attempt is counted, the counters
     have followed the flags and the gauge the table (`Follows`), on every exit of the call.
  2. `registered_gauged` and its like — the calls that change how many components are stored set the
     gauge to what is stored when they end.
  3. `Turn.Taken.metrics_eq` — so every turn changes the metrics as its tally says.
-/
set_option autoImplicit false

namespace ClickGrant

/-- A call that succeeds goes through both parts of a sequence. -/
theorem Call.does_bind_ok {σ α β : Type} {x : Call σ α} {f : α → Call σ β} {b : β} {s t : σ}
    {log : List Exchange} : Call.Does (x >>= f) s log (.ok b) t ↔
      ∃ l₁ a u l₂, Call.Does x s l₁ (.ok a) u ∧ Call.Does (f a) u l₂ (.ok b) t ∧ log = l₁ ++ l₂ := by
  rw [Call.does_bind]
  constructor
  · rintro (⟨e, -, ⟨⟩⟩ | h)
    exact h
  · exact .inr

theorem Quarantine.size_clear_le (q : Quarantine) (pid : Pid) : (q.clear pid).2.size ≤ q.size :=
  List.length_filter_le ..

namespace Registry

open Series (cell ofKind)

variable {s : Settings} {caller : Caller} {kind : Kind} {c : Component} {declared : String}
  {r r' u : Registry} {log : List Exchange} {id : ComponentId} {event : ClickEvent}
  {handle : Option UInt64} {pid : Pid} {act : Act} {reply : Except Refusal Unit} {t : Turn}

/-! ## Flags and gauge -/

/-- The gauge shows how many components are stored. -/
def Gauged (r : Registry) : Prop := ∀ m, r.metrics = some m → m.active = r.table.componentCount

theorem gauged_showActive (u : Registry) : Gauged (showActive u.table.componentCount u) := by
  intro m same
  obtain ⟨m', -, rfl⟩ := Option.map_eq_some_iff.mp same
  rfl

/-- The metrics after whoever was flagged between two states has been counted and the gauge shows
what is stored now. -/
def followed (r r' : Registry) (m : Metrics) : Metrics :=
  { m with
    quarantined := m.quarantined + (r'.quarantine.size - r.quarantine.size)
    active := r'.table.componentCount }

/-- Between the two states the counters have followed the flags and the gauge the table, and nothing
else was counted. -/
def Follows (r r' : Registry) : Prop := r'.metrics = r.metrics.map (followed r r')

/-- The same is counted, flagged and stored. -/
structure SameCounts (r r' : Registry) : Prop where
  metrics : r'.metrics = r.metrics
  quarantine : r'.quarantine = r.quarantine
  population : r'.table.componentCount = r.table.componentCount

theorem SameCounts.refl (r : Registry) : SameCounts r r := ⟨rfl, rfl, rfl⟩

theorem SameCounts.trans (h₁ : SameCounts r u) (h₂ : SameCounts u r') : SameCounts r r' :=
  ⟨h₂.metrics.trans h₁.metrics, h₂.quarantine.trans h₁.quarantine, h₂.population.trans h₁.population⟩

/-- Nothing has to be counted if nobody is newly flagged and as much is stored. -/
theorem Gauged.follows (gauged : Gauged r) (metrics : r'.metrics = r.metrics)
    (flags : r'.quarantine.size ≤ r.quarantine.size)
    (population : r'.table.componentCount = r.table.componentCount) : Follows r r' := by
  rw [Follows, metrics]
  cases before : r.metrics with
  | none => rfl
  | some m =>
    rw [Option.map_some, followed, population, Nat.sub_eq_zero_of_le flags, Nat.add_zero,
      ← gauged m before]

theorem Gauged.follows_of_same (gauged : Gauged r) (same : SameCounts r r') : Follows r r' :=
  gauged.follows same.metrics (Nat.le_of_eq (congrArg _ same.quarantine)) same.population

theorem Follows.same (h : Follows r u) (same : SameCounts u r') : Follows r r' := by
  unfold Follows followed at h ⊢
  rw [same.metrics, same.quarantine, same.population, h]

/-- Whoever is newly flagged is counted. -/
theorem Gauged.follows_quarantineCaller (gauged : Gauged r) (caller : Caller) :
    Follows r (quarantineCaller caller r) := by
  unfold quarantineCaller
  cases marked : r.quarantine.mark caller.pid caller.uid with
  | mk newly q =>
    cases newly with
    | false => exact gauged.follows_of_same (.refl r)
    | true =>
      have one : q = ⟨caller.pid :: r.quarantine.pids⟩ := by
        unfold Quarantine.mark at marked
        split at marked
        · cases marked
        · exact (Prod.mk.inj marked).2.symm
      subst one
      show r.metrics.map _ = r.metrics.map _
      refine Option.map_congr fun m before => ?_
      have size : (r.quarantine.pids.length + 1) - r.quarantine.pids.length = 1 := by omega
      simp only [followed, measure, Quarantine.size, List.length_cons, size, ← gauged m before]

/-! ## Declarations -/

theorem Admits.follows {result : Except Refusal Component}
    (h : Admits s caller c declared r log result r') (gauged : Gauged r) : Follows r r' := by
  cases h with
  | tampered => exact gauged.follows_quarantineCaller caller
  | _ => exact gauged.follows_of_same (.refl r)

theorem Believes.follows {result : Except Refusal Unit}
    (h : Believes s caller c event r log result r') (gauged : Gauged r) : Follows r r' := by
  cases h with
  | rejected =>
    split
    · exact gauged.follows_quarantineCaller caller
    · exact gauged.follows_of_same (.refl r)
  | _ => exact gauged.follows_of_same (.refl r)

theorem sameCounts_markInvalid (pid : Pid) (id : ComponentId) (r : Registry) :
    SameCounts r (markInvalid pid id r) := ⟨rfl, rfl, ComponentTable.componentCount_modify ..⟩

theorem sameCounts_synced (s : Settings) (r : Registry) : SameCounts r (synced s r) := by
  unfold synced
  split
  · exact ⟨rfl, rfl, rfl⟩
  · split <;> exact ⟨rfl, rfl, rfl⟩

/-- A call has changed how many components are stored, has flagged nobody, and has then set the
gauge. -/
theorem Follows.of_gauge {n : Nat} (gauged : Gauged r') (flags : r'.quarantine.size ≤ r.quarantine.size)
    (metrics : r'.metrics = r.metrics.map fun m => { m with active := n }) : Follows r r' := by
  rw [Follows, metrics]
  refine Option.map_congr fun m before => ?_
  have shown : n = r'.table.componentCount := gauged _ (by rw [metrics, before]; rfl)
  rw [followed, Nat.sub_eq_zero_of_le flags, Nat.add_zero, shown]

theorem Registers.follows {result : Except Refusal ComponentId}
    (h : Registers s caller kind c declared r log result r') (gauged : Gauged r)
    (last : ∀ id, result = .ok id → Gauged r') : Follows r r' := by
  cases h with
  | barred => exact gauged.follows_of_same (.refl r)
  | otherKind => exact gauged.follows_of_same (.refl r)
  | unadmitted _ _ refused => exact refused.follows gauged
  | clash => exact gauged.follows_of_same (.refl r)
  | @stored _ _ id _ n u _ _ _ _ stored =>
    have shown : (showActive n (synced s u)).metrics = r.metrics.map fun m => { m with active := n } := by
      rw [showActive_eq, measure, (sameCounts_synced s u).metrics, stored]
    have flags : (showActive n (synced s u)).quarantine = r.quarantine := by
      rw [showActive_eq, quarantine_measure, quarantine_synced, stored]
    exact .of_gauge (last id rfl) (Nat.le_of_eq (congrArg _ flags)) shown

theorem Updates.follows (h : Updates s caller id c declared r log reply r') (gauged : Gauged r) :
    Follows r r' := by
  cases h with
  | turnedAway => exact gauged.follows_of_same (.refl r)
  | unadmitted _ refused => exact (refused.follows gauged).same (sameCounts_markInvalid ..)
  | replaced => exact gauged.follows_of_same ⟨rfl, rfl, ComponentTable.componentCount_modify ..⟩

theorem Unregisters.follows (h : Unregisters s caller id r log reply r') (gauged : Gauged r)
    (last : reply = .ok () → Gauged r') : Follows r r' := by
  cases h with
  | @taken n u _ _ _ left =>
    have shown : (synced s (showActive n u)).metrics = r.metrics.map fun m => { m with active := n } := by
      rw [(sameCounts_synced s _).metrics, showActive_eq, measure, left]
    have flags : (synced s (showActive n u)).quarantine = r.quarantine := by
      rw [quarantine_synced, showActive_eq, quarantine_measure, left]
    exact .of_gauge (last rfl) (Nat.le_of_eq (congrArg _ flags)) shown
  | _ => exact gauged.follows_of_same (.refl r)

/-- A click that is refused counts no grant. -/
theorem Clicks.follows_of_error {e : Refusal}
    (h : Clicks s caller id c declared event handle r log (.error e) r') (gauged : Gauged r) :
    Follows r r' := by
  cases h with
  | turnedAway => exact gauged.follows_of_same (.refl r)
  | unadmitted _ refused => exact (refused.follows gauged).same (sameCounts_markInvalid ..)
  | unbelieved _ _ disbelief => exact disbelief.follows gauged
  | unconsented => exact gauged.follows_of_same (.refl r)
  | denied _ _ _ _ refused =>
    cases refused with
    | denied => exact gauged.follows_of_same ⟨rfl, rfl, rfl⟩

/-- One that is granted changes neither the flags nor how much is stored. -/
theorem Clicks.population_of_ok (h : Clicks s caller id c declared event handle r log (.ok ()) r') :
    r'.quarantine = r.quarantine ∧ r'.table.componentCount = r.table.componentCount := by
  cases h with
  | granted => exact ⟨rfl, ComponentTable.componentCount_modify ..⟩

/-! ## Lives and timers -/

theorem sameCounts_processForeground (pid : Pid) (r : Registry) :
    SameCounts r (processForeground pid r).2 := by
  cases found : r.table.processes.get? pid with
  | none => rw [processForeground_of_none found]; exact .refl r
  | some p =>
    rw [processForeground_of_some found]
    exact ⟨rfl, rfl, ComponentTable.componentCount_setForeground ..⟩

theorem sameCounts_processBackground (s : Settings) (pid : Pid) (r : Registry) :
    SameCounts r (processBackground s pid r).2 := by
  cases found : r.table.processes.get? pid with
  | none => rw [processBackground_of_none found]; exact .refl r
  | some p =>
    rw [processBackground_of_some found]
    exact ⟨rfl, rfl, ComponentTable.componentCount_setForeground ..⟩

theorem Fires.sameCounts {fired : TimerEvent} (h : Fires r fired log r') : SameCounts r r' := by
  cases h with
  | save token serial =>
    unfold withdrawSave changeGrants
    cases GrantState.revokeSave token serial r.toGrantState with
    | mk last g =>
      cases last with
      | true => exact ⟨rfl, rfl, ComponentTable.componentCount_clearGranted ..⟩
      | false => exact ⟨rfl, rfl, rfl⟩
  | background =>
    refine ⟨rfl, rfl, ?_⟩
    unfold backgrounded
    dsimp only
    split
    · rfl
    · exact ComponentTable.componentCount_clearGranted ..
  | idle =>
    unfold beginShutdown
    split
    · exact ⟨rfl, rfl, rfl⟩
    · exact .refl r

theorem FiresAll.sameCounts {events : List TimerEvent} (h : FiresAll r events log r') :
    SameCounts r r' :=
  h.keeps (SameCounts r) (fun first same => same.trans first.sameCounts) (.refl r)

/-- The death of a process that is not registered leaves the table as it was. -/
theorem Dies.follows (h : Dies s pid r log r') (once : r.table.processes.keys.Nodup) (gauged : Gauged r)
    (last : (r.table.processes.get? pid).isSome → Gauged r') : Follows r r' := by
  have flags : r'.quarantine.size ≤ r.quarantine.size := by
    rw [h.quarantine_eq]
    exact Quarantine.size_clear_le ..
  cases h with
  | unknown absent =>
    have dropped := ComponentTable.componentCount_dropProcess once pid
    rw [absent] at dropped
    exact gauged.follows rfl flags dropped
  | @known _ _ n u present _ left =>
    have shown : (synced s (showActive n u)).metrics = r.metrics.map fun m => { m with active := n } := by
      rw [(sameCounts_synced s _).metrics, showActive_eq, measure, left]
      rfl
    exact .of_gauge (last (by rw [present]; rfl)) flags shown

/-! ## The gauge is set to what is stored -/

/-- What was counted as the calls stored, took out or removed components. -/
theorem active_of_storeNew {n : Nat} (h : storeNew s caller c r = .ok ((id, n), r')) :
    n = r'.table.componentCount := by
  unfold storeNew at h
  dsimp only at h
  split at h
  · cases h
  · cases process : r.table.processes.get? caller.pid with
    | none =>
      cases found : r.table.allocate with
      | none => rw [process, found] at h; cases h
      | some fresh => rw [process, found] at h; cases h; rfl
    | some p =>
      simp only [process] at h
      split at h
      · cases h
      · cases apart : p.overlapping? c.screenRect none with
        | some _ => rw [apart] at h; cases h
        | none =>
          cases found : r.table.allocate with
          | none => rw [apart, found] at h; cases h
          | some fresh => rw [apart, found] at h; cases h; rfl

theorem active_of_takeOut {n : Nat} (h : takeOut pid id r = .ok (n, r')) :
    n = r'.table.componentCount := by
  unfold takeOut at h
  split at h
  · cases h
  · cases h; rfl

theorem gauged_synced (h : Gauged r) : Gauged (synced s r) := by
  intro m same
  rw [(sameCounts_synced s r).metrics] at same
  rw [(sameCounts_synced s r).population]
  exact h m same

theorem gauged_showActive_synced (s : Settings) (u : Registry) :
    Gauged (showActive u.table.componentCount (synced s u)) := by
  have shown := gauged_showActive (synced s u)
  rwa [(sameCounts_synced s u).population] at shown

/-- A registration that succeeds sets the gauge to what is stored then. -/
theorem registered_gauged
    (h : Call.Does (registerUncounted s caller kind c declared) r log (.ok id) r') : Gauged r' := by
  unfold registerUncounted at h
  -- the checks at the door and the admission come before anything is stored
  rw [Call.does_bind_ok] at h
  obtain ⟨_, _, _, _, -, h, -⟩ := h
  rw [Call.does_bind_ok] at h
  obtain ⟨_, _, _, _, -, h, -⟩ := h
  dsimp only at h
  split at h
  · obtain ⟨-, ⟨⟩, -⟩ := Call.does_throw_bind.mp h
  rw [Call.does_bind_ok] at h
  obtain ⟨_, c', v, _, -, h, -⟩ := h
  rw [Call.does_bind_ok] at h
  obtain ⟨_, ⟨id', n⟩, w, _, stores, h, -⟩ := h
  obtain ⟨-, ⟨_, _, ⟨⟩, -⟩ | ⟨_, stores, ⟨⟩⟩⟩ := Call.does_attempt.mp stores
  obtain ⟨_, _, _, _, sync, h, -⟩ := Call.does_liftM_bind.mp h
  obtain ⟨-, rfl⟩ := syncPosture_ends sync
  rw [Call.does_modify_bind, Call.does_pure] at h
  obtain ⟨-, -, rfl⟩ := h
  rw [active_of_storeNew stores]
  exact gauged_showActive_synced s w

theorem unregistered_gauged (h : Call.Does (unregister s caller id) r log (.ok ()) r') : Gauged r' := by
  unfold unregister at h
  rw [Call.does_bind_ok] at h
  obtain ⟨_, _, _, _, -, h, -⟩ := h
  rw [Call.does_bind_ok] at h
  obtain ⟨_, _, _, _, -, h, -⟩ := h
  rw [Call.does_bind_ok] at h
  obtain ⟨_, n, w, _, takes, h, -⟩ := h
  obtain ⟨-, ⟨_, _, ⟨⟩, -⟩ | ⟨_, takes, ⟨⟩⟩⟩ := Call.does_attempt.mp takes
  rw [Call.does_modify_bind] at h
  obtain ⟨_, sync, -⟩ := Call.does_liftM.mp h
  obtain ⟨-, rfl⟩ := syncPosture_ends sync
  rw [active_of_takeOut takes]
  exact gauged_synced (gauged_showActive w)

/-- The death of a registered process sets the gauge to what is left. -/
theorem buried_gauged (h : (processDied s pid).Does r log () r')
    (present : (r.table.processes.get? pid).isSome) : Gauged r' := by
  unfold processDied at h
  rw [Op.does_modifyGet_bind] at h
  obtain ⟨_, -, h⟩ := notice_ends h
  have removed : (removeProcess pid r).1.1 = r.table.processes.get? pid := rfl
  obtain ⟨p, present⟩ := Option.isSome_iff_exists.mp present
  rw [removed, present] at h
  dsimp only at h
  rw [Op.does_bind] at h
  obtain ⟨_, _, _, _, revoked, h, -⟩ := h
  obtain ⟨g, -, rfl⟩ := onGrants_ends revoked
  rw [Op.does_modify_bind] at h
  obtain ⟨-, rfl⟩ := syncPosture_ends h
  exact gauged_synced (gauged_showActive { (removeProcess pid r).2 with toGrantState := g })

/-! ## Grants -/

/-- The grant of a click that succeeds is counted, and nothing else is until the report itself is. -/
theorem granted_metrics {token : Token} (door : LetsIn r caller id c.kind token)
    (h : Call.Does (reportInside s caller id c declared event handle token) r log (.ok ()) r') :
    r'.metrics = r.metrics.map fun m => { m with grants := m.grants.add (ofKind c.kind) } := by
  unfold reportInside at h
  rw [Call.does_bind_ok] at h
  obtain ⟨_, c', _, _, passed, h, -⟩ := h
  obtain ⟨_, _, _, ⟨⟩, _⟩ | ⟨_, admitted, ⟨⟩⟩ := readmission_ends passed
  obtain ⟨rfl, -⟩ := admitted.of_ok
  rw [Call.does_bind_ok] at h
  obtain ⟨_, _, _, _, belief, h, -⟩ := h
  obtain rfl := (verifyEvent_ends belief).of_ok
  rw [Call.does_bind_ok] at h
  obtain ⟨_, _, _, _, gate, h, -⟩ := h
  obtain ⟨store, -, rfl⟩ := callConsents_ends gate
  rw [Call.does_bind_ok] at h
  obtain ⟨_, issued, _, _, given, h, -⟩ := h
  cases issue_ends given with
  | issued =>
    -- the component is still there, since nobody has disturbed the call
    obtain ⟨entry, found⟩ := door.present.lookup_isSome
    have h := storeGranted_ends h found
    rw [if_pos rfl] at h
    obtain ⟨-, -, rfl⟩ := Call.does_modify.mp h
    rfl

/-- What a report counts besides itself. -/
def withGrant (kind : Kind) (reply : Except Refusal Unit) (m : Metrics) : Metrics :=
  match reply with
  | .ok _ => { m with grants := m.grants.add (ofKind kind) }
  | .error _ => m

theorem reportClickUncounted_metrics
    (h : Call.Does (reportClickUncounted s caller id c declared event handle) r log reply r')
    (gauged : Gauged r) : r'.metrics = r.metrics.map fun m => withGrant c.kind reply (followed r r' m) := by
  have ends := reportClickUncounted_ends h
  cases reply with
  | error e => exact ends.follows_of_error gauged
  | ok =>
    obtain ⟨_, _, _, ⟨⟩, _⟩ | ⟨token, door, h⟩ :=
      door_ends (fun stored => .kindClicked id stored c.kind)
        (reportInside s caller id c declared event handle) h
    obtain ⟨flags, population⟩ := ends.population_of_ok
    rw [granted_metrics door h]
    refine Option.map_congr fun m before => ?_
    rw [withGrant, followed, flags, population, Nat.sub_self, Nat.add_zero, ← gauged m before]

/-! ## Turns -/

/-- What an act counts by its outcome: an attempt to register, or a report and its grant. -/
def counted (act : Act) (reply : Except Refusal Unit) (m : Metrics) : Metrics :=
  match act with
  | .register _ kind _ _ =>
    { m with registrations := m.registrations.add (cell kind (.ofResult reply)) }
  | .reportClick _ _ c _ _ _ =>
    withGrant c.kind reply { m with clicks := m.clicks.add (cell c.kind (.ofResult reply)) }
  | _ => m

/-- The metrics after a turn. -/
def Turn.tally (t : Turn) (m : Metrics) : Metrics := counted t.act t.reply (followed t.before t.after m)

/-- Posture and counts aside, a turn of a call without a count of its own. -/
theorem metrics_eq_of_follows (follows : Follows r r') (silent : ∀ m, counted act reply m = m) :
    r'.metrics = r.metrics.map fun m => counted act reply (followed r r' m) := by
  simp only [silent]
  exact follows

theorem metrics_perform (h : (perform s act).Does r log reply r') (once : r.table.processes.keys.Nodup)
    (gauged : Gauged r) : r'.metrics = r.metrics.map fun m => counted act reply (followed r r' m) := by
  cases act with
  | register caller kind c declared =>
    rw [perform, Op.does_bind] at h
    obtain ⟨_, result, _, _, done, h, -⟩ := h
    obtain ⟨-, rfl, rfl⟩ := Op.does_pure.mp h
    unfold register at done
    rw [Op.does_bind] at done
    obtain ⟨_, tried, u, _, tries, done, -⟩ := done
    rw [Op.does_modify_bind, Op.does_pure] at done
    obtain ⟨-, same, rfl⟩ := done
    subst same
    have follows : Follows r u := by
      refine (registerUncounted_ends tries).follows gauged fun id ok => ?_
      subst ok
      exact registered_gauged tries
    have code : ResultCode.ofResult (result.map fun _ => ()) = .ofResult result := by
      cases result <;> rfl
    show u.metrics.map _ = _
    rw [follows, Option.map_map]
    refine congrArg r.metrics.map (funext fun m => ?_)
    rw [counted, code]
    rfl
  | reportClick caller id c declared event handle =>
    change (reportClick s caller id c declared event handle).Does r log reply r' at h
    unfold reportClick at h
    rw [Op.does_bind] at h
    obtain ⟨_, tried, u, _, tries, h, -⟩ := h
    rw [Op.does_modify_bind, Op.does_pure] at h
    obtain ⟨-, same, rfl⟩ := h
    subst same
    show u.metrics.map _ = _
    rw [reportClickUncounted_metrics tries gauged, Option.map_map]
    refine congrArg r.metrics.map (funext fun m => ?_)
    cases reply <;> rfl
  | update caller id c declared => exact metrics_eq_of_follows ((update_ends h).follows gauged) fun _ => rfl
  | unregister caller id =>
    refine metrics_eq_of_follows ((unregister_ends h).follows gauged fun ok => ?_) fun _ => rfl
    subst ok
    exact unregistered_gauged h
  | foreground pid =>
    obtain ⟨_, done, rfl⟩ := done_ends h
    obtain ⟨-, -, rfl⟩ := Op.does_modifyGet.mp done
    exact metrics_eq_of_follows (gauged.follows_of_same (sameCounts_processForeground pid r)) fun _ => rfl
  | background pid =>
    obtain ⟨_, done, rfl⟩ := done_ends h
    obtain ⟨-, -, rfl⟩ := Op.does_modifyGet.mp done
    exact metrics_eq_of_follows (gauged.follows_of_same (sameCounts_processBackground s pid r)) fun _ => rfl
  | died pid =>
    obtain ⟨_, done, rfl⟩ := done_ends h
    exact metrics_eq_of_follows ((processDied_ends done).follows once gauged (buried_gauged done)) fun _ => rfl
  | armIdleExit =>
    obtain ⟨_, done, rfl⟩ := done_ends h
    obtain ⟨-, rfl⟩ := Op.does_modify.mp done
    exact metrics_eq_of_follows (gauged.follows_of_same ⟨rfl, rfl, rfl⟩) fun _ => rfl
  | fire event =>
    obtain ⟨_, done, rfl⟩ := done_ends h
    exact metrics_eq_of_follows (gauged.follows_of_same (handleTimer_ends done).sameCounts) fun _ => rfl
  | runDueTimers =>
    obtain ⟨_, done, rfl⟩ := done_ends h
    have taken : SameCounts r (takeDue r).2 := ⟨rfl, rfl, rfl⟩
    have fired := (runDueTimers_ends done).sameCounts
    exact metrics_eq_of_follows (gauged.follows_of_same (taken.trans fired)) fun _ => rfl
  | setClock now =>
    obtain ⟨_, done, rfl⟩ := done_ends h
    obtain ⟨-, rfl⟩ := Op.does_modify.mp done
    exact metrics_eq_of_follows (gauged.follows_of_same ⟨rfl, rfl, rfl⟩) fun _ => rfl

/-- Every turn changes the metrics as its tally says. -/
theorem Turn.Taken.metrics_eq (taken : t.Taken s) (once : t.before.table.processes.keys.Nodup)
    (gauged : Gauged t.before) : t.after.metrics = t.before.metrics.map t.tally :=
  metrics_perform taken once gauged

end Registry

end ClickGrant
