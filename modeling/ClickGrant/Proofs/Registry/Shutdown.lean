import ClickGrant.Proofs.Registry.Changes
import ClickGrant.Proofs.Registry.Disturbed
import ClickGrant.Proofs.Registry.Occupancy
import ClickGrant.Proofs.Registry.Processes
import ClickGrant.Proofs.Registry.Standalone

/-!
# Shutdown and registered processes exclude each other

The service goes down only in a moment in which nobody is registered, and takes nobody in once it is
down. Both are decided at one blow, so they exclude each other whatever is begun while a call waits
for a collaborator. What is proved, of all traffic:
  1. `Change.onward` — no change takes the service up again, and none brings shutdown and registered
     processes together.
  2. `RegistersAmid.of_ok` — a registration that succeeds leaves a running service with the new
     component stored. Posture is brought in line after that; nobody may move the registry while the
     enhancement module switches the input path, or the component could be gone again.
  3. `RegistersAmid.of_down` — a registration that finds the service down when it has been admitted
     stores nothing and is refused.
  4. `shutdown_excludes_components` puts them together.
-/
set_option autoImplicit false

namespace ClickGrant

namespace ComponentTable

variable {t : ComponentTable}

/-- A component is found where it was stored, under an identifier that was free. -/
theorem lookup?_insert {e : Entry} (free : t.isLive e.id = false) (pid : Pid) (token : Token) :
    (t.insert pid token e).lookup? pid e.id = some e := by
  unfold lookup?
  rw [get?_insert, if_pos rfl]
  show (_ ++ [e]).find? (fun e' : Entry => decide (e'.id = e.id)) = some e
  have none : ((t.processes.getD pid (.start token)).components.find?
      fun e' => decide (e'.id = e.id)) = none := by
    rw [List.find?_eq_none]
    intro e' he' same
    unfold Assoc.getD at he'
    cases found : t.processes.get? pid with
    | none =>
      rw [found] at he'
      cases he'
    | some p =>
      rw [found] at he'
      exact id_notMem_of_not_isLive free found (List.mem_map.mpr ⟨e', he', of_decide_eq_true same⟩)
  rw [List.find?_append, none]
  simp

/-- A component is taken out, and its process with the last one. -/
theorem thins_takenOut (t : ComponentTable) (pid : Pid) (id : ComponentId) :
    t.Thins ((t.take pid id).dropIfEmpty pid) :=
  (thins_take t pid id).trans (thins_dropIfEmpty (t.take pid id) pid)

end ComponentTable

/-- The enhancement module is told to protect the input path, or to stop. -/
def Request.isSwitch (q : Request) : Bool := q.switch?.isSome

namespace Registry

variable {s : Settings} {caller : Caller} {kind : Kind} {c : Component} {declared : String}
  {r r' u : Registry} {visits : List (Visit Registry)} {n : Nat}

/-! ## What every change keeps -/

/-- The service has not gone down with anybody registered. -/
def Exclusive (r : Registry) : Prop := r.shuttingDown = true → r.table.isEmpty = true

/-- The service does not come up again, and shutdown and registered processes stay apart. -/
structure Onward (r r' : Registry) : Prop where
  down : r.shuttingDown = true → r'.shuttingDown = true
  exclusive : Exclusive r → Exclusive r'

theorem Onward.refl (r : Registry) : Onward r r := ⟨id, id⟩

theorem Onward.trans (h₁ : Onward r u) (h₂ : Onward u r') : Onward r r' :=
  ⟨fun down => h₂.down (h₁.down down), fun apart => h₂.exclusive (h₁.exclusive apart)⟩

/-- Nobody is new, and the service stays as it is. -/
theorem onward_of_thins (same : r'.shuttingDown = r.shuttingDown)
    (thins : r.table.isEmpty = true → r'.table.isEmpty = true) : Onward r r' where
  down := fun down => same.trans down
  exclusive := fun apart down => thins (apart (same ▸ down))

theorem Calm.onward (calm : Calm r r') : Onward r r' where
  down := by
    intro down
    rcases calm.down with same | gone
    · exact same.trans down
    · exact gone.1
  exclusive := by
    intro apart down
    rcases calm.down with same | gone
    · exact calm.table.trans (apart (same ▸ down))
    · exact gone.2

theorem Change.onward (h : Change s r n r') : Onward r r' := by
  cases h with
  | stored stores =>
    -- the service is asked once more in the moment of storing
    obtain ⟨table, fits, rfl⟩ := fits_of_storeNew stores
    refine ⟨fun down => ?_, fun _ down => ?_⟩
    · rw [fits.running] at down
      cases down
    · have down : r.shuttingDown = true := down
      rw [fits.running] at down
      cases down
  | takenOut takes =>
    obtain ⟨-, rfl⟩ := takeOut_ok takes
    exact onward_of_thins rfl (ComponentTable.thins_takenOut r.table _ _).isEmpty
  | removed pid => exact onward_of_thins rfl (ComponentTable.thins_dropProcess _ pid).isEmpty
  | counted f => exact (calm_measure f r).onward
  | flagged caller => exact (calm_quarantineCaller caller r).onward
  | reshaped => exact (Calm.of_table (ComponentTable.isEmpty_modify ..)).onward
  | cameForward pid => exact (calm_processForeground pid r).onward
  | wentBack pid => exact (calm_processBackground s pid r).onward
  | unmarked => exact (Calm.of_table (ComponentTable.isEmpty_clearGranted ..)).onward
  | withdrewSave token serial => exact (calm_withdrawSave token serial r).onward
  | wentDown => exact (calm_beginShutdown r).onward
  | _ => exact onward_of_thins rfl id

theorem Changes.onward (h : Changes s n r r') : Onward r r' := by
  induction h with
  | none n r => exact .refl r
  | more _ change _ ih => exact ih.trans change.onward

theorem moves_onward (s : Settings) (act : Act) : (perform s act).Moves Onward :=
  fun r => (moves_perform s act r).mono fun _ _ => Changes.onward

/-! ## Registrations -/

theorem asks_syncPosture : (syncPosture s).Asks fun q => q.isSwitch = true := by
  unfold syncPosture
  refine Op.asks_get_bind fun r => ?_
  dsimp only
  split
  · refine Op.asks_bind (Op.asks_modify _ _) fun _ => ?_
    split
    · split
      · exact Op.asks_bind (Op.asks_ask rfl) fun _ => Op.asks_modify _ _
      · exact Op.asks_modify _ _
    · exact Op.asks_pure _ ()
  · split
    · split
      · exact Op.asks_bind (Op.asks_ask rfl) fun _ => Op.asks_modify _ _
      · exact Op.asks_modify _ _
    · exact Op.asks_pure _ ()

/-- Bringing posture and idle exit in line, while nobody else moves the registry. -/
theorem syncPosture_undisturbed {t : Registry} (h : (syncPosture s).Goes r visits () t)
    (still : ∀ v ∈ visits, v.exchange.request.isSwitch = true → v.found = v.asked) : t = synced s r := by
  have switches := asks_syncPosture.goes h
  exact (syncPosture_ends (h.does fun v hv => still v hv (switches v hv))).2

/-- What is asked on behalf of an admission was answered well, and the rules admit the component. -/
def Passed (s : Settings) (caller : Caller) (c : Component) (declared : String) (log : List Exchange) :
    Prop :=
  ∃ screen scale rect, s.validity.validateDrawn c ⟨screen, scale⟩ = .ok rect ∧
    log = survey c screen scale ++ inspection s caller (c.shownAt rect) declared

/-- An admission that was passed was not refused. -/
theorem Admits.not_passed {log : List Exchange} {e : Refusal} (h : Admits s caller c declared r log (.error e) r') :
    ¬Passed s caller c declared log := by
  rintro ⟨screen, scale, rect, verdict, same⟩
  cases h with
  | noScreen o => simp [survey] at same
  | noScale screen' o =>
    simp only [survey, List.cons_append, List.nil_append, List.cons.injEq] at same
    injection same.2.1 with _ answers
    cases answers
  | @invalid screen' scale' cause verdict' =>
    obtain ⟨rfl, rfl⟩ := survey_inj ((List.append_nil _).trans same)
    rw [verdict] at verdict'
    cases verdict'
  | @tampered screen' scale' rect' cause verdict' enhanced =>
    obtain ⟨rfl, rfl⟩ := survey_inj same
    obtain rfl : rect = rect' := Except.ok.inj (verdict.symm.trans verdict')
    rw [List.append_cancel_left_eq, inspection, if_pos enhanced, List.cons.injEq] at same
    injection same.1 with _ answers
    cases answers

/-- The component is stored, under an identifier that was free in one of these states. -/
def StoredAnew (starts : List Registry) (caller : Caller) (id : ComponentId) (c : Component)
    (r : Registry) : Prop :=
  (∃ u ∈ starts, u.table.isLive id = false) ∧ r.table.lookup? caller.pid id = some ⟨id, c⟩

/-- A registration that succeeds leaves a running service with the new component stored, if nobody
has moved the registry while the input path was switched. -/
theorem RegistersAmid.of_ok {id : ComponentId} (h : RegistersAmid s caller kind c declared r visits (.ok id) r')
    (still : ∀ v ∈ visits, v.exchange.request.isSwitch = true → v.found = v.asked) :
    r'.shuttingDown = false ∧ ∃ rect,
      StoredAnew (r :: visits.map (·.found)) caller id ((unmarked c).shownAt rect) r' := by
  cases h with
  | @stored v₁ v₂ c' _ table n u w t welcome same quiet found admitted fits stored posture =>
    obtain ⟨-, -, -, rect, -, rfl, -⟩ := admitted.of_ok
    obtain rfl := syncPosture_undisturbed posture fun v hv => still v (List.mem_append_right v₁ hv)
    have table_eq : (showActive n (synced s w)).table = w.table := table_synced s w
    have down_eq : (showActive n (synced s w)).shuttingDown = w.shuttingDown := by
      show (synced s w).shuttingDown = _
      unfold synced
      split
      · rfl
      · split <;> rfl
    obtain ⟨free, processes⟩ := ComponentTable.allocate_ends fits.free
    refine ⟨?_, rect, ⟨u, ?_, free⟩, ?_⟩
    · rw [down_eq, stored]
      exact fits.running
    · rw [found, List.map_append, ← List.cons_append]
      exact List.mem_append_left _ (lastFound_mem r v₁)
    · rw [table_eq, stored]
      refine ComponentTable.lookup?_insert (e := ⟨id, (unmarked c).shownAt rect⟩) ?_ caller.pid caller.token
      show table.isLive id = false
      unfold ComponentTable.isLive at free ⊢
      rw [processes]
      exact free

theorem storeNew_of_down (down : r.shuttingDown = true) : storeNew s caller c r = .error .exiting := by
  unfold storeNew
  rw [down]
  rfl

/-- A registration that found the service down once it was admitted stores nothing and is refused:
as the service that it is, unless admission had refused the component before. -/
theorem RegistersAmid.of_down {result : Except Refusal ComponentId} {v : Visit Registry}
    (h : RegistersAmid s caller kind c declared r visits result r')
    (ordered : (r :: visits.map (·.found)).Pairwise Onward) (hv : v ∈ visits)
    (other : v.exchange.request.isSwitch = false) (down : v.found.shuttingDown = true) :
    Kept (fun u t => t.table = u.table) r visits r' ∧ (∃ e, result = .error e) ∧
      (Passed s caller (unmarked c) declared (logOf visits) → result = .error .exiting) := by
  cases h with
  | barred => cases hv
  | otherKind => cases hv
  | unadmitted welcome same quiet refused =>
    refine ⟨?_, ⟨_, rfl⟩, fun passed => absurd passed refused.not_passed⟩
    have waited : Kept (fun u t : Registry => t.table = u.table) r visits (lastFound r visits) :=
      quiet.kept fun _ => rfl
    exact waited.then (fun _ _ _ h h' => h'.trans h) refused.table_eq
  | clash welcome same quiet found admitted why =>
    have last : r'.shuttingDown = true := by
      rw [found]
      exact (lastFound_latest Onward.refl ordered _ (.tail _ (List.mem_map_of_mem hv))).down down
    rw [storeNew_of_down last] at why
    cases why
    refine ⟨?_, ⟨_, rfl⟩, fun _ => rfl⟩
    rw [found]
    exact quiet.kept fun _ => rfl
  | @stored v₁ v₂ c' id table n u w t welcome same quiet found admitted fits stored posture =>
    -- the service cannot have been down when the component was stored
    refine absurd fits.running ?_
    rcases List.mem_append.mp hv with hv | hv
    · have earlier : (r :: v₁.map (·.found)).Pairwise Onward := by
        rw [List.map_append, ← List.cons_append] at ordered
        exact (List.pairwise_append.mp ordered).1
      have last := (lastFound_latest Onward.refl earlier _ (.tail _ (List.mem_map_of_mem hv))).down down
      rw [← found] at last
      rw [last]
      exact Bool.noConfusion
    · exact absurd (asks_syncPosture.goes posture v hv) (Bool.not_eq_true _ ▸ other)

/-! ## Traffic -/

/-- Whatever is begun while calls wait for their collaborators, the service is never down with
anybody registered, and never comes up again. A registration during which nobody moves the registry
while the input path is switched
* leaves a running service with the new component stored if it succeeds, and
* stores nothing and is refused if the service has gone down before it was admitted; if it was
  admitted nevertheless, it is refused because the service is about to end. -/
theorem shutdown_excludes_components (s : Settings) (now : UInt64) (consents : ConsentStore)
    (metrics : Option Metrics) (moves : List (Move Act)) :
    let t := trafficFrom s (.start now consents metrics) moves
    (t.state.shuttingDown = true → t.state.table.isEmpty = true) ∧
    (∀ more, t.state.shuttingDown = true → (t.run (perform s) more).state.shuttingDown = true) ∧
    ∀ call ∈ t.courses, ∀ caller kind c declared after reply,
      call.act = .register caller kind c declared → call.rest = .done after reply →
      (∀ v ∈ call.visits, v.exchange.request.isSwitch = true → v.found = v.asked) →
      (reply = .ok () → after.shuttingDown = false ∧ ∃ id rect,
        (register s caller kind c declared).Goes call.before call.visits (.ok id) after ∧
        StoredAnew call.starts caller id ((unmarked c).shownAt rect) after) ∧
      ((∃ v ∈ call.visits, v.exchange.request.isSwitch = false ∧ v.found.shuttingDown = true) →
        Kept (fun u t => t.table = u.table) call.before call.visits after ∧
        (∃ e, reply = .error e) ∧
        (Passed s caller (unmarked c) declared (logOf call.visits) → reply = .error .exiting)) := by
  intro t
  have genuine : Traffic.Genuine (perform s) t := (Traffic.genuine_start _).run moves
  have leads (t : Traffic Registry Act (Except Refusal Unit)) (genuine : Traffic.Genuine (perform s) t)
      (more : List (Move Act)) : Onward t.state (t.run (perform s) more).state :=
    Traffic.run_leads Onward.refl (fun _ _ _ => Onward.trans) (moves_onward s) genuine more
  refine ⟨(leads _ (Traffic.genuine_start _) moves).exclusive fun down => ?_,
    fun more => (leads t genuine more).down, ?_⟩
  · cases down
  intro call hcall caller kind c declared after reply act ended still
  obtain ⟨ordered, -⟩ :=
    Traffic.run_ordered Onward.refl (fun _ _ _ => Onward.trans) (moves_onward s) _ moves call hcall
  have goes := genuine.goes hcall ended
  rw [act] at goes
  obtain ⟨v, result, u, v', registers, done, visits⟩ := Op.goes_bind.mp goes
  obtain ⟨rfl, rfl, rfl⟩ := Op.goes_pure.mp done
  rw [List.append_nil] at visits
  subst visits
  obtain ⟨f, u, ends, rfl⟩ := register_goes registers
  constructor
  · intro ok
    cases result with
    | error e => cases ok
    | ok id =>
      obtain ⟨running, rect, stored⟩ := ends.of_ok still
      exact ⟨running, id, rect, registers, stored⟩
  · rintro ⟨v, hv, other, down⟩
    obtain ⟨kept, ⟨e, rfl⟩, exiting⟩ := ends.of_down ordered hv other down
    refine ⟨kept.then (fun _ _ _ h h' => h'.trans h) rfl, ⟨e, rfl⟩, fun passed => ?_⟩
    rw [exiting passed]
    rfl

namespace Scene

/-- The display that they report. -/
def display : Screen := { width := 1000, height := 2000, circular := false }

/-- While the first registration waits for the display, so long a time goes by that the service
ends. -/
def overslept : List (Move Act) :=
  [.begin .armIdleExit, .begin (.register app .save saveButton ""), .begin (.setClock 2000000000),
   .begin .runDueTimers, .answer 1 reply, .answer 1 reply]

end Scene

open Scene in
theorem refused_overslept :
    (trafficFrom settings fresh overslept).state.shuttingDown = true ∧
    (trafficFrom settings fresh overslept).state.table.isEmpty = true ∧
    ∃ call ∈ (trafficFrom settings fresh overslept).courses, ∃ after,
      call.act = .register app .save saveButton "" ∧ call.rest = .done after (.error .exiting) ∧
      Passed settings app (unmarked saveButton) "" (logOf call.visits) := by
  obtain ⟨apart, -, calls⟩ :=
    shutdown_excludes_components settings 1000000 (.ofFile .missing) none overslept
  have down : (trafficFrom settings fresh overslept).state.shuttingDown = true := by decide +kernel
  refine ⟨down, apart down, ?_⟩
  -- the second course is the registration
  have facts : ((trafficFrom settings fresh overslept).courses[1]?.any fun call =>
      (match call.rest with | .done .. => true | .ask .. => false) &&
      call.visits.all (fun v => !v.exchange.request.isSwitch) &&
      call.visits.any fun v => !v.exchange.request.isSwitch && v.found.shuttingDown) = true := by
    decide +kernel
  have log : (trafficFrom settings fresh overslept).courses[1]?.map (fun call => logOf call.visits) =
      some (survey (unmarked saveButton) display .unscaled) := rfl
  obtain ⟨call, found, facts⟩ := (Option.any_eq_true _ _).mp facts
  rw [found] at log
  have log : logOf call.visits = survey (unmarked saveButton) display .unscaled := Option.some.inj log
  have act : call.act = .register app .save saveButton "" :=
    (Option.some.inj (Traffic.act_of_number found)).symm
  rw [Bool.and_eq_true, Bool.and_eq_true] at facts
  obtain ⟨⟨ended, unswitched⟩, interrupted⟩ := facts
  have still : ∀ v ∈ call.visits, v.exchange.request.isSwitch = true → v.found = v.asked := by
    intro v hv switches
    have other := List.all_eq_true.mp unswitched v hv
    rw [switches] at other
    cases other
  obtain ⟨v, hv, interrupted⟩ := List.any_eq_true.mp interrupted
  rw [Bool.and_eq_true, Bool.not_eq_true'] at interrupted
  have passed : Passed settings app (unmarked saveButton) "" (logOf call.visits) := by
    have valid : (settings.validity.validateDrawn (unmarked saveButton) ⟨display, .unscaled⟩).isOk = true := by
      decide +kernel
    cases verdict : settings.validity.validateDrawn (unmarked saveButton) ⟨display, .unscaled⟩ with
    | error e => rw [verdict] at valid; cases valid
    | ok rect => exact ⟨display, .unscaled, rect, verdict, by rw [log]; rfl⟩
  cases rest : call.rest with
  | ask => rw [rest] at ended; cases ended
  | done after reply =>
    have member := List.mem_of_getElem? found
    obtain ⟨-, refused⟩ := calls call member app .save saveButton "" after reply act rest still
    obtain ⟨-, -, exiting⟩ := refused ⟨v, hv, interrupted⟩
    exact ⟨call, member, after, act, by rw [rest, exiting passed], passed⟩

end Registry

end ClickGrant
