import ClickGrant.Proofs.Registry.Grants
import ClickGrant.Proofs.Registry.Standalone

/-!
# Who is flagged

A process is flagged when it is caught tampering (`Turn.Convicts`): a component it declares fails its
inspection, or it reports a click with an impossible time stamp or an empty payload. Calls made in
the superuser's name convict nobody. What is proved:
  1. `Turn.Taken.flags` — a turn convicts one process, which was not flagged before; or it is a
     death, which takes the flag of this process; or the same processes are flagged after it.
  2. `Turn.Taken.blocked` — what a flagged process declares is refused at the door, before anything
     else about it is looked at. Nothing but a count changes.
  3. `flagged_since_conviction` — so in every run the flagged processes are those that were
     convicted and have not died since.
-/
set_option autoImplicit false

namespace ClickGrant

namespace Quarantine

variable (q : Quarantine) (pid pid' : Pid)

theorem contains_clear :
    (q.clear pid).2.contains pid' = true ↔ q.contains pid' = true ∧ pid' ≠ pid := by
  simp [clear, contains]

/-- A process that can be flagged and is not is flagged in addition. -/
theorem mark_of_free {q : Quarantine} {pid : Pid} {uid : Uid} (mortal : uid ≠ superuser)
    (free : q.contains pid = false) : (q.mark pid uid).2 = ⟨pid :: q.pids⟩ := by
  have passes : ¬((uid = superuser || q.contains pid) = true) := by simp [mortal, free]
  rw [mark, if_neg passes]

theorem mark_of_superuser {q : Quarantine} {pid : Pid} {uid : Uid} (root : uid = superuser) :
    (q.mark pid uid).2 = q := by
  have stops : (uid = superuser || q.contains pid) = true := by simp [root]
  rw [mark, if_pos stops]

end Quarantine

namespace Registry

variable {s : Settings} {caller : Caller} {c : Component} {declared : String} {r r' : Registry}
  {log : List Exchange} {id : ComponentId} {kind : Kind} {event : ClickEvent} {handle : Option UInt64}
  {act : Act} {reply : Except Refusal Unit} {t : Turn} {pid : Pid} {α : Type}

/-! ## Tampering -/

/-- Who declares a component by an act: registers it, declares it anew, or reports a click on it. -/
def Act.declarer? : Act → Option Caller
  | .register caller .. | .update caller .. | .reportClick caller .. => some caller
  | _ => none

/-- The refusal of an act shows that its caller has tampered. -/
inductive Incriminates : Act → Refusal → Prop where
  /-- The component does not come from the trusted rendering path. -/
  | inspection {act : Act} (cause : EnhanceFailure) : Incriminates act (.integrityFailure cause)
  /-- The click was not made when it was said to be made. -/
  | timestamp {caller : Caller} {id : ComponentId} {c : Component} {declared : String}
      {event : ClickEvent} {handle : Option UInt64} (timestamp now : UInt64) :
      Incriminates (.reportClick caller id c declared event handle)
        (.clickInvalid (.invalidTimestamp timestamp now))
  /-- The click has no payload. -/
  | payload {caller : Caller} {id : ComponentId} {c : Component} {declared : String}
      {event : ClickEvent} {handle : Option UInt64} :
      Incriminates (.reportClick caller id c declared event handle) (.clickInvalid .missingExtraData)

/-- The result of an act shows that its caller has tampered. -/
def Caught (act : Act) (result : Except Refusal α) : Prop :=
  ∃ e, result = .error e ∧ Incriminates act e

theorem not_caught_ok (act : Act) (a : α) : ¬Caught act (.ok a : Except Refusal α) := by
  rintro ⟨e, same, -⟩
  cases same

theorem caught_error {e : Refusal} : Caught act (.error e : Except Refusal α) ↔ Incriminates act e := by
  constructor
  · rintro ⟨e', same, shows⟩
    cases same
    exact shows
  · intro shows
    exact ⟨e, rfl, shows⟩

/-- The caller's process is flagged if this is so, and otherwise the flags are as they were. -/
def Judges (caller : Caller) (r : Registry) (guilty : Prop) (r' : Registry) : Prop :=
  (guilty ∧ r'.quarantine = (r.quarantine.mark caller.pid caller.uid).2) ∨
    (¬guilty ∧ r'.quarantine = r.quarantine)

/-- A refusal that shows nothing leaves the flags as they are. -/
theorem Judges.refused {e : Refusal} (innocent : ¬Incriminates act e)
    (same : r'.quarantine = r.quarantine) :
    Judges caller r (Caught act (.error e : Except Refusal α)) r' :=
  .inr ⟨fun caught => innocent (caught_error.mp caught), same⟩

/-- So does what is not refused. -/
theorem Judges.passed {a : α} (same : r'.quarantine = r.quarantine) :
    Judges caller r (Caught act (.ok a : Except Refusal α)) r' := .inr ⟨not_caught_ok act a, same⟩

@[simp] theorem quarantine_quarantineCaller (caller : Caller) (r : Registry) :
    (quarantineCaller caller r).quarantine = (r.quarantine.mark caller.pid caller.uid).2 := by
  unfold quarantineCaller
  cases marked : r.quarantine.mark caller.pid caller.uid with
  | mk newly q =>
    cases newly with
    | true => rfl
    | false =>
      -- nobody is flagged newly, so the flags are as they were
      unfold Quarantine.mark at marked
      split at marked
      · cases marked; rfl
      · cases marked

@[simp] theorem quarantine_synced (s : Settings) (r : Registry) :
    (synced s r).quarantine = r.quarantine := by
  unfold synced
  split
  · rfl
  · split <;> rfl

/-! ## Calls -/

theorem Bars.not_incriminates {e : Refusal} (h : Bars r caller e) : ¬Incriminates act e := by
  cases h <;> nofun

theorem TurnsAway.not_incriminates {mismatch : Kind → BadArgument} {e : Refusal}
    (h : TurnsAway r caller id kind mismatch e) : ¬Incriminates act e := by
  cases h with
  | barred why => exact why.not_incriminates
  | negative => nofun
  | unknown => nofun
  | otherKind => nofun

theorem Admits.judges {result : Except Refusal Component} (act : Act)
    (h : Admits s caller c declared r log result r') : Judges caller r (Caught act result) r' := by
  cases h with
  | noScreen => exact .refused nofun rfl
  | noScale => exact .refused nofun rfl
  | invalid => exact .refused nofun rfl
  | tampered cause =>
    exact .inl ⟨caught_error.mpr (.inspection cause), quarantine_quarantineCaller caller r⟩
  | admitted => exact .passed rfl

/-- A component is not stored because the service is about to end, or for a conflict. -/
theorem refusal_of_storeNew {e : Refusal} (h : storeNew s caller c r = .error e) :
    e = .exiting ∨ ∃ clash, e = .conflict clash := by
  unfold storeNew at h
  dsimp only at h
  split at h
  · cases h; exact .inl rfl
  · refine .inr ?_
    cases process : r.table.processes.get? caller.pid with
    | none =>
      cases found : r.table.allocate with
      | none => rw [process, found] at h; cases h; exact ⟨_, rfl⟩
      | some fresh => rw [process, found] at h; cases h
    | some p =>
      simp only [process] at h
      split at h
      · cases h; exact ⟨_, rfl⟩
      · cases under : p.overlapping? c.screenRect none with
        | some _ => rw [under] at h; cases h; exact ⟨_, rfl⟩
        | none =>
          cases found : r.table.allocate with
          | none => rw [under, found] at h; cases h; exact ⟨_, rfl⟩
          | some fresh => rw [under, found] at h; cases h

/-- A component that cannot be stored shows no tampering. -/
theorem storeNew_not_incriminates {e : Refusal} (h : storeNew s caller c r = .error e) :
    ¬Incriminates act e := by
  intro incriminates
  obtain rfl | ⟨clash, rfl⟩ := refusal_of_storeNew h
  · cases incriminates
  · cases incriminates

theorem Registers.judges {result : Except Refusal ComponentId} (act : Act)
    (h : Registers s caller kind c declared r log result r') :
    Judges caller r (Caught act result) r' := by
  cases h with
  | barred why => exact .refused why.not_incriminates rfl
  | otherKind => exact .refused nofun rfl
  | unadmitted _ _ refused =>
    have judged := refused.judges act
    rwa [Judges, caught_error] at judged ⊢
  | clash _ _ _ why => exact .refused (storeNew_not_incriminates why) rfl
  | stored _ _ _ _ stored =>
    subst stored
    exact .passed (by simp)

theorem Updates.judges {reply : Except Refusal Unit} (act : Act)
    (h : Updates s caller id c declared r log reply r') : Judges caller r (Caught act reply) r' := by
  cases h with
  | turnedAway why => exact .refused why.not_incriminates rfl
  | unadmitted _ refused =>
    have judged := refused.judges act
    rwa [Judges, caught_error] at judged ⊢
  | replaced => exact .passed rfl

theorem Believes.judges {result : Except Refusal Unit} {c' : Component}
    (h : Believes s caller c' event r log result r') :
    Judges caller r (Caught (.reportClick caller id c declared event handle) result) r' := by
  cases h with
  | untrusted => exact .refused nofun rfl
  | unseen => exact .refused nofun rfl
  | @rejected _ _ cause =>
    -- a rejection counts as tampering exactly if it shows that
    cases cause with
    | invalidTimestamp timestamp now =>
      exact .inl ⟨caught_error.mpr (.timestamp timestamp now), quarantine_quarantineCaller caller r⟩
    | missingExtraData => exact .inl ⟨caught_error.mpr .payload, quarantine_quarantineCaller caller r⟩
    | _ => exact .refused nofun rfl
  | believed => exact .passed rfl

theorem Clicks.judges (h : Clicks s caller id c declared event handle r log reply r') :
    Judges caller r (Caught (.reportClick caller id c declared event handle) reply) r' := by
  cases h with
  | turnedAway why => exact .refused why.not_incriminates rfl
  | unadmitted _ refused =>
    have judged := refused.judges (.reportClick caller id c declared event handle)
    rwa [Judges, caught_error] at judged ⊢
  | unbelieved _ _ disbelief => exact disbelief.judges
  | unconsented _ _ _ gate =>
    refine .refused ?_ rfl
    cases gate <;> nofun
  | denied _ _ _ _ refused =>
    cases refused
    exact .refused nofun rfl
  | granted => exact .passed rfl

/-! ## Flagged processes are kept out -/

/-- What a caller is told who is not let in. -/
def barredReply (r : Registry) (caller : Caller) : Refusal :=
  if r.shuttingDown then .exiting else .quarantined caller.pid

theorem Bars.eq_barredReply {e : Refusal} (h : Bars r caller e) : e = barredReply r caller := by
  unfold barredReply
  cases h with
  | exiting down => rw [if_pos down]
  | quarantined running => rw [running]; rfl

/-- A flagged caller is not welcome. -/
theorem Welcomes.absurd {claim : Prop} (welcome : Welcomes r caller)
    (flagged : r.quarantine.contains caller.pid = true) : claim := by
  have trusted := welcome.trusted
  rw [flagged] at trusted
  cases trusted

theorem TurnsAway.eq_barredReply {mismatch : Kind → BadArgument} {e : Refusal}
    (h : TurnsAway r caller id kind mismatch e) (flagged : r.quarantine.contains caller.pid = true) :
    e = barredReply r caller := by
  cases h with
  | barred why => exact why.eq_barredReply
  | negative welcome => exact welcome.absurd flagged
  | unknown welcome => exact welcome.absurd flagged
  | otherKind welcome => exact welcome.absurd flagged

theorem Outcome.blocked (h : Outcome s r act log reply r') (declares : act.declarer? = some caller)
    (flagged : r.quarantine.contains caller.pid = true) :
    log = [] ∧ reply = .error (barredReply r caller) ∧ ∃ f, r' = measure f r := by
  cases h with
  | register f ends =>
    cases declares
    cases ends with
    | barred why => exact ⟨rfl, by rw [why.eq_barredReply]; rfl, f, rfl⟩
    | otherKind welcome => exact welcome.absurd flagged
    | unadmitted welcome => exact welcome.absurd flagged
    | clash welcome => exact welcome.absurd flagged
    | stored welcome => exact welcome.absurd flagged
  | update ends =>
    cases declares
    cases ends with
    | turnedAway why => exact ⟨rfl, by rw [why.eq_barredReply flagged], id, (measure_id r).symm⟩
    | unadmitted door => exact door.welcome.absurd flagged
    | replaced door => exact door.welcome.absurd flagged
  | reportClick f ends =>
    cases declares
    cases ends with
    | turnedAway why => exact ⟨rfl, by rw [why.eq_barredReply flagged], f, rfl⟩
    | unadmitted door => exact door.welcome.absurd flagged
    | unbelieved door => exact door.welcome.absurd flagged
    | unconsented door => exact door.welcome.absurd flagged
    | denied door => exact door.welcome.absurd flagged
    | granted _ door => exact door.welcome.absurd flagged
  | _ => cases declares

/-! ## Turns -/

theorem caught_map (act : Act) (result : Except Refusal α) :
    Caught act (result.map fun _ => ()) ↔ Caught act result := by
  cases result with
  | error e => rw [Except.map, caught_error, caught_error]
  | ok a => exact iff_of_false (not_caught_ok act ()) (not_caught_ok act a)

theorem Outcome.judges (h : Outcome s r act log reply r') (declares : act.declarer? = some caller) :
    Judges caller r (Caught act reply) r' := by
  cases h with
  | register f ends =>
    cases declares
    rw [Judges, caught_map, quarantine_measure]
    exact ends.judges _
  | update ends => cases declares; exact ends.judges _
  | reportClick f ends => cases declares; exact ends.judges
  | _ => cases declares

@[simp] theorem quarantine_withdrawSave (token : Token) (serial : UInt64) (r : Registry) :
    (withdrawSave token serial r).quarantine = r.quarantine := by
  unfold withdrawSave changeGrants
  cases GrantState.revokeSave token serial r.toGrantState with
  | mk last g => cases last <;> rfl

theorem Fires.quarantine_eq {fired : TimerEvent} (h : Fires r fired log r') :
    r'.quarantine = r.quarantine := by
  cases h with
  | save token serial => exact quarantine_withdrawSave token serial r
  | background => rfl
  | idle => unfold beginShutdown; split <;> rfl

theorem FiresAll.quarantine_eq {events : List TimerEvent} (h : FiresAll r events log r') :
    r'.quarantine = r.quarantine :=
  h.keeps (fun u => u.quarantine = r.quarantine) (fun first same => first.quarantine_eq.trans same) rfl

theorem Dies.quarantine_eq (h : Dies s pid r log r') :
    r'.quarantine = (r.quarantine.clear pid).2 := by
  cases h with
  | unknown => rfl
  | known _ _ left =>
    subst left
    simp [removeProcess]

/-- An act that declares nothing flags nobody, and only a death takes a flag away. -/
theorem Outcome.quarantine_eq (h : Outcome s r act log reply r') (silent : act.declarer? = none)
    (alive : ∀ pid, act ≠ .died pid) : r'.quarantine = r.quarantine := by
  cases h with
  | register => cases silent
  | update => cases silent
  | reportClick => cases silent
  | unregister ends =>
    cases ends with
    | taken _ _ _ left => subst left; simp
    | _ => rfl
  | foreground pid =>
    cases found : r.table.processes.get? pid with
    | none => rw [processForeground_of_none found]
    | some p => rw [processForeground_of_some found]
  | background pid =>
    cases found : r.table.processes.get? pid with
    | none => rw [processBackground_of_none found]
    | some p => rw [processBackground_of_some found]
  | @died pid => exact absurd rfl (alive pid)
  | armIdleExit => rfl
  | fire ends => exact ends.quarantine_eq
  | runDueTimers ends => exact ends.quarantine_eq
  | setClock now => rfl

/-- In this turn a process is caught tampering, by a call that is not made in the superuser's name. -/
def Turn.Convicts (t : Turn) (pid : Pid) : Prop :=
  ∃ caller, t.act.declarer? = some caller ∧ caller.pid = pid ∧ caller.uid ≠ superuser ∧
    Caught t.act t.reply

/-- What a turn can do to the flags. -/
inductive Turn.Flags (t : Turn) : Prop where
  | convicted (pid : Pid) (why : t.Convicts pid) (free : t.before.quarantine.contains pid = false)
      (left : t.after.quarantine = ⟨pid :: t.before.quarantine.pids⟩)
  | released (pid : Pid) (death : t.act = .died pid)
      (left : t.after.quarantine = (t.before.quarantine.clear pid).2)
  | kept (nobody : ∀ pid, ¬t.Convicts pid) (alive : ∀ pid, t.act ≠ .died pid)
      (left : t.after.quarantine = t.before.quarantine)

/-- Whoever is caught was let in, so it was not flagged. -/
theorem Outcome.free_of_caught (h : Outcome s r act log reply r')
    (declares : act.declarer? = some caller) (caught : Caught act reply) :
    r.quarantine.contains caller.pid = false := by
  rw [← Bool.not_eq_true]
  intro flagged
  obtain ⟨-, refused, -⟩ := h.blocked declares flagged
  rw [refused, caught_error, barredReply] at caught
  split at caught <;> cases caught

theorem Turn.Taken.flags (taken : t.Taken s) : t.Flags := by
  have outcome := taken.outcome
  cases declares : t.act.declarer? with
  | none =>
    by_cases death : ∃ pid, t.act = .died pid
    · obtain ⟨pid, death⟩ := death
      exact .released pid death (taken.dies death).quarantine_eq
    · have alive := not_exists.mp death
      refine .kept ?_ alive (outcome.quarantine_eq declares alive)
      rintro pid ⟨caller, declares', -⟩
      rw [declares] at declares'
      cases declares'
  | some caller =>
    -- only this caller can be convicted
    have alone : ∀ pid, t.Convicts pid → caller.uid ≠ superuser ∧ Caught t.act t.reply := by
      rintro pid ⟨caller', declares', -, mortal, caught⟩
      rw [declares] at declares'
      cases declares'
      exact ⟨mortal, caught⟩
    have alive : ∀ pid, t.act ≠ .died pid := by
      intro pid death
      rw [death] at declares
      cases declares
    rcases outcome.judges declares with ⟨caught, left⟩ | ⟨innocent, left⟩
    · by_cases root : caller.uid = superuser
      · rw [Quarantine.mark_of_superuser root] at left
        exact .kept (fun pid convicts => (alone pid convicts).1 root) alive left
      · have free := outcome.free_of_caught declares caught
        rw [Quarantine.mark_of_free root free] at left
        exact .convicted caller.pid ⟨caller, declares, rfl, root, caught⟩ free left
    · exact .kept (fun pid convicts => innocent (alone pid convicts).2) alive left

/-! ## Runs -/

/-- Who is flagged after a turn has been convicted in it, or was flagged and has not died in it. -/
theorem Turn.Taken.contains_iff (taken : t.Taken s) (pid : Pid) :
    t.after.quarantine.contains pid = true ↔
      t.Convicts pid ∨ (t.before.quarantine.contains pid = true ∧ ¬t.act = .died pid) := by
  cases taken.flags with
  | convicted pid' why free left =>
    obtain ⟨caller, declares, here, mortal, caught⟩ := why
    have alive : ¬t.act = .died pid := by
      intro death
      rw [death] at declares
      cases declares
    have convicts : t.Convicts pid ↔ pid = pid' := by
      constructor
      · rintro ⟨caller', declares', there, -⟩
        rw [declares] at declares'
        cases declares'
        exact there.symm.trans here
      · rintro rfl
        exact ⟨caller, declares, here, mortal, caught⟩
    rw [left, convicts]
    simp [Quarantine.contains, alive]
  | released pid' death left =>
    have nobody : ¬t.Convicts pid := by
      rintro ⟨caller, declares, -⟩
      rw [death] at declares
      cases declares
    have dies : Act.died pid' = .died pid ↔ pid = pid' := by
      constructor
      · intro same
        exact (Act.died.inj same).symm
      · rintro rfl
        rfl
    rw [left, Quarantine.contains_clear, death, dies, or_iff_right nobody]
  | kept nobody alive left =>
    rw [left]
    simp [nobody pid, alive pid]

/-- In every run of a fresh registry a process is flagged exactly if it was convicted in a turn after
which it has not died; a turn flags whom it convicts, a death takes the flag away, and every other
turn leaves the flags as they are; and what a flagged process registers, declares anew or reports as
clicked is refused at the door, with no trace but a count. -/
theorem flagged_since_conviction {now : UInt64} {consents : ConsentStore} {metrics : Option Metrics}
    {turns : List Turn} (run : Run s (start now consents metrics) turns r) :
    (∀ pid, r.quarantine.contains pid = true ↔
      Since (fun t => t.Convicts pid) (fun t => t.act = .died pid) turns) ∧
    ∀ t ∈ turns, t.Flags ∧ ∀ caller, t.act.declarer? = some caller →
      t.before.quarantine.contains caller.pid = true →
        t.log = [] ∧ t.reply = .error (barredReply t.before caller) ∧
          ∃ f, t.after = measure f t.before := by
  constructor
  · intro pid
    have history := run.holds_iff (fun r => r.quarantine.contains pid = true) fun t taken =>
      taken.contains_iff pid
    rw [history]
    -- nobody is flagged at the start
    have free : ¬(start now consents metrics).quarantine.contains pid = true := nofun
    exact or_iff_left fun h => free h.1
  · intro t ht
    have taken := run.taken t ht
    exact ⟨taken.flags, fun caller declares flagged => taken.outcome.blocked declares flagged⟩

namespace Scene

/-- A button is registered, an old click on it is reported, and then it is declared anew. -/
def caught : List Act :=
  [.register app .save saveButton "",
   .reportClick app 1000 saveButton "" (.point 0 ⟨150, 130⟩ (some [1])) none,
   .update app 1000 saveButton ""]

end Scene

open Scene in
/-- The application that has reported an old click is flagged since then. -/
theorem flagged_since_old_click :
    Run settings fresh (turns caught) (state caught) ∧
      (state caught).quarantine.contains app.pid = true ∧
      Since (fun t => t.Convicts app.pid) (fun t => t.act = .died app.pid) (turns caught) := by
  have flagged : (state caught).quarantine.contains app.pid = true := by decide +kernel
  have history := (flagged_since_conviction (run_turns caught)).1 app.pid
  exact ⟨run_turns caught, flagged, history.mp flagged⟩

end Registry

end ClickGrant
