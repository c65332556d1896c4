import ClickGrant.Proofs.Registry.Grants
import ClickGrant.Proofs.Registry.Standalone

/-!
# No grant without a verified click

What is proved:
  1. `Outcome.atMost` — no act but a granted click gives any identity anything: not a call that is
     refused, not news about a process, and not a timer, whether it was pending or not.
  2. `Clicks.verified` — a granted click has passed every check, in this order: the caller at the
     door, the component's new declaration, the event against the windows on screen, and the user's
     consent; then the identity store has given every permission of the kind. `Verified` says what
     each check has seen, and that nothing else was asked.
  3. `gained_only_by_verified_click` — so whoever holds more after a turn than before it has been
     clicked for, on a component of exactly this kind.

The rectangle that the validity rules yield for the new declaration is the one the event is tested
against; what was stored before, and where it was drawn then, plays no part.
-/
set_option autoImplicit false

namespace ClickGrant.Registry

variable {s : Settings} {caller : Caller} {id : ComponentId} {c : Component} {declared : String}
  {event : ClickEvent} {handle : Option UInt64} {r r' : Registry} {log : List Exchange} {token : Token}

/-- What the collaborators say about a click. -/
structure Testimony where
  screen : Screen
  scale : WindowScale
  /-- Where the component is drawn, by the validity rules. -/
  rect : Rect
  /-- What was asked about the event. -/
  asked : List Exchange
  windows : List Window
  /-- What was asked about the user's consent. -/
  agreed : List Exchange

/-- A click has passed every check, and this is what each of them has seen. -/
structure Verified (s : Settings) (caller : Caller) (id : ComponentId) (c : Component)
    (declared : String) (event : ClickEvent) (handle : Option UInt64) (token : Token) (w : Testimony)
    (r : Registry) (log : List Exchange) (r' : Registry) : Prop where
  running : r.shuttingDown = false
  trusted : r.quarantine.contains caller.pid = false
  stored : StoredAs r caller.pid id c.kind token
  drawn : s.validity.validateDrawn c ⟨w.screen, w.scale⟩ = .ok w.rect
  looked : Looks caller event w.asked w.windows
  believed : s.verifier.checkClick (c.shownAt w.rect) event r.now w.windows = .ok ()
  /-- A pointer click hits the component where it is drawn now, and nothing covers it there. -/
  hit : ∀ timestamp target extra, event = .point timestamp target extra →
    w.rect.containsPoint target s.verifier.epsilon = true ∧
      s.verifier.classifier.check c.windowId w.rect w.windows = .ok ()
  consented : Consents s.requiredKinds token c.kind handle r.consents w.agreed (.ok ()) r'.consents
  /-- Everything that was asked: screen and window, the enhancement module if there is one, the
  event, the user, and the identity store for each permission. All of it was answered well. -/
  asked : log = survey c w.screen w.scale ++ (inspection s caller (c.shownAt w.rect) declared ++
    (w.asked ++ (w.agreed ++ GrantState.gives token c.kind.permissions)))
  credited : r'.toGrantState = credited s token c.kind r.toGrantState

/-- What a believed pointer click has passed. -/
theorem hit_of_checkClick {v : ClickVerifier} {rect : Rect} {now : UInt64} {windows : List Window}
    (h : v.checkClick (c.shownAt rect) event now windows = .ok ()) (timestamp : UInt64)
    (target : Point) (extra : Option (List UInt8)) (sort : event = .point timestamp target extra) :
    rect.containsPoint target v.epsilon = true ∧ v.classifier.check c.windowId rect windows = .ok () := by
  subst sort
  unfold ClickVerifier.checkClick at h
  -- the time is checked first, then the hit, and then the windows above
  cases stamp : v.checkTimestamp (ClickEvent.point timestamp target extra).timestamp now with
  | error cause => rw [stamp] at h; cases h
  | ok =>
    rw [stamp] at h
    change v.checkPoint (c.shownAt rect) target extra windows = .ok () at h
    unfold ClickVerifier.checkPoint at h
    dsimp only at h
    split at h
    · cases h
    next hits =>
      rw [Bool.not_eq_true', Bool.not_eq_false] at hits
      refine ⟨hits, ?_⟩
      split at h
      · cases h
      next uncovered => exact uncovered

theorem Clicks.verified (h : Clicks s caller id c declared event handle r log (.ok ()) r') :
    ∃ token w, Verified s caller id c declared event handle token w r log r' := by
  cases h with
  | @granted l₁ l₂ l₃ token c' store f door admitted belief gate =>
    obtain ⟨-, screen, scale, rect, drawn, rfl, rfl⟩ := admitted.of_ok
    cases belief with
    | @believed _ windows looks verdict =>
      refine ⟨token, ⟨screen, scale, rect, l₂, windows, l₃⟩, ?_⟩
      exact
        { running := door.welcome.running
          trusted := door.welcome.trusted
          stored := door.present
          drawn := drawn
          looked := looks
          believed := verdict
          hit := hit_of_checkClick verdict
          consented := gate
          asked := by simp only [List.append_assoc]
          credited := rfl }

/-! ## Every act -/

theorem Fires.atMost {fired : TimerEvent} (h : Fires r fired log r') : r'.ledger.AtMost r.ledger := by
  cases h with
  | save token serial =>
    rw [ledger_withdrawSave]
    exact GrantState.atMost_revokeSave token serial _
  | background => exact GrantState.atMost_dropCapabilities _ _
  | idle =>
    rw [ledger_beginShutdown]
    exact .refl _

theorem FiresAll.atMost {events : List TimerEvent} (h : FiresAll r events log r') :
    r'.ledger.AtMost r.ledger :=
  h.keeps (fun u => u.ledger.AtMost r.ledger) (fun first before => first.atMost.trans before)
    (.refl _)

theorem Dies.atMost {pid : Pid} (h : Dies s pid r log r') : r'.ledger.AtMost r.ledger := by
  obtain ⟨-, same⟩ | ⟨p, -, idle⟩ := h.grants
  · rw [same]; exact .refl _
  · rw [idle.ledger_eq]
    exact (GrantState.atMost_dropCapabilities _ _).trans (GrantState.atMost_revokeSaves _ _)

/-- Whatever a granted click adds goes to the identity it credits, and is of the kind clicked. -/
theorem gained_of_credited {kind : Kind} {token' : Token} {held : Holding} {g : GrantState}
    (after : (credited s token kind g).ledger.Holds token' held)
    (before : ¬g.ledger.Holds token' held) : token = token' ∧ kind = held.kind := by
  unfold credited at after
  -- a click on a save component adds a serial and any other one a kind; nothing else can be new
  cases held with
  | save serial =>
    cases kind with
    | save =>
      rw [show Kind.save.grantStyle = .perClick from rfl, Ledger.Holds,
        GrantState.serialsOf_grantSave] at after
      split at after
      next same => exact ⟨same, rfl⟩
      next => exact absurd after before
    | location => exact absurd after before
    | paste => exact absurd after before
  | capability held =>
    split at after
    next => exact absurd after before
    next style =>
      rw [Ledger.Holds, GrantState.kindsOf_addCapability] at after
      split at after
      next same =>
        subst same
        rcases (Kind.mem_insert kind held _).mp after with rfl | old
        · exact ⟨rfl, rfl⟩
        · exact absurd old before
      next => exact absurd after before

/-- No act gives any identity anything, unless it is a granted click. -/
theorem Outcome.atMost {act : Act} {reply : Except Refusal Unit} (h : Outcome s r act log reply r') :
    r'.ledger.AtMost r.ledger ∨ ∃ caller id c declared event handle u f,
      act = .reportClick caller id c declared event handle ∧ reply = .ok () ∧
        Clicks s caller id c declared event handle r log (.ok ()) u ∧ r' = measure f u := by
  have same {l : Ledger} (e : l = r.ledger) : l.AtMost r.ledger := by
    rw [e]; exact .refl _
  cases h with
  | register f ends => exact .inl (same ends.idleOnly.ledger_eq)
  | update ends => exact .inl (same (by rw [ends.grants_eq]))
  | unregister ends => exact .inl (same ends.idleOnly.ledger_eq)
  | @reportClick caller id c declared event handle _ _ u f ends =>
    cases reply with
    | error e => exact .inl (same (by rw [toGrantState_measure, ends.grants_of_error]))
    | ok => exact .inr ⟨caller, id, c, declared, event, handle, u, f, rfl, rfl, ends, rfl⟩
  | foreground pid => exact .inl (same (ledger_processForeground pid r))
  | background pid => exact .inl (same (ledger_processBackground s pid r))
  | died ends => exact .inl ends.atMost
  | armIdleExit => exact .inl (.refl _)
  | fire ends => exact .inl ends.atMost
  | runDueTimers ends => exact .inl ends.atMost
  | setClock now => exact .inl (.refl _)

theorem gained_only_by_verified_click {t : Turn} {held : Holding} (taken : t.Taken s)
    (after : t.after.ledger.Holds token held) (before : ¬t.before.ledger.Holds token held) :
    ∃ caller id c declared event handle w,
      t.act = .reportClick caller id c declared event handle ∧ t.reply = .ok () ∧
        c.kind = held.kind ∧
        Verified s caller id c declared event handle token w t.before t.log t.after := by
  obtain atMost | ⟨caller, id, c, declared, event, handle, u, f, act, reply, clicks, left⟩ :=
    taken.outcome.atMost
  · exact absurd (atMost token held after) before
  obtain ⟨token', w, verified⟩ := clicks.verified
  have gained : t.after.toGrantState = credited s token' c.kind t.before.toGrantState := by
    rw [left]; exact verified.credited
  rw [gained] at after
  -- whatever is new comes from the credit, so it is the credited identity's
  obtain ⟨rfl, kind⟩ := gained_of_credited after before
  refine ⟨caller, id, c, declared, event, handle, w, act, reply, kind, ?_⟩
  rw [left]
  exact { verified with }

open Scene in
/-- A click on a registered save button gives its application a save grant. -/
theorem gained_by_click_on_saveButton :
    ∃ t : Turn, t.Taken settings ∧ t.after.ledger.Holds 537 (.save 0) ∧
      ¬t.before.ledger.Holds 537 (.save 0) ∧
      ∃ caller id c declared event handle w,
        t.act = .reportClick caller id c declared event handle ∧ t.reply = .ok () ∧
          c.kind = .save ∧
          Verified settings caller id c declared event handle 537 w t.before t.log t.after := by
  have taken := taken_turn [.register app .save saveButton ""] (click 1000 saveButton 150 130)
  have after : (turn [.register app .save saveButton ""]
      (click 1000 saveButton 150 130)).after.ledger.Holds 537 (.save 0) := by decide +kernel
  have before : ¬(turn [.register app .save saveButton ""]
      (click 1000 saveButton 150 130)).before.ledger.Holds 537 (.save 0) := by decide +kernel
  exact ⟨_, taken, after, before, gained_only_by_verified_click taken after before⟩

end ClickGrant.Registry
