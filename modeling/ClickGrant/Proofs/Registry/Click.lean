import ClickGrant.Proofs.Grant.Ends
import ClickGrant.Proofs.Registry.Components
import ClickGrant.Registry.Click

/-!
# How a reported click ends

`Clicks` lists the ways in which the report of a click can end, nobody disturbing it. A click is
turned away at the door, fails admission, is not believed, waits for the user's consent, is refused
by the identity store, or is granted; only the last way touches the grants. The exchanges of each
step are those of `Admits`, `Believes`, `Consents` and `Issues`, in this order.
-/
set_option autoImplicit false

namespace ClickGrant

/-- No dialog is needed: consent is not required, or it is on record. -/
def Waived (required : List Kind) (token : Token) (kind : Kind) (store : ConsentStore) : Prop :=
  required.contains kind = false ∨ store.hasConsent token kind = true

/-- The ways in which the consent gate can end. -/
inductive Consents (required : List Kind) (token : Token) (kind : Kind) (handle : Option UInt64)
    (store : ConsentStore) : List Exchange → Except Refusal Unit → ConsentStore → Prop where
  | waived (waived : Waived required token kind store) :
      Consents required token kind handle store [] (.ok ()) store
  | unanswered (o : Outage) (needed : ¬Waived required token kind store) :
      Consents required token kind handle store [⟨.consent token kind handle, Except.error o⟩]
        (.error (.outage o)) store
  | showing (needed : ¬Waived required token kind store) :
      Consents required token kind handle store [⟨.consent token kind handle, Except.ok .wait⟩]
        (.error .waitForConsent) store
  | given (decision : ConsentDecision) (needed : ¬Waived required token kind store)
      (agreed : decision ≠ .wait) :
      Consents required token kind handle store [⟨.consent token kind handle, Except.ok decision⟩]
        (.ok ()) (store.recordAndWrite token kind)

theorem ensureConsent_ends {required : List Kind} {token : Token} {kind : Kind}
    {handle : Option UInt64} {store store' : ConsentStore} {log : List Exchange}
    {result : Except Refusal Unit}
    (h : Call.Does (ensureConsent required token kind handle) store log result store') :
    Consents required token kind handle store log result store' := by
  unfold ensureConsent at h
  rw [Call.does_get_bind] at h
  split at h
  next waived =>
    obtain ⟨rfl, rfl, rfl⟩ := Call.does_pure.mp h
    rw [Bool.or_eq_true, Bool.not_eq_true'] at waived
    exact .waived waived
  next needed =>
    rw [Bool.or_eq_true, Bool.not_eq_true'] at needed
    rw [Call.does_ask_bind] at h
    obtain ⟨answer, log, h, rfl⟩ := h
    cases answer with
    | error o =>
      obtain ⟨rfl, rfl, rfl⟩ := Call.does_throw.mp h
      exact .unanswered o needed
    | ok decision =>
      cases decision with
      | wait =>
        obtain ⟨rfl, rfl, rfl⟩ := Call.does_throw.mp h
        exact .showing needed
      | granted =>
        obtain ⟨rfl, rfl, rfl⟩ := Call.does_modify.mp h
        exact .given _ needed (by decide)
      | alreadyGranted =>
        obtain ⟨rfl, rfl, rfl⟩ := Call.does_modify.mp h
        exact .given _ needed (by decide)

/-- A gate that does not open records nothing. -/
theorem Consents.of_error {required : List Kind} {token : Token} {kind : Kind}
    {handle : Option UInt64} {store store' : ConsentStore} {log : List Exchange} {e : Refusal}
    (h : Consents required token kind handle store log (.error e) store') : store' = store := by
  cases h <;> rfl

namespace Registry

variable {s : Settings} {caller : Caller} {c : Component} {declared : String} {r r' : Registry}
  {log : List Exchange} {id : ComponentId} {event : ClickEvent} {handle : Option UInt64}

/-! ## Belief -/

/-- What is asked about an event, and the windows it is checked against. -/
inductive Looks (caller : Caller) : ClickEvent → List Exchange → List Window → Prop where
  | point (timestamp : UInt64) (target : Point) (extra : Option (List UInt8)) (windows : List Window) :
      Looks caller (.point timestamp target extra) [⟨.windowStack, Except.ok windows⟩] windows
  | key (timestamp : UInt64) (keyCode : Int32) : Looks caller (.key timestamp keyCode) [] []
  | accessibility (timestamp : UInt64) :
      Looks caller (.accessibility timestamp) [⟨.verify caller.token .accessibilityClick, true⟩] []

/-- The ways in which the check of an event can end. -/
inductive Believes (s : Settings) (caller : Caller) (c : Component) (event : ClickEvent) (r : Registry) :
    List Exchange → Except Refusal Unit → Registry → Prop where
  | untrusted {timestamp : UInt64} (sort : event = .accessibility timestamp) :
      Believes s caller c event r [⟨.verify caller.token .accessibilityClick, false⟩]
        (.error (.clickInvalid .untrustedChannel)) r
  | unseen {timestamp : UInt64} {target : Point} {extra : Option (List UInt8)} (o : Outage)
      (sort : event = .point timestamp target extra) :
      Believes s caller c event r [⟨.windowStack, Except.error o⟩] (.error (.outage o)) r
  | rejected {log : List Exchange} {windows : List Window} {cause : ClickRejection}
      (looks : Looks caller event log windows)
      (verdict : s.verifier.checkClick c event r.now windows = .error cause) :
      Believes s caller c event r log (.error (.clickInvalid cause))
        (if cause.isTampering then quarantineCaller caller r else r)
  | believed {log : List Exchange} {windows : List Window} (looks : Looks caller event log windows)
      (verdict : s.verifier.checkClick c event r.now windows = .ok ()) :
      Believes s caller c event r log (.ok ()) r

/-- Believing changes nothing. -/
theorem Believes.of_ok (h : Believes s caller c event r log (.ok ()) r') : r' = r := by
  cases h; rfl

/-- The verdict on an event, once everything about it has been asked. -/
theorem Looks.believes {result : Except Refusal Unit} {asked : List Exchange} {windows : List Window}
    (looks : Looks caller event asked windows)
    (h : Call.Does (do
      let now := (← get).now
      match s.verifier.checkClick c event now windows with
      | .ok _ => return ()
      | .error cause =>
        if cause.isTampering then modify (quarantineCaller caller)
        throw (.clickInvalid cause)) r log result r') :
    Believes s caller c event r (asked ++ log) result r' := by
  rw [Call.does_get_bind] at h
  dsimp only at h
  split at h
  next verdict =>
    obtain ⟨rfl, rfl, rfl⟩ := Call.does_pure.mp h
    rw [List.append_nil]
    exact .believed looks verdict
  next cause verdict =>
    have rejected := Believes.rejected looks verdict
    split at h
    next tampering =>
      rw [if_pos tampering] at rejected
      rw [Call.does_modify_bind, Call.does_throw] at h
      obtain ⟨rfl, rfl, rfl⟩ := h
      rw [List.append_nil]
      exact rejected
    next honest =>
      rw [if_neg honest] at rejected
      obtain ⟨rfl, rfl, rfl⟩ := Call.does_throw.mp h
      rw [List.append_nil]
      exact rejected

theorem verifyEvent_ends {result : Except Refusal Unit}
    (h : Call.Does (verifyEvent s caller c event) r log result r') :
    Believes s caller c event r log result r' := by
  unfold verifyEvent at h
  cases event with
  | point timestamp target extra =>
    simp only [ensureChannel, windowsFor, pure_bind, bind_assoc] at h
    rw [Call.does_ask_bind] at h
    obtain ⟨answer, log, h, rfl⟩ := h
    cases answer with
    | error o =>
      obtain ⟨rfl, rfl, rfl⟩ := Call.does_throw_bind.mp h
      exact .unseen o rfl
    | ok windows => exact (Looks.point timestamp target extra windows).believes h
  | key timestamp keyCode =>
    simp only [ensureChannel, windowsFor, pure_bind] at h
    exact (Looks.key timestamp keyCode).believes h
  | accessibility timestamp =>
    simp only [ensureChannel, windowsFor, pure_bind, bind_assoc] at h
    rw [Call.does_ask_bind] at h
    obtain ⟨answer, log, h, rfl⟩ := h
    cases answer with
    | false =>
      obtain ⟨rfl, rfl, rfl⟩ := Call.does_throw_bind.mp h
      exact .untrusted rfl
    | true => exact (Looks.accessibility timestamp).believes h

/-! ## Issuing -/

/-- The grants after a granted click on a component of a kind. -/
def credited (s : Settings) (token : Token) (kind : Kind) (g : GrantState) : GrantState :=
  match kind.grantStyle with
  | .perClick => (GrantState.grantSave s.delays token g).2
  | .capability => (GrantState.addCapability token kind g).2

/-- The ways in which issuing the permission of a kind can end. -/
inductive Issues (s : Settings) (token : Token) (kind : Kind) (r : Registry) :
    List Exchange → Except Refusal Issued → Registry → Prop where
  | denied {given rest : List Permission} {p : Permission} (o : Outage)
      (asked : kind.permissions = given ++ p :: rest) :
      Issues s token kind r (GrantState.gives token given ++ [⟨.grant token p, Except.error o⟩])
        (.error (.permissionDenied p o)) r
  | issued (issued : Issued) :
      Issues s token kind r (GrantState.gives token kind.permissions) (.ok issued)
        { r with toGrantState := credited s token kind r.toGrantState }

theorem issue_ends {token : Token} {kind : Kind} {result : Except Refusal Issued}
    (h : Call.Does (issue s token kind) r log result r') : Issues s token kind r log result r' := by
  have issued (i : Issued) :
      Issues s token kind r (GrantState.gives token kind.permissions) (.ok i)
        { r with toGrantState := credited s token kind r.toGrantState } := .issued i
  unfold issue at h
  unfold credited at issued
  split at h
  next style =>
    -- a save grant has no permissions, so the identity store is not asked
    rw [style] at issued
    have nothing : kind.permissions = [] := by cases kind <;> first | rfl | cases style
    rw [nothing] at issued
    rw [Call.does_modifyGet_bind, Call.does_pure] at h
    obtain ⟨rfl, rfl, rfl⟩ := h
    exact issued _
  next style =>
    rw [style] at issued
    rw [Call.does_bind] at h
    obtain ⟨e, refused, rfl⟩ | ⟨_, _, _, _, given, h, rfl⟩ := h
    · obtain ⟨g, grants, rfl⟩ := callGrants_ends refused
      cases GrantState.grantCapability_ends grants with
      | denied o asked => exact .denied o asked
    · obtain ⟨g, grants, rfl⟩ := callGrants_ends given
      obtain ⟨rfl, rfl, rfl⟩ := Call.does_pure.mp h
      cases GrantState.grantCapability_ends grants
      rw [List.append_nil]
      exact issued _

/-! ## The report -/

/-- The ways in which the report of a click can end. -/
inductive Clicks (s : Settings) (caller : Caller) (id : ComponentId) (c : Component)
    (declared : String) (event : ClickEvent) (handle : Option UInt64) (r : Registry) :
    List Exchange → Except Refusal Unit → Registry → Prop where
  | turnedAway {e : Refusal}
      (why : TurnsAway r caller id c.kind (fun stored => .kindClicked id stored c.kind) e) :
      Clicks s caller id c declared event handle r [] (.error e) r
  | unadmitted {log : List Exchange} {e : Refusal} {token : Token} {r' : Registry}
      (door : LetsIn r caller id c.kind token)
      (refused : Admits s caller c declared r log (.error e) r') :
      Clicks s caller id c declared event handle r log (.error e) (markInvalid caller.pid id r')
  | unbelieved {l₁ l₂ : List Exchange} {e : Refusal} {token : Token} {c' : Component} {r' : Registry}
      (door : LetsIn r caller id c.kind token)
      (admitted : Admits s caller c declared r l₁ (.ok c') r)
      (disbelief : Believes s caller c' event r l₂ (.error e) r') :
      Clicks s caller id c declared event handle r (l₁ ++ l₂) (.error e) r'
  | unconsented {l₁ l₂ l₃ : List Exchange} {e : Refusal} {token : Token} {c' : Component}
      (door : LetsIn r caller id c.kind token)
      (admitted : Admits s caller c declared r l₁ (.ok c') r)
      (belief : Believes s caller c' event r l₂ (.ok ()) r)
      (gate : Consents s.requiredKinds token c.kind handle r.consents l₃ (.error e) r.consents) :
      Clicks s caller id c declared event handle r (l₁ ++ (l₂ ++ l₃)) (.error e) r
  | denied {l₁ l₂ l₃ l₄ : List Exchange} {e : Refusal} {token : Token} {c' : Component}
      {store : ConsentStore} {r' : Registry} (door : LetsIn r caller id c.kind token)
      (admitted : Admits s caller c declared r l₁ (.ok c') r)
      (belief : Believes s caller c' event r l₂ (.ok ()) r)
      (gate : Consents s.requiredKinds token c.kind handle r.consents l₃ (.ok ()) store)
      (refused : Issues s token c.kind { r with consents := store } l₄ (.error e) r') :
      Clicks s caller id c declared event handle r (l₁ ++ (l₂ ++ (l₃ ++ l₄))) (.error e) r'
  | granted {l₁ l₂ l₃ : List Exchange} {token : Token} {c' : Component} {store : ConsentStore}
      (f : Metrics → Metrics) (door : LetsIn r caller id c.kind token)
      (admitted : Admits s caller c declared r l₁ (.ok c') r)
      (belief : Believes s caller c' event r l₂ (.ok ()) r)
      (gate : Consents s.requiredKinds token c.kind handle r.consents l₃ (.ok ()) store) :
      Clicks s caller id c declared event handle r
        (l₁ ++ (l₂ ++ (l₃ ++ GrantState.gives token c.kind.permissions))) (.ok ())
        (measure f { r with
          toGrantState := credited s token c.kind r.toGrantState
          consents := store
          table := r.table.modify caller.pid id fun _ => { c' with isGranted := true } })

/-- The clicked component is still there. -/
theorem storeGranted_ends {α : Type} {pid : Pid} {entry : Entry} {f : Bool → Call Registry α}
    {result : Except Refusal α}
    (h : Call.Does (modifyGet (storeGranted pid id c) >>= f) r log result r')
    (found : r.table.lookup? pid id = some entry) :
    Call.Does (f true)
      { r with table := r.table.modify pid id fun _ => { c with isGranted := true } } log result r' := by
  rw [Call.does_modifyGet_bind, storeGranted, found] at h
  exact h

/-- The report of a click, once the caller is let in. -/
def reportInside (s : Settings) (caller : Caller) (id : ComponentId) (c : Component)
    (declared : String) (event : ClickEvent) (handle : Option UInt64) (token : Token) :
    Call Registry Unit := do
  let c' ← readmission s caller id c declared
  verifyEvent s caller c' event
  callConsents (ensureConsent s.requiredKinds token c.kind handle)
  let issued ← issue s token c.kind
  if ← modifyGet (storeGranted caller.pid id c') then
    modify (measure fun m => { m with grants := m.grants.add [c.kind.name] })
  else
    withdraw token c.kind issued
    throw (.notFound id caller.pid)

theorem reportInside_ends {token : Token} {result : Except Refusal Unit}
    (door : LetsIn r caller id c.kind token)
    (h : Call.Does (reportInside s caller id c declared event handle token) r log result r') :
    Clicks s caller id c declared event handle r log result r' := by
  unfold reportInside at h
  -- admission, belief, consent and issue, in this order; a stage that is refused ends the call
  rw [Call.does_bind] at h
  obtain ⟨e, stopped, rfl⟩ | ⟨_, c', _, _, passed, h, rfl⟩ := h
  · obtain ⟨e', u, refused, he, rfl⟩ | ⟨_, _, ⟨⟩⟩ := readmission_ends stopped
    cases he
    exact .unadmitted door refused
  obtain ⟨_, _, _, ⟨⟩, _⟩ | ⟨c', admitted, ⟨⟩⟩ := readmission_ends passed
  obtain ⟨rfl, -⟩ := admitted.of_ok
  rw [Call.does_bind] at h
  obtain ⟨e, disbelief, rfl⟩ | ⟨_, _, _, _, belief, h, rfl⟩ := h
  · exact .unbelieved door admitted (verifyEvent_ends disbelief)
  obtain rfl := (verifyEvent_ends belief).of_ok
  have belief := verifyEvent_ends belief
  rw [Call.does_bind] at h
  obtain ⟨e, stopped, rfl⟩ | ⟨_, _, _, _, passed, h, rfl⟩ := h
  · obtain ⟨store, gate, rfl⟩ := callConsents_ends stopped
    have gate := ensureConsent_ends gate
    obtain rfl := gate.of_error
    exact .unconsented door admitted belief gate
  obtain ⟨store, gate, rfl⟩ := callConsents_ends passed
  have gate := ensureConsent_ends gate
  rw [Call.does_bind] at h
  obtain ⟨e, refused, rfl⟩ | ⟨_, issued, _, _, given, h, rfl⟩ := h
  · exact .denied door admitted belief gate (issue_ends refused)
  cases issue_ends given with
  | issued =>
    -- nobody has disturbed the call, so the component is still stored
    obtain ⟨entry, found⟩ := door.present.lookup_isSome
    have h := storeGranted_ends h found
    rw [if_pos rfl] at h
    obtain ⟨rfl, rfl, rfl⟩ := Call.does_modify.mp h
    rw [List.append_nil]
    exact .granted _ door admitted belief gate

theorem reportClickUncounted_ends {result : Except Refusal Unit}
    (call : Call.Does (reportClickUncounted s caller id c declared event handle) r log result r') :
    Clicks s caller id c declared event handle r log result r' := by
  obtain ⟨e, why, rfl, rfl, rfl⟩ | ⟨token, door, h⟩ :=
    door_ends (fun stored => .kindClicked id stored c.kind)
      (reportInside s caller id c declared event handle) call
  · exact .turnedAway why
  · exact reportInside_ends door h

theorem reportClick_ends {result : Except Refusal Unit}
    (h : (reportClick s caller id c declared event handle).Does r log result r') :
    ∃ f u, Clicks s caller id c declared event handle r log result u ∧ r' = measure f u := by
  unfold reportClick at h
  rw [Op.does_bind] at h
  obtain ⟨_, result, u, _, tried, h, rfl⟩ := h
  rw [Op.does_modify_bind, Op.does_pure] at h
  obtain ⟨rfl, rfl, rfl⟩ := h
  rw [List.append_nil]
  exact ⟨_, u, reportClickUncounted_ends tried, rfl⟩

end Registry

end ClickGrant
