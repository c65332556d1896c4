import ClickGrant.Proofs.Disturbance
import ClickGrant.Proofs.Registry.Run

/-!
# How disturbed calls end

A registration or the report of a click waits for several collaborators, and others may change the
registry each time. `RegistersAmid` and `ClicksAmid` list the ways in which these calls can then
end. Admission, belief and issue leave the registry alone until they have their last answer, so they
end as `Admits`, `Believes` and `Issues` say, in the state that this answer found; what was checked
at the door need not hold there any more.
-/
set_option autoImplicit false

namespace ClickGrant

/-- The exchanges of visits. -/
def logOf {σ : Type} (visits : List (Visit σ)) : List Exchange := visits.map (·.exchange)

namespace Registry

variable {s : Settings} {caller : Caller} {c : Component} {declared : String} {r t : Registry}
  {visits : List (Visit Registry)} {kind : Kind} {id : ComponentId} {event : ClickEvent}
  {handle : Option UInt64} {token : Token}

/-! ## Parts that ask first -/

theorem asksFirst_admission : Op.AsksFirst Op.Instant (admission s caller c declared).run := by
  have halt (e : Refusal) : Op.Instant (pure (.error e) : Op Registry (Except Refusal Component)) :=
    Op.instant_pure _
  have context : Op.AsksFirst Op.Returns (validityContext c).run := by
    refine Call.asksFirst_bind Call.returns_throw (Call.asksFirst_ask _) fun screen => ?_
    refine Call.asksFirst_bind Call.returns_throw (Call.asksFirst_ofExcept _ screen) fun _ => ?_
    refine Call.asksFirst_bind Call.returns_throw (Call.asksFirst_ask _) fun scale => ?_
    refine Call.asksFirst_bind Call.returns_throw (Call.asksFirst_ofExcept _ scale) fun _ => ?_
    exact Call.asksFirst_pure _
  refine Call.asksFirst_bind halt context fun ctx => ?_
  split
  · exact .last (Call.instant_throw _)
  · split
    · refine Call.asksFirst_bind halt (Call.asksFirst_ask _) fun answer => .last ?_
      split
      · exact Call.instant_bind (Call.instant_modify _) fun _ => Call.instant_throw _
      · exact Call.instant_pure _
    · exact .last (Call.instant_pure _)

theorem asksFirst_readmission : Op.AsksFirst Op.Instant (readmission s caller id c declared).run :=
  Call.asksFirst_tryCatch asksFirst_admission fun e =>
    Call.instant_bind (Call.instant_modify _) fun _ => Call.instant_throw e

theorem asksFirst_verifyEvent : Op.AsksFirst Op.Instant (verifyEvent s caller c event).run := by
  have halt (e : Refusal) : Op.Instant (pure (.error e) : Op Registry (Except Refusal Unit)) :=
    Op.instant_pure _
  have channel : Op.AsksFirst Op.Returns (ensureChannel caller event).run := by
    cases event with
    | accessibility timestamp =>
      refine Call.asksFirst_bind Call.returns_throw (Call.asksFirst_ask _) fun trusted => ?_
      split
      · exact Call.asksFirst_throw _
      · exact Call.asksFirst_pure ()
    | _ => exact Call.asksFirst_pure ()
  have windows : Op.AsksFirst Op.Returns (windowsFor event).run := by
    cases event with
    | point timestamp target extra =>
      exact Call.asksFirst_bind Call.returns_throw (Call.asksFirst_ask _) fun seen =>
        Call.asksFirst_ofExcept _ seen
    | _ => exact Call.asksFirst_pure []
  refine Call.asksFirst_bind halt channel fun _ => Call.asksFirst_bind halt windows fun seen => .last ?_
  refine Call.instant_bind Call.instant_get fun r => ?_
  dsimp only
  split
  · exact Call.instant_pure ()
  · split
    · exact Call.instant_bind (Call.instant_modify _) fun _ => Call.instant_throw _
    · exact Call.instant_throw _

theorem asksFirst_grantPermissions : ∀ ps : List Permission,
    Op.AsksFirst Op.Returns (GrantState.grantPermissions token ps).run
  | [] => Call.asksFirst_pure ()
  | p :: rest => by
    refine Call.asksFirst_bind Call.returns_throw (Call.asksFirst_ask (.grant token p)) fun answer => ?_
    cases answer with
    | error o => exact Call.asksFirst_throw _
    | ok _ => exact asksFirst_grantPermissions rest

theorem asksFirst_issue : Op.AsksFirst Op.Instant (issue s token kind).run := by
  unfold issue
  split
  · exact .last (Call.instant_bind (Call.instant_modifyGet _) fun _ => Call.instant_pure _)
  · have grants : Op.AsksFirst Op.Instant (GrantState.grantCapability token kind).run :=
      Call.asksFirst_bind (fun _ => Op.instant_pure _) (asksFirst_grantPermissions _) fun _ =>
        .last (Call.instant_modifyGet _)
    refine Call.asksFirst_bind_instant ?_ fun _ => Call.instant_pure _
    exact grants.within fun _ => rfl

/-! ## At the door -/

theorem instant_ensureRunning : Op.Instant ensureRunning.run := by
  refine Call.instant_bind Call.instant_get fun r => ?_
  split
  · exact Call.instant_throw _
  · exact Call.instant_pure ()

theorem instant_ensureTrusted : Op.Instant (ensureTrusted caller).run := by
  refine Call.instant_bind Call.instant_get fun r => ?_
  split
  · exact Call.instant_throw _
  · exact Call.instant_pure ()

theorem instant_ensureId : Op.Instant (ensureId id).run := by
  unfold ensureId
  split
  · exact Call.instant_throw _
  · exact Call.instant_pure ()

theorem instant_stored {pid : Pid} : Op.Instant (stored pid id).run := by
  refine Call.instant_bind Call.instant_get fun r => ?_
  split
  · exact Call.instant_throw _
  · split
    · exact Call.instant_throw _
    · exact Call.instant_pure _

variable {α : Type} {result : Except Refusal α}

/-- A call that lets only welcome callers in. -/
theorem welcomed_goes {x : Call Registry α}
    (h : Call.Goes (do ensureRunning; ensureTrusted caller; x) r visits result t) :
    (∃ e, Bars r caller e ∧ visits = [] ∧ result = .error e ∧ t = r) ∨
    (Welcomes r caller ∧ x.Goes r visits result t) := by
  rw [Call.goes_bind] at h
  obtain ⟨e, stopped, rfl⟩ | ⟨_, _, _, _, passed, h, rfl⟩ := h
  · obtain ⟨rfl, ended⟩ := stopped.does_of_instant instant_ensureRunning
    obtain ⟨-, rfl, ⟨down, he⟩ | ⟨_, ⟨⟩⟩⟩ := ensureRunning_ends ended
    cases he
    exact .inl ⟨_, .exiting down, rfl, rfl, rfl⟩
  obtain ⟨rfl, ended⟩ := passed.does_of_instant instant_ensureRunning
  obtain ⟨-, rfl, ⟨_, ⟨⟩⟩ | ⟨running, _⟩⟩ := ensureRunning_ends ended
  rw [Call.goes_bind] at h
  obtain ⟨e, stopped, rfl⟩ | ⟨_, _, _, _, passed, h, rfl⟩ := h
  · obtain ⟨rfl, ended⟩ := stopped.does_of_instant instant_ensureTrusted
    obtain ⟨-, rfl, ⟨flagged, he⟩ | ⟨_, ⟨⟩⟩⟩ := ensureTrusted_ends ended
    cases he
    exact .inl ⟨_, .quarantined running flagged, rfl, rfl, rfl⟩
  · obtain ⟨rfl, ended⟩ := passed.does_of_instant instant_ensureTrusted
    obtain ⟨-, rfl, ⟨_, ⟨⟩⟩ | ⟨trusted, _⟩⟩ := ensureTrusted_ends ended
    exact .inr ⟨⟨running, trusted⟩, h⟩

/-- The door of a call on a stored component. -/
theorem door_goes (mismatch : Kind → BadArgument) (x : Token → Call Registry α)
    (call : Call.Goes (do
      ensureRunning
      ensureTrusted caller
      ensureId id
      let (storedKind, token) ← stored caller.pid id
      if kind ≠ storedKind then throw (.invalidArgument (mismatch storedKind))
      x token) r visits result t) :
    (∃ e, TurnsAway r caller id kind mismatch e ∧ visits = [] ∧ result = .error e ∧ t = r) ∨
    ∃ token, LetsIn r caller id kind token ∧ (x token).Goes r visits result t := by
  obtain ⟨e, why, rfl, rfl, rfl⟩ | ⟨welcome, h⟩ := welcomed_goes call
  · exact .inl ⟨e, .barred why, rfl, rfl, rfl⟩
  rw [Call.goes_bind] at h
  obtain ⟨e, stopped, rfl⟩ | ⟨_, _, _, _, passed, h, rfl⟩ := h
  · obtain ⟨rfl, ended⟩ := stopped.does_of_instant instant_ensureId
    obtain ⟨-, rfl, ⟨negative, he⟩ | ⟨_, ⟨⟩⟩⟩ := ensureId_ends ended
    cases he
    exact .inl ⟨_, .negative welcome negative, rfl, rfl, rfl⟩
  obtain ⟨rfl, ended⟩ := passed.does_of_instant instant_ensureId
  obtain ⟨-, rfl, ⟨_, ⟨⟩⟩ | ⟨natural, _⟩⟩ := ensureId_ends ended
  rw [Call.goes_bind] at h
  clear passed call
  obtain ⟨e, stopped, rfl⟩ | ⟨_, _, _, _, found, h, rfl⟩ := h
  · obtain ⟨rfl, ended⟩ := stopped.does_of_instant instant_stored
    obtain ⟨-, rfl, ⟨absent, he⟩ | ⟨_, _, _, ⟨⟩⟩⟩ := stored_ends ended
    cases he
    exact .inl ⟨_, .unknown welcome natural absent, rfl, rfl, rfl⟩
  obtain ⟨rfl, ended⟩ := found.does_of_instant instant_stored
  obtain ⟨-, rfl, ⟨_, ⟨⟩⟩ | ⟨storedKind, token, present, ⟨⟩⟩⟩ := stored_ends ended
  dsimp only at h
  split at h
  next differs =>
    obtain ⟨rfl, rfl, rfl⟩ := Call.goes_throw_bind.mp h
    exact .inl ⟨_, .otherKind welcome natural present differs, rfl, rfl, rfl⟩
  next same =>
    obtain rfl : kind = storedKind := Decidable.not_not.mp same
    exact .inr ⟨token, ⟨welcome, natural, present⟩, h⟩

/-! ## Registration -/

/-- The ways in which a registration that is disturbed can end. -/
inductive RegistersAmid (s : Settings) (caller : Caller) (kind : Kind) (c : Component)
    (declared : String) (r : Registry) :
    List (Visit Registry) → Except Refusal ComponentId → Registry → Prop where
  | barred {e : Refusal} (why : Bars r caller e) :
      RegistersAmid s caller kind c declared r [] (.error e) r
  | otherKind (welcome : Welcomes r caller) (differs : c.kind ≠ kind) :
      RegistersAmid s caller kind c declared r []
        (.error (.invalidArgument (.kindDeclared c.kind kind))) r
  | unadmitted {visits : List (Visit Registry)} {e : Refusal} {t : Registry}
      (welcome : Welcomes r caller) (same : c.kind = kind) (quiet : Quiet r visits)
      (refused : Admits s caller (unmarked c) declared (lastFound r visits) (logOf visits)
        (.error e) t) :
      RegistersAmid s caller kind c declared r visits (.error e) t
  | clash {visits : List (Visit Registry)} {e : Refusal} {c' : Component} {u : Registry}
      (welcome : Welcomes r caller) (same : c.kind = kind) (quiet : Quiet r visits)
      (found : u = lastFound r visits)
      (admitted : Admits s caller (unmarked c) declared u (logOf visits) (.ok c') u)
      (why : storeNew s caller c' u = .error e) :
      RegistersAmid s caller kind c declared r visits (.error e) u
  | stored {v₁ v₂ : List (Visit Registry)} {c' : Component} {id : ComponentId}
      {table : ComponentTable} {n : Nat} {u w t : Registry} (welcome : Welcomes r caller)
      (same : c.kind = kind) (quiet : Quiet r v₁) (found : u = lastFound r v₁)
      (admitted : Admits s caller (unmarked c) declared u (logOf v₁) (.ok c') u)
      (fits : Fits s caller c' u id table)
      (stored : w = { u with table := table.insert caller.pid caller.token { id, component := c' } })
      (posture : (syncPosture s).Goes w v₂ () t) :
      RegistersAmid s caller kind c declared r (v₁ ++ v₂) (.ok id) (showActive n t)

theorem register_goes {result : Except Refusal ComponentId}
    (h : (register s caller kind c declared).Goes r visits result t) :
    ∃ f u, RegistersAmid s caller kind c declared r visits result u ∧ t = measure f u := by
  unfold register at h
  rw [Op.goes_bind] at h
  obtain ⟨v, result, u, _, tried, h, rfl⟩ := h
  rw [Op.goes_modify_bind, Op.goes_pure] at h
  obtain ⟨rfl, rfl, rfl⟩ := h
  rw [List.append_nil]
  refine ⟨_, u, ?_, rfl⟩
  obtain ⟨e, why, rfl, rfl, rfl⟩ | ⟨welcome, h⟩ := welcomed_goes tried
  · exact .barred why
  clear tried
  dsimp only at h
  split at h
  next differs =>
    obtain ⟨rfl, rfl, rfl⟩ := Call.goes_throw_bind.mp h
    exact .otherKind welcome differs
  next same =>
    have same : c.kind = kind := Decidable.not_not.mp same
    rw [Call.goes_bind] at h
    obtain ⟨e, refused, rfl⟩ | ⟨v₁, c', w, v₂, passed, h, rfl⟩ := h
    · obtain ⟨quiet, refused⟩ := refused.does_of_asksFirst asksFirst_admission
      exact .unadmitted welcome same quiet (admits_of_does refused)
    obtain ⟨quiet, passed⟩ := passed.does_of_asksFirst asksFirst_admission
    have admitted := admits_of_does passed
    obtain ⟨found, -⟩ := admitted.of_ok
    rw [← found] at admitted
    rw [Call.goes_bind] at h
    obtain ⟨e, clash, rfl⟩ | ⟨_, ⟨id, n⟩, _, _, done, h, rfl⟩ := h
    · obtain ⟨rfl, ended⟩ := clash.does_of_instant (Call.instant_attempt _)
      obtain ⟨-, ⟨e', why, he, rfl⟩ | ⟨_, _, ⟨⟩⟩⟩ := Call.does_attempt.mp ended
      cases he
      rw [List.append_nil]
      exact .clash welcome same quiet found admitted why
    · obtain ⟨rfl, ended⟩ := done.does_of_instant (Call.instant_attempt _)
      obtain ⟨-, ⟨_, _, ⟨⟩, _⟩ | ⟨_, ok, ⟨⟩⟩⟩ := Call.does_attempt.mp ended
      obtain ⟨table, fits, stored⟩ := fits_of_storeNew ok
      obtain ⟨_, _, _, _, sync, rest, rfl⟩ := Call.goes_liftM_bind.mp h
      rw [Call.goes_modify_bind, Call.goes_pure] at rest
      obtain ⟨rfl, rfl, rfl⟩ := rest
      rw [List.nil_append, List.append_nil]
      exact .stored welcome same quiet found admitted fits stored sync

/-! ## Consent -/

/-- The ways in which the consent gate can end when it is disturbed. Whether a consent is on record
is seen before the user is asked; what the user answers is added to the record that the answer
finds. -/
inductive ConsentsAmid (required : List Kind) (token : Token) (kind : Kind) (handle : Option UInt64)
    (r : Registry) : List (Visit Registry) → Except Refusal Unit → Registry → Prop where
  | waived (waived : Waived required token kind r.consents) :
      ConsentsAmid required token kind handle r [] (.ok ()) r
  | unanswered (o : Outage) (t : Registry) (needed : ¬Waived required token kind r.consents) :
      ConsentsAmid required token kind handle r
        [⟨⟨.consent token kind handle, Except.error o⟩, r, t⟩] (.error (.outage o)) t
  | showing (t : Registry) (needed : ¬Waived required token kind r.consents) :
      ConsentsAmid required token kind handle r
        [⟨⟨.consent token kind handle, Except.ok .wait⟩, r, t⟩] (.error .waitForConsent) t
  | given (decision : ConsentDecision) (t : Registry)
      (needed : ¬Waived required token kind r.consents) (agreed : decision ≠ .wait) :
      ConsentsAmid required token kind handle r
        [⟨⟨.consent token kind handle, Except.ok decision⟩, r, t⟩] (.ok ())
        { t with consents := t.consents.recordAndWrite token kind }

theorem ensureConsent_goes {required : List Kind} {result : Except Refusal Unit}
    (h : (callConsents (ensureConsent required token kind handle)).Goes r visits result t) :
    ConsentsAmid required token kind handle r visits result t := by
  unfold callConsents ensureConsent at h
  rw [Call.goes_within_get_bind] at h
  split at h
  next waived =>
    obtain ⟨rfl, rfl, rfl⟩ := Call.goes_within_pure.mp h
    rw [Bool.or_eq_true, Bool.not_eq_true'] at waived
    exact .waived waived
  next needed =>
    rw [Bool.or_eq_true, Bool.not_eq_true'] at needed
    rw [Call.goes_within_ask_bind] at h
    obtain ⟨found, answer, rest, h, rfl⟩ := h
    cases answer with
    | error o =>
      obtain ⟨rfl, rfl, rfl⟩ := Call.goes_within_throw.mp h
      exact .unanswered o found needed
    | ok decision =>
      cases decision with
      | wait =>
        obtain ⟨rfl, rfl, rfl⟩ := Call.goes_within_throw.mp h
        exact .showing found needed
      | granted =>
        obtain ⟨rfl, rfl, rfl⟩ := Call.goes_within_modify.mp h
        exact .given _ found needed (by decide)
      | alreadyGranted =>
        obtain ⟨rfl, rfl, rfl⟩ := Call.goes_within_modify.mp h
        exact .given _ found needed (by decide)

/-! ## Issuing and taking back -/

/-- What is issued to an identity for a click. -/
def receipt (token : Token) (kind : Kind) (g : GrantState) : Issued :=
  match kind.grantStyle with
  | .perClick => .save g.ledger.nextSerial
  | .capability => .capability (!g.ledger.hasCapability token kind)

theorem issue_ok {log : List Exchange} {issued : Issued}
    (h : Call.Does (issue s token kind) r log (.ok issued) t) :
    issued = receipt token kind r.toGrantState ∧
      t = { r with toGrantState := credited s token kind r.toGrantState } := by
  unfold issue at h
  unfold receipt credited
  cases style : kind.grantStyle with
  | perClick =>
    simp only [style] at h
    rw [Call.does_modifyGet_bind, Call.does_pure] at h
    obtain ⟨-, same, rfl⟩ := h
    exact ⟨Except.ok.inj same, rfl⟩
  | capability =>
    simp only [style] at h
    obtain ⟨_, _, ⟨⟩⟩ | ⟨_, newly, _, _, given, h, rfl⟩ := Call.does_bind.mp h
    obtain ⟨g, grants, rfl⟩ := callGrants_ends given
    obtain ⟨-, same, rfl⟩ := Call.does_pure.mp h
    cases GrantState.grantCapability_ends grants
    exact ⟨Except.ok.inj same, rfl⟩

/-- A capability that an identity holds is dropped before anybody is asked. -/
theorem revokeCapability_goes {taken : Bool} (held : r.ledger.hasCapability token kind = true)
    (h : (onGrants (GrantState.revokeCapability token kind)).Goes r visits taken t) :
    ∃ u : Registry, u = { r with toGrantState := (GrantState.dropCapability token kind r.toGrantState).2 } ∧
      Quiet u visits ∧ t = lastFound u visits := by
  refine ⟨_, rfl, ?_⟩
  have yes : (GrantState.dropCapability token kind r.toGrantState).1 = true := by
    unfold GrantState.dropCapability
    rw [if_pos held]
    dsimp only
    split <;> rfl
  unfold onGrants GrantState.revokeCapability at h
  have h := (Op.goes_within_modifyGet_bind (by intro _ _; rfl) (by intro _ _ _; rfl)).mp h
  rw [yes, if_pos rfl] at h
  have revokes : ∀ ps : List Permission, Op.AsksFirst Op.Instant
      (GrantState.revokePermissions token ps >>= fun _ => pure true) := by
    intro ps
    induction ps with
    | nil => exact .last (Op.instant_pure _)
    | cons p rest ih => exact .ask (.revoke token p) _ rfl fun _ => ih
  obtain ⟨quiet, does⟩ := ((revokes kind.permissions).within fun _ => rfl).does h
  refine ⟨quiet, ?_⟩
  obtain ⟨g, done, rfl⟩ := onGrants_ends does
  rw [Op.does_bind] at done
  obtain ⟨_, _, _, _, revoked, done, -⟩ := done
  obtain ⟨rfl, -⟩ := GrantState.revokePermissions_ends revoked
  obtain ⟨-, -, rfl⟩ := Op.does_pure.mp done
  rfl

/-! ## The report of a click -/

/-- Admission, belief and consent have all been in favour of a click, each in the state that its
last answer found. -/
inductive VerifiesAmid (s : Settings) (caller : Caller) (c : Component) (declared : String)
    (event : ClickEvent) (handle : Option UInt64) (token : Token) (r : Registry) :
    List (Visit Registry) → Component → Registry → Prop where
  | verified {v₁ v₂ v₃ : List (Visit Registry)} {c' : Component} {u w t : Registry}
      (quiet : Quiet r v₁) (found : u = lastFound r v₁)
      (admitted : Admits s caller c declared u (logOf v₁) (.ok c') u)
      (quiet' : Quiet u v₂) (found' : w = lastFound u v₂)
      (belief : Believes s caller c' event w (logOf v₂) (.ok ()) w)
      (gate : ConsentsAmid s.requiredKinds token c.kind handle w v₃ (.ok ()) t) :
      VerifiesAmid s caller c declared event handle token r (v₁ ++ (v₂ ++ v₃)) c' t

section Kept

variable {step : Registry → Registry → Prop} (refl : ∀ r, step r r)
  (consented : ∀ (r : Registry) (store : ConsentStore), step r { r with consents := store })

include refl consented

/-- The gate does no more than record a consent. -/
theorem ConsentsAmid.kept {required : List Kind} {result : Except Refusal Unit}
    (h : ConsentsAmid required token kind handle r visits result t) : Kept step r visits t := by
  cases h with
  | waived => exact refl r
  | unanswered o => exact ⟨refl r, refl t⟩
  | showing => exact ⟨refl r, refl t⟩
  | given decision u => exact ⟨refl r, consented u _⟩

/-- Until it is verified, a click does no more than that. -/
theorem VerifiesAmid.kept (trans : ∀ r t u, step r t → step t u → step r u) {c' : Component}
    (h : VerifiesAmid s caller c declared event handle token r visits c' t) : Kept step r visits t := by
  cases h with
  | verified quiet found _ quiet' found' _ gate =>
    subst found found'
    exact (quiet.kept refl).append trans ((quiet'.kept refl).append trans (gate.kept refl consented))

end Kept

/-- The ways in which the report of a click that is disturbed can end. -/
inductive ClicksAmid (s : Settings) (caller : Caller) (id : ComponentId) (c : Component)
    (declared : String) (event : ClickEvent) (handle : Option UInt64) (r : Registry) :
    List (Visit Registry) → Except Refusal Unit → Registry → Prop where
  | turnedAway {e : Refusal}
      (why : TurnsAway r caller id c.kind (fun stored => .kindClicked id stored c.kind) e) :
      ClicksAmid s caller id c declared event handle r [] (.error e) r
  | unadmitted {visits : List (Visit Registry)} {e : Refusal} {token : Token} {t : Registry}
      (door : LetsIn r caller id c.kind token) (quiet : Quiet r visits)
      (refused : Admits s caller c declared (lastFound r visits) (logOf visits) (.error e) t) :
      ClicksAmid s caller id c declared event handle r visits (.error e) (markInvalid caller.pid id t)
  | unbelieved {v₁ v₂ : List (Visit Registry)} {e : Refusal} {token : Token} {c' : Component}
      {u t : Registry} (door : LetsIn r caller id c.kind token) (quiet : Quiet r v₁)
      (found : u = lastFound r v₁) (admitted : Admits s caller c declared u (logOf v₁) (.ok c') u)
      (quiet' : Quiet u v₂)
      (disbelief : Believes s caller c' event (lastFound u v₂) (logOf v₂) (.error e) t) :
      ClicksAmid s caller id c declared event handle r (v₁ ++ v₂) (.error e) t
  | unconsented {v₁ v₂ v₃ : List (Visit Registry)} {e : Refusal} {token : Token} {c' : Component}
      {u w t : Registry} (door : LetsIn r caller id c.kind token) (quiet : Quiet r v₁)
      (found : u = lastFound r v₁) (admitted : Admits s caller c declared u (logOf v₁) (.ok c') u)
      (quiet' : Quiet u v₂) (found' : w = lastFound u v₂)
      (belief : Believes s caller c' event w (logOf v₂) (.ok ()) w)
      (gate : ConsentsAmid s.requiredKinds token c.kind handle w v₃ (.error e) t) :
      ClicksAmid s caller id c declared event handle r (v₁ ++ (v₂ ++ v₃)) (.error e) t
  | denied {v₁ v₂ : List (Visit Registry)} {e : Refusal} {token : Token} {c' : Component}
      {t u : Registry} (door : LetsIn r caller id c.kind token)
      (verified : VerifiesAmid s caller c declared event handle token r v₁ c' t)
      (quiet : Quiet t v₂)
      (refused : Issues s token c.kind (lastFound t v₂) (logOf v₂) (.error e) u) :
      ClicksAmid s caller id c declared event handle r (v₁ ++ v₂) (.error e) u
  | granted {v₁ v₂ : List (Visit Registry)} {token : Token} {c' : Component} {entry : Entry}
      {t w : Registry} (door : LetsIn r caller id c.kind token)
      (verified : VerifiesAmid s caller c declared event handle token r v₁ c' t)
      (quiet : Quiet t v₂) (found : w = lastFound t v₂)
      (there : w.table.lookup? caller.pid id = some entry) :
      ClicksAmid s caller id c declared event handle r (v₁ ++ v₂) (.ok ())
        (measure (fun m => { m with grants := m.grants.add [c.kind.name] }) { w with
          toGrantState := credited s token c.kind w.toGrantState
          table := w.table.modify caller.pid id fun _ => { c' with isGranted := true } })
  /-- The component has gone, so what was issued is taken back. -/
  | vanished {v₁ v₂ v₃ : List (Visit Registry)} {token : Token} {c' : Component} {t w u : Registry}
      (door : LetsIn r caller id c.kind token)
      (verified : VerifiesAmid s caller c declared event handle token r v₁ c' t)
      (quiet : Quiet t v₂) (found : w = lastFound t v₂)
      (gone : w.table.lookup? caller.pid id = none)
      (withdrawn : (withdraw token c.kind (receipt token c.kind w.toGrantState)).Goes
        { w with toGrantState := credited s token c.kind w.toGrantState } v₃ () u) :
      ClicksAmid s caller id c declared event handle r (v₁ ++ (v₂ ++ v₃))
        (.error (.notFound id caller.pid)) u

/-- A grant changes nothing about whether a component is there to be marked for it. -/
theorem storeGranted_of_some {pid : Pid} {entry : Entry} {g : GrantState}
    (there : r.table.lookup? pid id = some entry) :
    storeGranted pid id c { r with toGrantState := g } = (true, { r with
      toGrantState := g, table := r.table.modify pid id fun _ => { c with isGranted := true } }) := by
  unfold storeGranted
  rw [there]

theorem storeGranted_of_none {pid : Pid} {g : GrantState} (gone : r.table.lookup? pid id = none) :
    storeGranted pid id c { r with toGrantState := g } = (false, { r with toGrantState := g }) := by
  unfold storeGranted
  rw [gone]

theorem reportInside_goes {result : Except Refusal Unit} (door : LetsIn r caller id c.kind token)
    (h : (reportInside s caller id c declared event handle token).Goes r visits result t) :
    ClicksAmid s caller id c declared event handle r visits result t := by
  unfold reportInside at h
  -- admission, belief, consent and issue, in this order; a stage that is refused ends the call
  rw [Call.goes_bind] at h
  obtain ⟨e, stopped, rfl⟩ | ⟨v₁, c', u, _, passed, h, rfl⟩ := h
  · obtain ⟨quiet, stopped⟩ := stopped.does_of_asksFirst asksFirst_readmission
    obtain ⟨e', _, refused, he, rfl⟩ | ⟨_, _, ⟨⟩⟩ := readmission_ends stopped
    cases he
    exact .unadmitted door quiet refused
  obtain ⟨quiet, passed⟩ := passed.does_of_asksFirst asksFirst_readmission
  obtain ⟨_, _, _, ⟨⟩, _⟩ | ⟨c'', admitted, same⟩ := readmission_ends passed
  cases same
  obtain ⟨found, -⟩ := admitted.of_ok
  rw [← found] at admitted
  rw [Call.goes_bind] at h
  obtain ⟨e, disbelief, rfl⟩ | ⟨v₂, _, w, _, belief, h, rfl⟩ := h
  · obtain ⟨quiet', disbelief⟩ := disbelief.does_of_asksFirst asksFirst_verifyEvent
    exact .unbelieved door quiet found admitted quiet' (verifyEvent_ends disbelief)
  obtain ⟨quiet', belief⟩ := belief.does_of_asksFirst asksFirst_verifyEvent
  have belief := verifyEvent_ends belief
  have found' := belief.of_ok
  rw [← found'] at belief
  rw [Call.goes_bind] at h
  obtain ⟨e, gate, rfl⟩ | ⟨v₃, _, x, _, gate, h, rfl⟩ := h
  · exact .unconsented door quiet found admitted quiet' found' belief (ensureConsent_goes gate)
  have verified := VerifiesAmid.verified quiet found admitted quiet' found' belief
    (ensureConsent_goes gate)
  have visits (rest : List (Visit Registry)) :
      v₁ ++ (v₂ ++ (v₃ ++ rest)) = (v₁ ++ (v₂ ++ v₃)) ++ rest := by simp only [List.append_assoc]
  rw [Call.goes_bind] at h
  rw [visits]
  obtain ⟨e, refused, rfl⟩ | ⟨v₄, issued, y, v₅, given, h, rfl⟩ := h
  · obtain ⟨quiet₂, refused⟩ := refused.does_of_asksFirst asksFirst_issue
    exact .denied door verified quiet₂ (issue_ends refused)
  obtain ⟨quiet₂, given⟩ := given.does_of_asksFirst asksFirst_issue
  obtain ⟨rfl, rfl⟩ := issue_ok given
  rw [Call.goes_modifyGet_bind] at h
  cases there : (lastFound x v₄).table.lookup? caller.pid id with
  | some entry =>
    rw [storeGranted_of_some there] at h
    obtain ⟨rfl, rfl, rfl⟩ := Call.goes_modify.mp h
    rw [List.append_nil]
    exact .granted door verified quiet₂ rfl there
  | none =>
    rw [storeGranted_of_none there] at h
    obtain ⟨v₅, _, z, _, withdrawn, rest, rfl⟩ := Call.goes_liftM_bind.mp h
    obtain ⟨rfl, rfl, rfl⟩ := Call.goes_throw.mp rest
    rw [List.append_nil]
    exact .vanished door verified quiet₂ rfl there withdrawn

/-- The report is counted when it has ended. -/
theorem reportClick_goes {result : Except Refusal Unit}
    (h : (reportClick s caller id c declared event handle).Goes r visits result t) :
    ∃ u, ClicksAmid s caller id c declared event handle r visits result u ∧
      t = measure (fun m => { m with
        clicks := m.clicks.add [c.kind.name, (ResultCode.ofResult result).name] }) u := by
  unfold reportClick at h
  rw [Op.goes_bind] at h
  obtain ⟨v, result, u, _, tried, h, rfl⟩ := h
  rw [Op.goes_modify_bind, Op.goes_pure] at h
  obtain ⟨rfl, rfl, rfl⟩ := h
  rw [List.append_nil]
  refine ⟨u, ?_, rfl⟩
  obtain ⟨e, why, rfl, rfl, rfl⟩ | ⟨token, door, inside⟩ :=
    door_goes (fun stored => .kindClicked id stored c.kind)
      (reportInside s caller id c declared event handle) tried
  · exact .turnedAway why
  · exact reportInside_goes door inside

end Registry

end ClickGrant
