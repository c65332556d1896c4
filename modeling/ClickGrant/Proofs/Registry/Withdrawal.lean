import ClickGrant.Proofs.Grant.Undo
import ClickGrant.Proofs.Registry.Disturbed
import ClickGrant.Proofs.Registry.Orderly
import ClickGrant.Proofs.Registry.Standalone

/-!
# Clicks that come too late

A click is granted before its component is marked, and while it was verified the component may have
gone. Then what was issued is taken back. What is proved:
  1. `withdraw_kept` — taking back what was issued for a click leaves everybody with what they had
     before, and the same timers pending. A capability that was held before is not taken back.
  2. `ClicksAmid.kept` — so a click that is refused, whatever for, leaves the grants as it found
     them each time it went on.
  3. `refused_click_leaves_no_grant` — in all traffic with fewer than 2^64 schedulings.

The bound is there because serials and sequence numbers are counters of 64 bits that wrap around:
past it, taking back a grant could take an old one of the same serial with it.
-/
set_option autoImplicit false

namespace ClickGrant.Registry

open GrantState (Orderly)

variable {s : Settings} {caller : Caller} {c c' : Component} {declared : String} {r r' t u w : Registry}
  {visits : List (Visit Registry)} {log : List Exchange} {id : ComponentId} {event : ClickEvent}
  {handle : Option UInt64} {token : Token} {kind : Kind}

/-- Everybody holds the same, the same timers are pending, and no grant was counted. -/
structure SameGrants (r r' : Registry) : Prop where
  alike : r.toGrantState.Alike r'.toGrantState
  counted : r'.metrics.map (·.grants) = r.metrics.map (·.grants)

theorem SameGrants.refl (r : Registry) : SameGrants r r := ⟨.refl _, rfl⟩

theorem SameGrants.trans (h₁ : SameGrants r t) (h₂ : SameGrants t u) : SameGrants r u :=
  ⟨h₁.alike.trans h₂.alike, h₂.counted.trans h₁.counted⟩

theorem sameGrants_of_eq (grants : r'.toGrantState = r.toGrantState)
    (counted : r'.metrics.map (·.grants) = r.metrics.map (·.grants)) : SameGrants r r' :=
  ⟨grants ▸ .refl _, counted⟩

/-! ## What a refusal leaves alone -/

/-- Counting anything else. -/
theorem sameGrants_measure (f : Metrics → Metrics) (r : Registry)
    (other : ∀ m, (f m).grants = m.grants) : SameGrants r (measure f r) := by
  refine sameGrants_of_eq rfl ?_
  show (r.metrics.map f).map _ = _
  rw [Option.map_map]
  exact congrArg r.metrics.map (funext other)

theorem sameGrants_quarantineCaller (caller : Caller) (r : Registry) :
    SameGrants r (quarantineCaller caller r) := by
  unfold quarantineCaller
  split
  next q _ =>
    have flagged : SameGrants r { r with quarantine := q } := sameGrants_of_eq rfl rfl
    exact flagged.trans (sameGrants_measure _ _ fun _ => rfl)
  next => exact .refl r

theorem Admits.sameGrants {result : Except Refusal Component}
    (h : Admits s caller c declared r log result r') : SameGrants r r' := by
  cases h with
  | tampered => exact sameGrants_quarantineCaller caller r
  | _ => exact .refl r

theorem Believes.sameGrants {result : Except Refusal Unit}
    (h : Believes s caller c event r log result r') : SameGrants r r' := by
  cases h with
  | rejected =>
    split
    · exact sameGrants_quarantineCaller caller r
    · exact .refl r
  | _ => exact .refl r

theorem Issues.of_error {e : Refusal} (h : Issues s token kind r log (.error e) r') : r' = r := by
  cases h; rfl

/-- A consent is no grant. -/
theorem sameGrants_consented (r : Registry) (store : ConsentStore) :
    SameGrants r { r with consents := store } := sameGrants_of_eq rfl rfl

theorem ConsentsAmid.grants_eq {required : List Kind} {result : Except Refusal Unit}
    (h : ConsentsAmid required token kind handle r visits result t) :
    t.toGrantState = (lastFound r visits).toGrantState := by
  cases h <;> rfl

theorem VerifiesAmid.grants_eq (h : VerifiesAmid s caller c declared event handle token r visits c' t) :
    t.toGrantState = (lastFound r visits).toGrantState := by
  cases h with
  | verified _ found _ _ found' _ gate =>
    subst found found'
    rw [lastFound_append, lastFound_append]
    exact gate.grants_eq

/-- The grants that are issued are entered into a ledger that an answer has found, or into the one
that the call began with. -/
theorem VerifiesAmid.ledger_found {v₁ : List (Visit Registry)}
    (h : VerifiesAmid s caller c declared event handle token r v₁ c' t) (v₂ : List (Visit Registry)) :
    ∃ m ∈ r :: (v₁ ++ v₂).map (·.found), (lastFound t v₂).toGrantState = m.toGrantState := by
  rw [List.map_append, ← List.cons_append]
  rcases List.mem_cons.mp (lastFound_mem t v₂) with same | later
  · rw [same]
    exact ⟨_, List.mem_append_left _ (lastFound_mem r v₁), h.grants_eq⟩
  · exact ⟨_, List.mem_append_right _ later, rfl⟩

/-! ## Taking back -/

theorem metrics_withdrawSave (token : Token) (serial : UInt64) (r : Registry) :
    (withdrawSave token serial r).metrics = r.metrics := by
  unfold withdrawSave changeGrants
  cases GrantState.revokeSave token serial r.toGrantState with
  | mk last g => cases last <;> rfl

/-- What was issued for a click is taken back without a trace. -/
theorem withdraw_kept (orderly : Orderly s.delays r.toGrantState)
    (h : (withdraw token kind (receipt token kind r.toGrantState)).Goes
      { r with toGrantState := credited s token kind r.toGrantState } visits () t) :
    Kept SameGrants r visits t := by
  obtain ⟨⟨live, events, balanced⟩, tidy⟩ := orderly
  unfold receipt credited at h
  cases style : kind.grantStyle with
  | perClick =>
    rw [style] at h
    obtain ⟨rfl, -, rfl⟩ := Op.goes_pure.mp h
    refine ⟨?_, congrArg _ (metrics_withdrawSave ..)⟩
    rw [toGrantState_withdrawSave]
    exact GrantState.alike_revokeSave_grantSave balanced tidy token
  | capability =>
    rw [style] at h
    dsimp only at h
    cases held : r.ledger.hasCapability token kind with
    | true =>
      rw [held] at h
      obtain ⟨rfl, -, rfl⟩ := Op.goes_pure.mp h
      exact ⟨GrantState.alike_addCapability held, rfl⟩
    | false =>
      rw [held] at h
      obtain ⟨v, taken, w, v', revoked, done, rfl⟩ := Op.goes_bind.mp h
      obtain ⟨rfl, -, rfl⟩ := Op.goes_pure.mp done
      obtain ⟨u, dropped, quiet, rfl⟩ :=
        revokeCapability_goes (GrantState.hasCapability_addCapability token kind r.toGrantState) revoked
      have same : u = r := by
        rw [dropped]
        dsimp only
        rw [GrantState.dropCapability_addCapability tidy held]
      rw [List.append_nil, same]
      exact (same ▸ quiet).kept .refl

/-! ## The report of a click -/

/-- A click that is refused leaves the grants as it found them, each time it went on. -/
theorem ClicksAmid.kept {e : Refusal}
    (h : ClicksAmid s caller id c declared event handle r visits (.error e) t)
    (orderly : ∀ m ∈ r :: visits.map (·.found), Orderly s.delays m.toGrantState) :
    Kept SameGrants r visits t := by
  have trans (r t u : Registry) (h₁ : SameGrants r t) (h₂ : SameGrants t u) := h₁.trans h₂
  cases h with
  | turnedAway => exact .refl r
  | @unadmitted _ _ _ u _ quiet refused =>
    have marked : SameGrants u (markInvalid caller.pid id u) := sameGrants_of_eq rfl rfl
    exact (quiet.kept .refl).then trans (refused.sameGrants.trans marked)
  | unbelieved _ quiet found _ quiet' disbelief =>
    subst found
    exact (quiet.kept .refl).append trans ((quiet'.kept .refl).then trans disbelief.sameGrants)
  | unconsented _ quiet found _ quiet' found' _ gate =>
    subst found found'
    have gated := gate.kept .refl sameGrants_consented
    exact (quiet.kept .refl).append trans ((quiet'.kept .refl).append trans gated)
  | denied _ verified quiet refused =>
    rw [refused.of_error]
    exact (verified.kept .refl sameGrants_consented trans).append trans (quiet.kept .refl)
  | @vanished v₁ v₂ v₃ _ _ t _ _ _ verified quiet found _ withdrawn =>
    subst found
    obtain ⟨m, hm, same⟩ := verified.ledger_found v₂
    have earlier : m ∈ r :: (v₁ ++ (v₂ ++ v₃)).map (·.found) := by
      rw [← List.append_assoc, List.map_append, ← List.cons_append]
      exact List.mem_append_left _ hm
    have ready : Orderly s.delays (lastFound t v₂).toGrantState := same ▸ orderly m earlier
    have verifying := verified.kept .refl sameGrants_consented trans
    exact verifying.append trans ((quiet.kept .refl).append trans (withdraw_kept ready withdrawn))

/-- In all traffic with fewer than 2^64 schedulings, a click that is refused leaves no grant behind,
least of all one whose component has gone by the time it is verified: between any two of its
requests, and from its last answer to its end, everybody goes on to hold what they held, the same
timers are pending, and no grant is counted. -/
theorem refused_click_leaves_no_grant (s : Settings) (now : UInt64) (consents : ConsentStore)
    (metrics : Option Metrics) (moves : List (Move Act))
    (few : (trafficFrom s (.start now consents metrics) moves).past.countP schedules < UInt64.size) :
    ∀ call ∈ (trafficFrom s (.start now consents metrics) moves).courses,
      ∀ caller id c declared event handle after e,
        call.act = .reportClick caller id c declared event handle →
        call.rest = .done after (.error e) → Kept SameGrants call.before call.visits after := by
  intro call hcall caller id c declared event handle after e act ended
  have genuine : Traffic.Genuine (perform s) (trafficFrom s (.start now consents metrics) moves) :=
    (Traffic.genuine_start _).run moves
  have goes := genuine.goes hcall ended
  rw [act] at goes
  obtain ⟨u, ends, rfl⟩ := reportClick_goes goes
  have orderly := (orderly_throughout s now consents metrics moves few).2 call hcall
  exact (ends.kept orderly).then (fun _ _ _ => .trans) (sameGrants_measure _ u fun _ => rfl)

namespace Scene

/-- The lower button has been clicked. While a click on the other one waits for the windows on the
screen, that button is unregistered. -/
def tooLate : List (Move Act) :=
  [.begin (.register app .save saveButton ""), .answer 0 reply, .answer 0 reply,
   .begin (.register app .save lowerButton ""), .answer 1 reply, .answer 1 reply,
   .begin (click 1001 lowerButton 150 330), .answer 2 reply, .answer 2 reply, .answer 2 reply,
   .answer 2 reply,
   .begin (click 1000 saveButton 150 130), .answer 3 reply, .answer 3 reply,
   .begin (.unregister app 1000), .answer 3 reply]

/-- The click has ended because its component is gone, and the application has one save grant. -/
def endedLate (call : Course Registry Act (Except Refusal Unit)) : Bool :=
  match call.rest with
  | .done after (.error (.notFound id pid)) =>
    id == 1000 && pid == app.pid && after.ledger.saveCount app.token == 1
  | _ => false

end Scene

open Scene in
/-- The grant of the first click is left, and there is none of the second one. -/
theorem one_grant_left_of_tooLate :
    (trafficFrom settings fresh tooLate).past.countP schedules < UInt64.size ∧
    ∃ call ∈ (trafficFrom settings fresh tooLate).courses, ∃ after,
      call.act = click 1000 saveButton 150 130 ∧
      call.rest = .done after (.error (.notFound 1000 app.pid)) ∧
      Kept SameGrants call.before call.visits after ∧ after.ledger.saveCount app.token = 1 := by
  have few : (trafficFrom settings fresh tooLate).past.countP schedules < UInt64.size := by
    decide +kernel
  have late : ((trafficFrom settings fresh tooLate).courses[3]?.any endedLate) = true := by
    decide +kernel
  obtain ⟨call, found, late⟩ := (Option.any_eq_true _ _).mp late
  have act : call.act = click 1000 saveButton 150 130 :=
    (Option.some.inj (Traffic.act_of_number found)).symm
  have member := List.mem_of_getElem? found
  unfold endedLate at late
  split at late
  next after id pid rest =>
    simp only [Bool.and_eq_true, beq_iff_eq] at late
    obtain ⟨⟨rfl, rfl⟩, one⟩ := late
    have kept := refused_click_leaves_no_grant settings 1000000 (.ofFile .missing) none tooLate few
      call member _ _ _ _ _ _ after _ act rest
    exact ⟨few, call, member, after, act, rest, kept, one⟩
  next => cases late

end ClickGrant.Registry
