import ClickGrant.Proofs.Consent.Masks
import ClickGrant.Proofs.Registry.Changes
import ClickGrant.Proofs.Registry.Death
import ClickGrant.Proofs.Registry.Disturbed
import ClickGrant.Proofs.Registry.Gains
import ClickGrant.Proofs.Registry.Standalone

/-!
# Consent comes before every grant

The consent gate is passed in the middle of a click. What the click issues, it may issue much later,
after the identity store has been asked; it relies on nobody's clearing the consent in between. This
is the pact `gated`, which every act keeps to. What is proved:
  1. `gated_perform` — consents only grow, whoever gains a kind that needs a consent has given it, and
     the user is asked for such a consent only while it is not on record.
  2. `Dialogue.Heeds.ended` — a click that is told to wait, or whose question is not answered, is
     refused there and then, and has done nothing to consents and grants (`ClicksAmid.givesNothing`).
  3. `consent_gates_grants` — both, in all traffic from a registry with any consents.
-/
set_option autoImplicit false

namespace ClickGrant

/-! ## Answers that end a call -/

/-- The refusal that an answer of the consent dialog makes of a click. -/
def Exchange.declined? : Exchange → Option Refusal
  | ⟨.consent .., .error o⟩ => some (.outage o)
  | ⟨.consent .., .ok .wait⟩ => some .waitForConsent
  | _ => none

namespace Dialogue

variable {σ α β : Type}

/-- An answer that declines ends the dialogue at once, with the refusal it makes and as `ends` says. -/
def Heeds (ends : Refusal → σ → Dialogue σ α) : Dialogue σ α → Prop
  | done _ _ => True
  | ask _ q next => ∀ found r,
      (∀ e, Exchange.declined? ⟨q, r⟩ = some e → next found r = ends e found) ∧ (next found r).Heeds ends

variable {ends : Refusal → σ → Dialogue σ α} {ends' : Refusal → σ → Dialogue σ β} {visits : List (Visit σ)}

theorem Heeds.bind {f : α → Op σ β} (goesOn : ∀ e s, (ends e s).bind f = ends' e s)
    (rest : ∀ a s, (f a s).Heeds ends') : ∀ {d : Dialogue σ α}, d.Heeds ends → (d.bind f).Heeds ends'
  | done s a, _ => rest a s
  | ask _ _ _, h => fun found r =>
      ⟨fun e declined => ((h found r).1 e declined ▸ goesOn e found :), Heeds.bind goesOn rest (h found r).2⟩

theorem declined?_of_not_consent {x : Exchange} (other : x.request.isConsent = false) :
    x.declined? = none := by
  unfold Exchange.declined?
  split
  · cases other
  · cases other
  · rfl

/-- What does not ask for consent is not declined. -/
theorem heeds_of_asks : ∀ {d : Dialogue σ α}, d.Asks (fun q => q.isConsent = false) → d.Heeds ends
  | done _ _, _ => trivial
  | ask _ _ _, h => fun found r => by
      refine ⟨fun e declined => ?_, heeds_of_asks (h.2 found r)⟩
      rw [declined?_of_not_consent h.1] at declined
      cases declined

/-- A dialogue that was declined has ended with that. -/
theorem Heeds.ended {d e : Dialogue σ α} (h : d.Heeds ends) (passes : d.Passes visits e)
    (finished : ∀ e s, ∃ t a, ends e s = .done t a) :
    ∀ v ∈ visits, ∀ refusal, v.exchange.declined? = some refusal → e = ends refusal v.found := by
  induction passes with
  | here => exact fun v hv => nomatch hv
  | @on asked found q next r visits e rest ih =>
    intro v hv refusal declined
    rcases List.mem_cons.mp hv with rfl | hv
    · obtain ⟨t, a, same⟩ := finished refusal found
      have finish := (h found r).1 refusal declined
      rw [finish, same] at rest
      rw [same]
      cases rest
      rfl
    · exact ih (h found r).2 v hv refusal declined

end Dialogue

namespace Call

variable {σ α β : Type}

/-- Whatever declines the call's question ends the call with a refusal. -/
def Heeds (x : Call σ α) : Prop := ∀ s, Dialogue.Heeds (fun e t => .done t (.error e)) (x.run s)

theorem heeds_bind {x : Call σ α} {f : α → Call σ β} (hx : x.Heeds) (hf : ∀ a, (f a).Heeds) :
    (x >>= f).Heeds := by
  intro s
  rw [ExceptT.run_bind, Op.bind_apply]
  refine Dialogue.Heeds.bind ?_ (fun result t => ?_) (hx s)
  · exact fun _ _ => rfl
  cases result with
  | error e => trivial
  | ok a => exact hf a t

end Call

namespace Registry

open GrantState (Gains nobody)

variable {s : Settings} {required : List Kind} {token : Token} {kind : Kind} {handle : Option UInt64}
  {caller : Caller} {id : ComponentId} {c : Component} {declared : String} {event : ClickEvent}
  {r r' t : Registry} {visits : List (Visit Registry)}

theorem heeds_of_keeps {α : Type} {x : Call Registry α} (who : Token → Kind → Prop)
    (h : Call.Keeps (gaining who) x) : x.Heeds := fun r =>
  Dialogue.heeds_of_asks (Op.Keeps.asks h (fun _ _ => trivial) (fun _ _ asks => asks) r)

/-- What the gate makes of the answer of the dialog. -/
def answered (token : Token) (kind : Kind) (found : Registry) :
    Except Outage ConsentDecision → Dialogue Registry (Except Refusal Unit)
  | .error o => .done found (.error (.outage o))
  | .ok .wait => .done found (.error .waitForConsent)
  | .ok _ => .done { found with consents := found.consents.recordAndWrite token kind } (.ok ())

theorem gate_of_waived (waived : Waived required token kind r.consents) :
    (callConsents (ensureConsent required token kind handle)).run r = .done r (.ok ()) := by
  have passes : (!required.contains kind || r.consents.hasConsent token kind) = true := by
    rw [Bool.or_eq_true, Bool.not_eq_true']
    exact waived
  show Dialogue.within Registry.consents _ (ExceptT.run (if (!required.contains kind ||
    r.consents.hasConsent token kind) = true then _ else _ : Call ConsentStore Unit) r.consents) r = _
  rw [if_pos passes]
  rfl

theorem gate_of_needed (needed : ¬Waived required token kind r.consents) :
    (callConsents (ensureConsent required token kind handle)).run r =
      .ask r (.consent token kind handle) (answered token kind) := by
  have stops : ¬(!required.contains kind || r.consents.hasConsent token kind) = true := by
    rw [Bool.or_eq_true, Bool.not_eq_true']
    exact needed
  show Dialogue.within Registry.consents _ (ExceptT.run (if (!required.contains kind ||
    r.consents.hasConsent token kind) = true then _ else _ : Call ConsentStore Unit) r.consents) r = _
  rw [if_neg stops]
  refine congrArg (Dialogue.ask r (.consent token kind handle)) (funext fun found => funext fun answer => ?_)
  cases answer with
  | error o => rfl
  | ok decision => cases decision <;> rfl

theorem heeds_ensureConsent :
    Call.Heeds (callConsents (ensureConsent required token kind handle)) := by
  intro r
  by_cases waived : Waived required token kind r.consents
  · rw [gate_of_waived waived]
    trivial
  · rw [gate_of_needed waived]
    intro found answer
    cases answer with
    | error o => exact ⟨fun e declined => Option.some.inj declined ▸ rfl, trivial⟩
    | ok decision =>
      cases decision with
      | wait => exact ⟨fun e declined => Option.some.inj declined ▸ rfl, trivial⟩
      | granted => exact ⟨fun e declined => (nomatch declined), trivial⟩
      | alreadyGranted => exact ⟨fun e declined => (nomatch declined), trivial⟩

/-- A click that is declined its consent is refused there and then, and the report counted. -/
theorem heeds_reportClick (r : Registry) :
    Dialogue.Heeds (fun e t => .done (measure (fun m => { m with
        clicks := m.clicks.add [c.kind.name, (ResultCode.ofResult (.error e : Except Refusal Unit)).name] })
        t) (.error e))
      (reportClick s caller id c declared event handle r) := by
  have inside (token : Token) :
      Call.Heeds (reportInside s caller id c declared event handle token) := by
    refine Call.heeds_bind (heeds_of_keeps nobody (keeps_readmission caller id c declared)) fun c' => ?_
    refine Call.heeds_bind (heeds_of_keeps nobody (keeps_verifyEvent caller c' event)) fun _ => ?_
    refine Call.heeds_bind heeds_ensureConsent fun _ => ?_
    refine Call.heeds_bind (heeds_of_keeps _ (keeps_issue token c.kind)) fun issued => ?_
    exact heeds_of_keeps nobody (keeps_mark caller.pid id c' token c.kind issued)
  have uncounted : Call.Heeds (reportClickUncounted s caller id c declared event handle) := by
    refine Call.heeds_bind (heeds_of_keeps nobody (keeps_check _)) fun _ => ?_
    refine Call.heeds_bind (heeds_of_keeps nobody (keeps_check _)) fun _ => ?_
    refine Call.heeds_bind (heeds_of_keeps nobody (keeps_ensureId id)) fun _ => ?_
    refine Call.heeds_bind (heeds_of_keeps nobody (keeps_stored _ _)) fun found => ?_
    dsimp only
    split
    · exact Call.heeds_bind (heeds_of_keeps nobody (Call.keeps_throw _)) fun _ =>
        inside found.2
    · exact inside found.2
  refine Dialogue.Heeds.bind ?_ ?_ (uncounted r)
  · exact fun _ _ => rfl
  · exact fun _ _ => trivial

/-! ## What a refused click leaves alone -/

/-- No consent was recorded, the grants are the same, and none was counted. -/
structure GivesNothing (r r' : Registry) : Prop where
  consents : r'.consents = r.consents
  grants : r'.toGrantState = r.toGrantState
  counted : r'.metrics.map (·.grants) = r.metrics.map (·.grants)

theorem GivesNothing.refl (r : Registry) : GivesNothing r r := ⟨rfl, rfl, rfl⟩

theorem GivesNothing.trans {u : Registry} (h₁ : GivesNothing r u) (h₂ : GivesNothing u r') : GivesNothing r r' :=
  ⟨h₂.consents.trans h₁.consents, h₂.grants.trans h₁.grants, h₂.counted.trans h₁.counted⟩

/-- Counting anything but grants. -/
theorem givesNothing_measure {f : Metrics → Metrics} (other : ∀ m, (f m).grants = m.grants)
    (r : Registry) : GivesNothing r (measure f r) := by
  refine ⟨rfl, rfl, ?_⟩
  show (r.metrics.map f).map _ = _
  rw [Option.map_map]
  exact congrArg r.metrics.map (funext other)

theorem givesNothing_quarantineCaller (caller : Caller) (r : Registry) :
    GivesNothing r (quarantineCaller caller r) := by
  unfold quarantineCaller
  split
  next q _ =>
    have flagged : GivesNothing r { r with quarantine := q } := ⟨rfl, rfl, rfl⟩
    exact flagged.trans (givesNothing_measure (f := fun m => { m with quarantined := m.quarantined + 1 })
      (fun _ => rfl) _)
  next => exact .refl r

theorem Admits.givesNothing {log : List Exchange} {result : Except Refusal Component}
    (h : Admits s caller c declared r log result r') : GivesNothing r r' := by
  cases h with
  | tampered => exact givesNothing_quarantineCaller caller r
  | _ => exact .refl r

theorem Believes.givesNothing {log : List Exchange} {result : Except Refusal Unit}
    (h : Believes s caller c event r log result r') : GivesNothing r r' := by
  cases h with
  | rejected =>
    split
    · exact givesNothing_quarantineCaller caller r
    · exact .refl r
  | _ => exact .refl r

theorem Issues.denied_of_error {log : List Exchange} {e : Refusal}
    (h : Issues s token kind r log (.error e) r') : ∃ p o, e = .permissionDenied p o := by
  cases h with
  | denied o => exact ⟨_, o, rfl⟩

/-- The gate that stays shut has nothing given or taken. -/
theorem ConsentsAmid.givesNothing {e : Refusal}
    (h : ConsentsAmid required token kind handle r visits (.error e) t) :
    Kept GivesNothing r visits t ∧ Still (logOf visits) := by
  cases h with
  | unanswered o => exact ⟨⟨.refl _, .refl _⟩, by simp [logOf, Exchange.moves]⟩
  | showing => exact ⟨⟨.refl _, .refl _⟩, by simp [logOf, Exchange.moves]⟩

/-- A click that is refused before its permission is issued gives nothing, and has the identity
store give and take nothing. -/
theorem ClicksAmid.givesNothing {e : Refusal}
    (h : ClicksAmid s caller id c declared event handle r visits (.error e) t)
    (undenied : ∀ p o, e ≠ .permissionDenied p o) (found : ∀ pid id, e ≠ .notFound id pid) :
    Kept GivesNothing r visits t ∧ Still (logOf visits) := by
  have trans (r t u : Registry) (h₁ : GivesNothing r t) (h₂ : GivesNothing t u) := h₁.trans h₂
  have still {l₁ l₂ : List (Visit Registry)} (h₁ : Still (logOf l₁)) (h₂ : Still (logOf l₂)) :
      Still (logOf (l₁ ++ l₂)) := by
    unfold logOf at *
    rw [List.map_append]
    exact still_append.mpr ⟨h₁, h₂⟩
  cases h with
  | turnedAway => exact ⟨.refl r, still_nil⟩
  | @unadmitted _ _ _ u _ quiet refused =>
    have marked : GivesNothing u (markInvalid caller.pid id u) := ⟨rfl, rfl, rfl⟩
    exact ⟨(quiet.kept .refl).then trans (refused.givesNothing.trans marked), refused.still⟩
  | unbelieved _ quiet found admitted quiet' disbelief =>
    subst found
    exact ⟨(quiet.kept .refl).append trans ((quiet'.kept .refl).then trans disbelief.givesNothing),
      still admitted.still disbelief.still⟩
  | unconsented _ quiet found admitted quiet' found' belief gate =>
    subst found found'
    obtain ⟨shut, asked⟩ := gate.givesNothing
    exact ⟨(quiet.kept .refl).append trans ((quiet'.kept .refl).append trans shut),
      still admitted.still (still belief.still asked)⟩
  | denied _ _ _ refused =>
    obtain ⟨p, o, rfl⟩ := refused.denied_of_error
    exact absurd rfl (undenied p o)
  | vanished => exact absurd rfl (found _ _)

/-! ## The pact -/

/-- Consents only grow. Whoever gains a kind has given the consent it needs. The user is asked for a
consent only where it is needed. -/
def gated (required : List Kind) : Pact Registry where
  moves r r' := r.consents.Within r'.consents ∧
    Gains (fun token kind => Waived required token kind r'.consents) r.toGrantState r'.toGrantState
  relies r r' := r.consents.Within r'.consents
  asks r q := ∀ token kind handle, q = .consent token kind handle → ¬Waived required token kind r.consents
  moves_refl r := ⟨.refl _, .of_ledger_eq rfl⟩
  moves_trans := by
    intro r t u h₁ h₂
    refine ⟨h₁.1.trans h₂.1, fun token kind permits => ?_⟩
    rcases h₂.2 token kind permits with permits | waived
    · exact (h₁.2 token kind permits).imp_right fun waived => waived.imp_right h₂.1.hasConsent
    · exact .inr waived
  relied h := h.1
  relies_trans := .trans

/-- A consent that is not needed is not needed later. -/
theorem waived_later (h : (gated required).relies r r') (waived : Waived required token kind r.consents) :
    Waived required token kind r'.consents := waived.imp_right h.hasConsent

theorem asks_of_not_consent {q : Request} (other : q.isConsent = false) : (gated required).asks r q := by
  rintro token kind handle rfl
  cases other

/-- What gives nobody anything keeps to the pact anyhow. -/
theorem gated_of_nobody {who : Token → Kind → Prop} (I : Registry → Prop)
    (given : ∀ r token kind, I r → who token kind → Waived required token kind r.consents) :
    ∀ r r', I r → (gaining who).moves r r' → (gated required).moves r r' := by
  rintro r r' here ⟨consents, gains⟩
  refine ⟨consents ▸ .refl _, fun token kind permits => ?_⟩
  rw [consents]
  exact (gains token kind permits).imp_right (given r token kind here)

theorem gated_op {α : Type} {x : Op Registry α} (h : x.Keeps (gaining nobody)) :
    x.Keeps (gated required) :=
  h.under (gated_of_nobody _ fun _ _ _ _ gains => gains.elim) (fun _ _ _ => trivial)
    (fun _ _ => asks_of_not_consent) fun _ _ _ _ => trivial

theorem gated_call {α : Type} {x : Call Registry α} (h : Call.Keeps (gaining nobody) x) :
    Call.Honours (gated required) (fun _ => True) x fun _ _ => True :=
  h.under (gated_of_nobody _ fun _ _ _ _ gains => gains.elim) (fun _ _ _ => trivial)
    (fun _ _ => asks_of_not_consent) fun _ _ _ _ => trivial

/-- The gate asks only where it has to, and where it opens, no consent is needed any more. -/
theorem gated_ensureConsent : Call.Honours (gated required) (fun _ => True)
    (callConsents (ensureConsent required token kind handle))
    fun _ r => Waived required token kind r.consents := by
  intro r _
  have refl := (gated required).moves_refl
  by_cases waived : Waived required token kind r.consents
  · rw [gate_of_waived waived]
    exact ⟨refl r, fun _ _ => waived⟩
  · rw [gate_of_needed waived]
    refine ⟨refl r, fun token kind handle same => ?_, fun found answer _ => ?_⟩
    · cases same
      exact waived
    have records : (gated required).moves found
        { found with consents := found.consents.recordAndWrite token kind } :=
      ⟨found.consents.within_recordAndWrite token kind, .of_ledger_eq rfl⟩
    have recorded : Waived required token kind (found.consents.recordAndWrite token kind) :=
      .inr ((found.consents.hasConsent_recordAndWrite token token kind kind).mpr (.inl ⟨rfl, rfl⟩))
    cases answer with
    | error o => exact ⟨refl found, fun _ same => (nomatch same)⟩
    | ok decision =>
      cases decision with
      | wait => exact ⟨refl found, fun _ same => (nomatch same)⟩
      | granted => exact ⟨records, fun _ _ => recorded⟩
      | alreadyGranted => exact ⟨records, fun _ _ => recorded⟩

theorem gated_reportClick :
    (reportClick s caller id c declared event handle).Keeps (gated s.requiredKinds) := by
  have issues (token : Token) : Call.Honours (gated s.requiredKinds)
      (fun r => Waived s.requiredKinds token c.kind r.consents) (issue s token c.kind)
      fun _ r => Waived s.requiredKinds token c.kind r.consents := by
    refine (keeps_issue token c.kind).under (gated_of_nobody _ ?_) (fun _ _ _ => trivial)
      (fun _ _ => asks_of_not_consent) fun _ _ => waived_later
    rintro r _ _ waived ⟨rfl, rfl⟩
    exact waived
  have inside (token : Token) : Call.Honours (gated s.requiredKinds) (fun _ => True)
      (reportInside s caller id c declared event handle token) fun _ _ => True := by
    refine Call.honours_bind (gated_call (keeps_readmission caller id c declared)) fun c' => ?_
    refine Call.honours_bind (gated_call (keeps_verifyEvent caller c' event)) fun _ => ?_
    refine Call.honours_bind gated_ensureConsent fun _ => Call.honours_bind (issues token) fun issued => ?_
    exact fun r _ => gated_call (keeps_mark caller.pid id c' token c.kind issued) r trivial
  have uncounted : Call.Honours (gated s.requiredKinds) (fun _ => True)
      (reportClickUncounted s caller id c declared event handle) fun _ _ => True := by
    refine Call.honours_bind (gated_call (keeps_check _)) fun _ => ?_
    refine Call.honours_bind (gated_call (keeps_check _)) fun _ => ?_
    refine Call.honours_bind (gated_call (keeps_ensureId id)) fun _ => ?_
    refine Call.honours_bind (gated_call (keeps_stored _ _)) fun found => ?_
    dsimp only
    split
    · exact Call.honours_bind (gated_call (Call.keeps_throw _)) fun _ => inside found.2
    · exact inside found.2
  refine Op.honours_bind uncounted fun result r _ => ?_
  exact gated_op (Op.keeps_bind (keeps_count _) fun _ => Op.keeps_pure result) r trivial

theorem gated_perform (act : Act) : (perform s act).Keeps (gated s.requiredKinds) := by
  cases act with
  | reportClick => exact gated_reportClick
  | _ => exact gated_op (keeps_perform fun _ _ _ _ _ _ same => nomatch same)

/-- Whoever is permitted a kind that needs a consent has given it. -/
def Consented (required : List Kind) (r : Registry) : Prop :=
  ∀ token kind, kind ∈ required → r.ledger.Permits token kind → r.consents.hasConsent token kind = true

theorem not_waived_iff {store : ConsentStore} :
    ¬Waived required token kind store ↔ kind ∈ required ∧ store.hasConsent token kind = false := by
  unfold Waived
  rw [not_or, Bool.not_eq_false, Bool.not_eq_true, List.contains_iff_mem]

/-- Whoever gains a kind has given the consent it needs, and nobody's consent is forgotten. -/
theorem Consented.next (h : Consented required r) (moved : (gated required).moves r r') :
    Consented required r' := by
  intro token kind needed permits
  rcases moved.2 token kind permits with permits | waived
  · exact moved.1.hasConsent (h token kind needed permits)
  · exact waived.resolve_left fun free => by
      rw [List.contains_iff_mem.mpr needed] at free
      cases free

theorem permits_start {now : UInt64} {consents : ConsentStore} {metrics : Option Metrics} :
    ¬(start now consents metrics).ledger.Permits token kind := by
  rintro (held | ⟨-, left⟩)
  · cases held
  · cases left

/-! ## Traffic -/

/-- A click that has been declined its consent has ended, and has given nothing. -/
theorem declined_click {call : Course Registry Act (Except Refusal Unit)}
    (passes : (perform s call.act call.before).Passes call.visits call.rest) {v : Visit Registry}
    (hv : v ∈ call.visits) {e : Refusal} (declined : v.exchange.declined? = some e) :
    ∃ after, call.rest = .done after (.error e) ∧ Kept GivesNothing call.before call.visits after ∧
      Still (logOf call.visits) := by
  by_cases click : ∃ caller id c declared event handle,
      call.act = .reportClick caller id c declared event handle
  · obtain ⟨caller, id, c, declared', event, handle, act⟩ := click
    rw [act] at passes
    have finish := (heeds_reportClick call.before).ended passes (fun _ _ => ⟨_, _, rfl⟩) v hv e declined
    rw [finish] at passes
    obtain ⟨u, ends, same⟩ := reportClick_goes passes
    -- the refusal is not one of those that come after the gate
    have early : (∀ p o, e ≠ .permissionDenied p o) ∧ ∀ pid id, e ≠ .notFound id pid := by
      unfold Exchange.declined? at declined
      split at declined
      · cases declined
        exact ⟨fun _ _ => Refusal.noConfusion, fun _ _ => Refusal.noConfusion⟩
      · cases declined
        exact ⟨fun _ _ => Refusal.noConfusion, fun _ _ => Refusal.noConfusion⟩
      · cases declined
    obtain ⟨kept, still⟩ := ends.givesNothing early.1 early.2
    refine ⟨_, finish, ?_, still⟩
    rw [same]
    refine kept.then (fun _ _ _ => .trans) (givesNothing_measure ?_ u)
    exact fun _ => rfl
  · -- nothing but a click asks for consent
    have keeps : (perform s call.act).Keeps (gaining nobody) :=
      keeps_perform fun _ _ _ _ _ _ same => click ⟨_, _, _, _, _, _, same⟩
    have silent : (perform s call.act).Asks fun q => q.isConsent = false :=
      keeps.asks (fun _ _ => trivial) fun _ _ asks => asks
    have other := Dialogue.Asks.passes (silent call.before) passes v hv
    rw [Dialogue.declined?_of_not_consent other] at declined
    cases declined

/-- In all traffic from a registry with any consents, with any calls begun while others wait: whoever
holds a capability of a kind that needs a consent, or a save grant where saving needs one, has given
that consent, at any time. Nobody is asked for a consent that is not needed or is on record. A click
that is told to wait, or whose question is not answered, is refused there and then; it has recorded
no consent, given no grant, counted none, and had the identity store give nothing. No stretch clears
a bit of a mask, and to record a consent changes the one answer only. -/
theorem consent_gates_grants (s : Settings) (now : UInt64) (consents : ConsentStore)
    (metrics : Option Metrics) (moves : List (Move Act)) :
    let t := trafficFrom s (start now consents metrics) moves
    (∀ p ∈ t.past, Consented s.requiredKinds p.before ∧ Consented s.requiredKinds p.after) ∧
    Consented s.requiredKinds t.state ∧
    (∀ call ∈ t.courses, ∀ x ∈ call.asked, ∀ token kind handle, x.2 = .consent token kind handle →
      kind ∈ s.requiredKinds ∧ x.1.consents.hasConsent token kind = false) ∧
    (∀ call ∈ t.courses, ∀ v ∈ call.visits, ∀ e, v.exchange.declined? = some e →
      ∃ after, call.rest = .done after (.error e) ∧ Kept GivesNothing call.before call.visits after ∧
        Still (logOf call.visits)) ∧
    (∀ p ∈ t.past, p.before.consents.Within p.after.consents) ∧
    consents.Within t.state.consents ∧
    ∀ (store : ConsentStore) token kind token' kind',
      (store.record token kind).2.hasConsent token' kind' = true ↔
        (token = token' ∧ kind = kind') ∨ store.hasConsent token' kind' = true := by
  intro t
  have first : Consented s.requiredKinds (start now consents metrics) ∧
      consents.Within (start now consents metrics).consents :=
    ⟨fun _ _ _ permits => absurd permits permits_start, .refl consents⟩
  have honoured : t.Honoured (gated s.requiredKinds)
      fun r => Consented s.requiredKinds r ∧ consents.Within r.consents :=
    Traffic.honoured gated_perform
      (fun _ _ moved good => ⟨good.1.next moved, good.2.trans moved.1⟩) first moves
  have genuine : Traffic.Genuine (perform s) t := (Traffic.genuine_start _).run moves
  refine ⟨fun p hp => ?_, honoured.now.1, fun call hcall x hx token kind handle same => ?_,
    fun call hcall v hv e declined => declined_click (genuine call hcall) hv declined,
    fun p hp => (honoured.moves p hp).1, honoured.now.2, fun store token kind token' kind' =>
    store.hasConsent_record token token' kind kind'⟩
  · obtain ⟨before, after⟩ := honoured.always p hp
    exact ⟨before.1, after.1⟩
  · exact not_waived_iff.mp ((honoured.loyal call hcall).asks x hx token kind handle same)

namespace Scene

/-- A dialog is showing. -/
def busy : (q : Request) → q.Answer
  | .consent .. => .ok .wait
  | q => reply q

/-- A button is registered. A click on it asks for consent; while the dialog shows, a second click is
reported and the user agrees; after that, the first click is told to come back. -/
def dialogShowing : List (Move Act) :=
  [.begin (.register app .save saveButton ""), .answer 0 reply, .answer 0 reply,
   .begin (click 1000 saveButton 150 130), .answer 1 reply, .answer 1 reply, .answer 1 reply,
   .begin (click 1000 saveButton 150 130)] ++ List.replicate 4 (.answer 2 reply) ++ [.answer 1 busy]

/-- The answer is to wait for the user. -/
def tellsToWait : Option Refusal → Bool
  | some .waitForConsent => true
  | _ => false

theorem eq_of_tellsToWait {declined : Option Refusal} (told : tellsToWait declined = true) :
    declined = some .waitForConsent := by
  unfold tellsToWait at told
  split at told
  next => rfl
  next => cases told

end Scene

open Scene in
/-- The second click was granted after consent was given; the first one gave nothing, although the
consent was on record when it went on. -/
theorem consent_gates_grants_dialogShowing :
    (trafficFrom settings fresh dialogShowing).state.ledger.hasSave app.token = true ∧
      (trafficFrom settings fresh dialogShowing).state.consents.hasConsent app.token .save = true ∧
      ∃ call ∈ (trafficFrom settings fresh dialogShowing).courses, ∃ after,
        call.rest = .done after (.error .waitForConsent) ∧
        Kept GivesNothing call.before call.visits after := by
  obtain ⟨-, consented, -, declined, -⟩ :=
    consent_gates_grants settings 1000000 (.ofFile .missing) none dialogShowing
  rw [← fresh] at consented declined
  have needed : Kind.save ∈ settings.requiredKinds := by decide +kernel
  have saves : (trafficFrom settings fresh dialogShowing).state.ledger.hasSave app.token = true := by
    decide +kernel
  have told : ((trafficFrom settings fresh dialogShowing).courses[1]?.any fun call =>
      call.visits.any fun v => tellsToWait v.exchange.declined?) = true := by
    decide +kernel
  obtain ⟨call, found, told⟩ := (Option.any_eq_true _ _).mp told
  obtain ⟨v, hv, told⟩ := List.any_eq_true.mp told
  have told : v.exchange.declined? = some .waitForConsent := eq_of_tellsToWait told
  have among := List.mem_of_getElem? found
  obtain ⟨after, ended, kept, -⟩ := declined call among v hv .waitForConsent told
  exact ⟨saves, consented app.token .save needed (Or.inr ⟨rfl, saves⟩), call, among, after, ended, kept⟩

end Registry

end ClickGrant
