import ClickGrant.Proofs.Consent.Masks
import ClickGrant.Proofs.Registry.Conviction
import ClickGrant.Proofs.Registry.Identifiers

/-!
# What a refused call leaves behind

Registering, updating, unregistering and reporting a click can be refused at some twenty places,
some of them after the state has been touched. `LeavesNoTrace` says what is left of a refused call
that nobody disturbs. What is proved:
  1. `LeavesNoTrace` — grants, timers, posture and shutdown are as they were; the table is, too,
     except that a stored component whose new declaration is not admitted becomes invalid; the
     caller may have been flagged; and a reported click may have left a consent on record.
  2. `refused_leaves_no_trace` — every refused call leaves no other trace, from every state,
     whatever it was given and whatever the collaborators answer.
  3. `ComponentTable.walk_eq_allocate` — the search for an identifier moves a cursor past everything
     that it tries. If all identifiers are taken it has come round to where it began.

Whether an admission has failed is told from the exchanges: they are those of an admission that
ends with the refusal (`Act.Unadmitted`). This leaves no doubt, since the exchanges of an operation
determine where it ends (`Dialogue.ends_unique`).
-/
set_option autoImplicit false

namespace ClickGrant

/-! ## The search for an identifier -/

namespace ComponentTable

variable {t : ComponentTable} {id : ComponentId}

/-- The search for a free identifier among so many, with a cursor that moves past each one tried. -/
def walk (t : ComponentTable) : (attempts : Nat) → (cursor : ComponentId) → Option ComponentId × ComponentId
  | 0, cursor => (none, cursor)
  | attempts + 1, cursor =>
    if t.isLive cursor then walk t attempts (successor cursor) else (some cursor, successor cursor)

/-- One step along the cycle. -/
theorem toInt_successor (low : baseId ≤ id) :
    (successor id).toInt = 1000 + (id.toInt - 1000 + 1) % idCount := by
  have count : (idCount : Int) = 2147482648 := by decide
  have top : lastId.toInt = 2147483647 := by decide
  have base : baseId.toInt = 1000 := by decide
  have one : (1 : Int32).toInt = 1 := by decide
  have below := id.toInt_lt
  rw [Int32.le_iff_toInt_le, base] at low
  rw [count]
  unfold successor
  split
  next last =>
    rw [last, top, base]
    rfl
  next other =>
    have ne : id.toInt ≠ lastId.toInt := fun same => other (Int32.toInt_inj.mp same)
    rw [Int32.toInt_add, one, Int.bmod_eq_of_le]
    all_goals omega

/-- A search that finds nothing has moved its cursor by one for each attempt. -/
theorem walk_eq : ∀ (attempts : Nat) {cursor : ComponentId}, baseId ≤ cursor →
    match t.freeFrom attempts cursor with
    | some found => t.walk attempts cursor = (some found, successor found)
    | none => (t.walk attempts cursor).1 = none ∧
        (t.walk attempts cursor).2.toInt = 1000 + (cursor.toInt - 1000 + attempts) % idCount
  | 0, cursor, low => by
    have count : (idCount : Int) = 2147482648 := by decide
    have base : baseId.toInt = 1000 := by decide
    have below := cursor.toInt_lt
    rw [Int32.le_iff_toInt_le, base] at low
    refine ⟨rfl, ?_⟩
    show cursor.toInt = _
    rw [count]
    omega
  | attempts + 1, cursor, low => by
    have count : (idCount : Int) = 2147482648 := by decide
    have rest := walk_eq attempts (le_successor low)
    unfold freeFrom walk
    by_cases live : t.isLive cursor = true
    · rw [if_pos live, if_pos live]
      cases found : t.freeFrom attempts (successor cursor) with
      | some id => rw [found] at rest; exact rest
      | none =>
        rw [found] at rest
        refine ⟨rest.1, rest.2.trans ?_⟩
        rw [toInt_successor low, count]
        omega
    · rw [if_neg live, if_neg live]

/-- The cursor ends behind the identifier that is found; after a search in vain it is back where it
began, so that the table is as it was. -/
theorem walk_eq_allocate (low : baseId ≤ t.nextId) :
    t.walk idCount t.nextId =
      match t.allocate with
      | some (id, t') => (some id, t'.nextId)
      | none => (none, t.nextId) := by
  have all := walk_eq (t := t) idCount low
  unfold allocate
  cases found : t.freeFrom idCount t.nextId with
  | some id => rw [found] at all; exact all
  | none =>
    rw [found] at all
    obtain ⟨nothing, round⟩ := all
    have count : (idCount : Int) = 2147482648 := by decide
    have base : baseId.toInt = 1000 := by decide
    have below := t.nextId.toInt_lt
    rw [Int32.le_iff_toInt_le, base] at low
    refine Prod.ext nothing (Int32.toInt_inj.mp (round.trans ?_))
    show _ = t.nextId.toInt
    rw [count]
    omega

end ComponentTable

namespace Registry

variable {s : Settings} {caller : Caller} {c : Component} {declared : String} {r r' u : Registry}
  {log : List Exchange} {id : ComponentId} {kind : Kind} {event : ClickEvent} {handle : Option UInt64}
  {act : Act} {e : Refusal}

/-! ## Admissions that fail -/

/-- Who makes a call. -/
def Act.caller? : Act → Option Caller
  | .register caller .. | .update caller .. | .unregister caller _ | .reportClick caller .. => some caller
  | _ => none

/-- The stored component that a call declares anew, how, and by which text. -/
def Act.redeclares? : Act → Option (ComponentId × Component × String)
  | .update _ id c declared | .reportClick _ id c declared _ _ => some (id, c, declared)
  | _ => none

/-- A stored component is declared anew, and the exchanges are those of an admission that fails. -/
def Act.Unadmitted (act : Act) (s : Settings) (caller : Caller) (r : Registry) (log : List Exchange)
    (e : Refusal) (id : ComponentId) : Prop :=
  ∃ c declared u, act.redeclares? = some (id, c, declared) ∧
    Call.Does (admission s caller c declared) r log (.error e) u

theorem Admits.log_ne_nil {result : Except Refusal Component}
    (h : Admits s caller c declared r log result r') : log ≠ [] := by
  cases h <;> exact List.cons_ne_nil _ _

/-- Nothing has been asked, so there was no admission. -/
theorem not_unadmitted_nil : ¬act.Unadmitted s caller r [] e id := by
  rintro ⟨c, declared, u, -, failed⟩
  exact (admits_of_does failed).log_ne_nil rfl

/-- An admission that has passed has not failed, whatever comes after it. -/
theorem not_unadmitted_of_admitted {c' : Component} {later : List Exchange}
    (redeclares : act.redeclares? = some (id, c, declared))
    (admitted : Admits s caller c declared r log (.ok c') r) (id' : ComponentId) :
    ¬act.Unadmitted s caller r (log ++ later) e id' := by
  rintro ⟨c₀, declared₀, u, same, failed⟩
  rw [redeclares] at same
  cases same
  obtain ⟨-, other, -⟩ := Dialogue.ends_unique (does_of_admits admitted) failed
  cases other

/-! ## What is left -/

/-- What a refused call leaves behind. -/
structure LeavesNoTrace (s : Settings) (act : Act) (caller : Caller) (r : Registry) (log : List Exchange)
    (e : Refusal) (r' : Registry) : Prop where
  /-- Save grants, capabilities and timers. -/
  grants : r'.toGrantState = r.toGrantState
  posture : r'.inputEnabled = r.inputEnabled
  running : r'.shuttingDown = r.shuttingDown
  /-- A stored component becomes invalid exactly if its new declaration is not admitted. -/
  table :
    (∃ id entry, act.Unadmitted s caller r log e id ∧ r.table.lookup? caller.pid id = some entry ∧
      r'.table = r.table.modify caller.pid id fun c => { c with isValid := false }) ∨
    ((∀ id, ¬act.Unadmitted s caller r log e id) ∧ r'.table = r.table)
  /-- Nobody but the caller is flagged, and nobody loses a flag. -/
  quarantine : r'.quarantine = r.quarantine ∨ r'.quarantine = ⟨caller.pid :: r.quarantine.pids⟩
  /-- The identity of a clicked component may have consented to its kind. -/
  consents : r'.consents = r.consents ∨
    ∃ id c declared event handle token, act = .reportClick caller id c declared event handle ∧
      LetsIn r caller id c.kind token ∧ r'.consents = r.consents.recordAndWrite token c.kind ∧
      ∀ token', r'.consents.mask token' =
        if token = token' then r.consents.mask token ||| c.kind.consentBit else r.consents.mask token'

theorem LeavesNoTrace.measure (h : LeavesNoTrace s act caller r log e r') (f : Metrics → Metrics) :
    LeavesNoTrace s act caller r log e (measure f r') :=
  ⟨h.grants, h.posture, h.running, h.table, h.quarantine, h.consents⟩

/-- Flagging somebody touches nothing else. -/
theorem quarantineCaller_cases (caller : Caller) (r : Registry) :
    quarantineCaller caller r = r ∨ ∃ f, quarantineCaller caller r =
      Registry.measure f { r with quarantine := ⟨caller.pid :: r.quarantine.pids⟩ } := by
  unfold quarantineCaller Quarantine.mark
  split
  next marked =>
    split at marked
    · cases marked
    · cases marked
      exact .inr ⟨_, rfl⟩
  next => exact .inl rfl

/-- The call ends without a failed admission, and at most flags its caller. -/
theorem leavesNoTrace_of_flagged (passed : ∀ id, ¬act.Unadmitted s caller r log e id)
    (flagged : r' = r ∨ r' = quarantineCaller caller r) : LeavesNoTrace s act caller r log e r' := by
  have still : LeavesNoTrace s act caller r log e r :=
    ⟨rfl, rfl, rfl, .inr ⟨passed, rfl⟩, .inl rfl, .inl rfl⟩
  rcases flagged with rfl | rfl
  · exact still
  obtain same | ⟨f, marked⟩ := quarantineCaller_cases caller r
  · rw [same]
    exact still
  · rw [marked]
    exact ⟨rfl, rfl, rfl, .inr ⟨passed, rfl⟩, .inr rfl, .inl rfl⟩

/-- A new declaration is not admitted, which may flag its caller. -/
theorem leavesNoTrace_of_unadmitted {token : Token} (redeclares : act.redeclares? = some (id, c, declared))
    (door : LetsIn r caller id kind token) (refused : Admits s caller c declared r log (.error e) u) :
    LeavesNoTrace s act caller r log e (markInvalid caller.pid id u) := by
  have unadmitted : act.Unadmitted s caller r log e id :=
    ⟨c, declared, u, redeclares, does_of_admits refused⟩
  obtain ⟨entry, found⟩ := door.present.lookup_isSome
  have marked : LeavesNoTrace s act caller r log e (markInvalid caller.pid id r) :=
    ⟨rfl, rfl, rfl, .inl ⟨id, entry, unadmitted, found, rfl⟩, .inl rfl, .inl rfl⟩
  rcases refused.of_error with rfl | rfl
  · exact marked
  obtain same | ⟨f, flagged⟩ := quarantineCaller_cases caller r
  · rw [same]
    exact marked
  · rw [flagged]
    exact ⟨rfl, rfl, rfl, .inl ⟨id, entry, unadmitted, found, rfl⟩, .inr rfl, .inl rfl⟩

theorem Believes.of_error (h : Believes s caller c event r log (.error e) r') :
    r' = r ∨ r' = quarantineCaller caller r := by
  cases h with
  | untrusted => exact .inl rfl
  | unseen => exact .inl rfl
  | rejected =>
    split
    · exact .inr rfl
    · exact .inl rfl

/-! ## Calls -/

theorem Registers.leavesNoTrace (h : Registers s caller kind c declared r log (.error e) r') :
    LeavesNoTrace s (.register caller kind c declared) caller r log e r' := by
  have passed (id : ComponentId) : ¬(Act.register caller kind c declared).Unadmitted s caller r log e id := by
    rintro ⟨_, _, _, ⟨⟩, _⟩
  cases h with
  | barred => exact leavesNoTrace_of_flagged passed (.inl rfl)
  | otherKind => exact leavesNoTrace_of_flagged passed (.inl rfl)
  | unadmitted _ _ refused => exact leavesNoTrace_of_flagged passed refused.of_error
  | clash => exact leavesNoTrace_of_flagged passed (.inl rfl)

theorem Updates.leavesNoTrace (h : Updates s caller id c declared r log (.error e) r') :
    LeavesNoTrace s (.update caller id c declared) caller r log e r' := by
  cases h with
  | turnedAway => exact leavesNoTrace_of_flagged (fun _ => not_unadmitted_nil) (.inl rfl)
  | unadmitted door refused => exact leavesNoTrace_of_unadmitted rfl door refused

theorem Unregisters.leavesNoTrace (h : Unregisters s caller id r log (.error e) r') :
    LeavesNoTrace s (.unregister caller id) caller r log e r' := by
  cases h <;> exact leavesNoTrace_of_flagged (fun _ => not_unadmitted_nil) (.inl rfl)

theorem Clicks.leavesNoTrace (h : Clicks s caller id c declared event handle r log (.error e) r') :
    LeavesNoTrace s (.reportClick caller id c declared event handle) caller r log e r' := by
  cases h with
  | turnedAway => exact leavesNoTrace_of_flagged (fun _ => not_unadmitted_nil) (.inl rfl)
  | unadmitted door refused => exact leavesNoTrace_of_unadmitted rfl door refused
  | unbelieved _ admitted disbelief =>
    exact leavesNoTrace_of_flagged (not_unadmitted_of_admitted rfl admitted) disbelief.of_error
  | unconsented _ admitted =>
    exact leavesNoTrace_of_flagged (not_unadmitted_of_admitted rfl admitted) (.inl rfl)
  | @denied _ _ _ _ _ token _ store _ door admitted _ gate refused =>
    cases refused with
    | denied o asked =>
      refine ⟨rfl, rfl, rfl, .inr ⟨not_unadmitted_of_admitted rfl admitted, rfl⟩, .inl rfl, ?_⟩
      -- by the time the identity store refuses, a consent is on record
      cases gate with
      | waived => exact .inl rfl
      | given decision needed agreed =>
        refine .inr ⟨id, c, declared, event, handle, token, rfl, door, rfl, fun token' => ?_⟩
        show (r.consents.recordAndWrite token c.kind).mask token' = _
        rw [← ConsentStore.mask_record, ConsentStore.mask, ConsentStore.mask,
          ConsentStore.records_recordAndWrite]

/-- Whatever a call is given and whatever the collaborators answer, if it is refused, nothing but
what is listed has changed. -/
theorem refused_leaves_no_trace (calls : act.caller? = some caller)
    (refused : (perform s act).Does r log (.error e) r') : LeavesNoTrace s act caller r log e r' := by
  generalize failed : (Except.error e : Except Refusal Unit) = reply at refused
  have outcome := perform_ends refused
  cases outcome with
  | @register _ _ _ _ _ result _ f ends =>
    cases calls
    cases result with
    | error e' =>
      cases failed
      exact ends.leavesNoTrace.measure f
    | ok => cases failed
  | update ends =>
    cases calls
    exact (failed ▸ ends).leavesNoTrace
  | unregister ends =>
    cases calls
    exact (failed ▸ ends).leavesNoTrace
  | reportClick f ends =>
    cases calls
    exact (failed ▸ ends).leavesNoTrace.measure f
  | _ => cases calls

namespace Scene

/-- The identity store refuses the precise location; everybody else answers as always. -/
def guarded (e : Environment) (q : Request) : q.Answer × Environment :=
  match q with
  | .grant _ .location => (Except.error ⟨.accessToken, "down"⟩, e)
  | q => e.answer q

/-- What an act does after others, with an identity store that refuses. -/
def guardedTurn (acts : List Act) (act : Act) : Turn :=
  (playAct guarded settings act (state acts) environment).1

theorem taken_guardedTurn (acts : List Act) (act : Act) : (guardedTurn acts act).Taken settings :=
  taken_playAct guarded settings act (state acts) environment

/-- A location button is clicked and the user consents. -/
def turnedDown : Turn :=
  guardedTurn [.register app .location locationButton ""] (click 1000 locationButton 150 130)

/-- The location button is declared anew, outside of its window. -/
def strayed : Turn :=
  guardedTurn [.register app .location locationButton ""]
    (.update app 1000 (button (.location (some .currentLocation) none) 5000 100) "")

end Scene

open Scene in
/-- A click that the identity store refuses leaves a consent on record, and a declaration that is
not admitted makes the stored component invalid. -/
theorem refused_leaves_no_trace_guarded :
    (∃ e, turnedDown.reply = .error e ∧
      LeavesNoTrace settings turnedDown.act app turnedDown.before turnedDown.log e turnedDown.after) ∧
    turnedDown.before.consents.hasConsent 537 .location = false ∧
    turnedDown.after.consents.hasConsent 537 .location = true ∧
    (∃ e, strayed.reply = .error e ∧
      LeavesNoTrace settings strayed.act app strayed.before strayed.log e strayed.after) ∧
    (strayed.before.table.lookup? 4242 1000).map (·.component.isValid) = some true ∧
    (strayed.after.table.lookup? 4242 1000).map (·.component.isValid) = some false := by
  have first : turnedDown.reply.isOk = false := by decide +kernel
  have second : strayed.reply.isOk = false := by decide +kernel
  have click : turnedDown.Taken settings := taken_guardedTurn _ _
  have update : strayed.Taken settings := taken_guardedTurn _ _
  refine ⟨?_, by decide +kernel, by decide +kernel, ?_, by decide +kernel, by decide +kernel⟩
  · cases refusal : turnedDown.reply with
    | ok => rw [refusal] at first; cases first
    | error e =>
      rw [Turn.Taken, refusal] at click
      exact ⟨e, rfl, refused_leaves_no_trace rfl click⟩
  · cases refusal : strayed.reply with
    | ok => rw [refusal] at second; cases second
    | error e =>
      rw [Turn.Taken, refusal] at update
      exact ⟨e, rfl, refused_leaves_no_trace rfl update⟩

end Registry

end ClickGrant
