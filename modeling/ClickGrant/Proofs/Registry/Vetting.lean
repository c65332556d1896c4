import ClickGrant.Proofs.Registry.Waning

/-!
# What is stored has been vetted

Components are stored by registrations, by new declarations and by clicks, and each of them only
after the component was vetted in the course of the same call. `Stores` describes the stages that
store a component and what they store, `Rejects` those on which a new declaration fails and the
stored component is marked as invalid. What is proved:
  1. `perform_remarked` — the marks of a check that a declared component bears make no difference to
     the call.
  2. `perform_meets` — every stage of every act, however it is disturbed, lets the table wane, stores
     one component, or rejects one; a new declaration or a click that succeeds stores one.
-/
set_option autoImplicit false

namespace ClickGrant.Registry

variable {s : Settings} {act : Act} {log : List Exchange} {t t' : ComponentTable}
  {reply : Option (Except Refusal Unit)} {pid : Pid} {id : ComponentId} {c : Component}

/-- In the course of a call a component was found to be drawn at `rect`, and the enhancement module,
if there is one, accepted it as such. -/
def Vetted (s : Settings) (caller : Caller) (c : Component) (declared : String) (rect : Rect)
    (log : List Exchange) : Prop :=
  ∃ screen scale, s.validity.validateDrawn c ⟨screen, scale⟩ = .ok rect ∧
    survey c screen scale ++ inspection s caller (c.shownAt rect) declared <+: log

/-- An act that has come so far, with this reply if it has ended, changes the table so that it holds
the component under this identifier of the process. -/
inductive Stores (s : Settings) (act : Act) (log : List Exchange) (t t' : ComponentTable)
    (reply : Option (Except Refusal Unit)) : Pid → ComponentId → Component → Prop where
  /-- A new component has no mark of a grant. -/
  | registered {caller : Caller} {kind : Kind} {c : Component} {declared : String} {rect : Rect}
      {id : ComponentId} {u : ComponentTable} (call : act = .register caller kind c declared)
      (vetted : Vetted s caller (unmarked c) declared rect log) (free : t.allocate = some (id, u))
      (left : t' = u.insert caller.pid caller.token ⟨id, (unmarked c).shownAt rect⟩) :
      Stores s act log t t' reply caller.pid id ((unmarked c).shownAt rect)
  /-- A component that is declared anew keeps the mark that it had. -/
  | updated {caller : Caller} {id : ComponentId} {c : Component} {declared : String} {rect : Rect}
      {old : Entry} (call : act = .update caller id c declared)
      (vetted : Vetted s caller c declared rect log) (ended : reply = some (.ok ()))
      (found : t.lookup? caller.pid id = some old)
      (left : t' = t.modify caller.pid id fun old => { c.shownAt rect with isGranted := old.isGranted }) :
      Stores s act log t t' reply caller.pid id
        { c.shownAt rect with isGranted := old.component.isGranted }
  /-- A component that a click was granted on is marked for it. -/
  | clicked {caller : Caller} {id : ComponentId} {c : Component} {declared : String} {event : ClickEvent}
      {handle : Option UInt64} {rect : Rect} {old : Entry}
      (call : act = .reportClick caller id c declared event handle)
      (vetted : Vetted s caller c declared rect log) (ended : reply = some (.ok ()))
      (found : t.lookup? caller.pid id = some old)
      (left : t' = t.modify caller.pid id fun _ => { c.shownAt rect with isGranted := true }) :
      Stores s act log t t' reply caller.pid id { c.shownAt rect with isGranted := true }

/-- The act declares a stored component anew. -/
inductive Redeclares : Act → Caller → ComponentId → Component → String → Prop where
  | update (caller : Caller) (id : ComponentId) (c : Component) (declared : String) :
      Redeclares (.update caller id c declared) caller id c declared
  | reportClick (caller : Caller) (id : ComponentId) (c : Component) (declared : String)
      (event : ClickEvent) (handle : Option UInt64) :
      Redeclares (.reportClick caller id c declared event handle) caller id c declared

/-- An act that has come so far is refused, since the new declaration of a component is not admitted,
and marks the component as invalid. -/
inductive Rejects (s : Settings) (act : Act) (log : List Exchange) (t t' : ComponentTable) :
    Option (Except Refusal Unit) → Pid → ComponentId → Prop where
  | rejected {caller : Caller} {id : ComponentId} {c : Component} {declared : String} {e : Refusal}
      {r r' : Registry} (redeclares : Redeclares act caller id c declared) (same : r.table = t)
      (refused : Admits s caller c declared r log (.error e) r')
      (left : t' = t.modify caller.pid id fun c => { c with isValid := false }) :
      Rejects s act log t t' (some (.error e)) caller.pid id

/-- A new declaration or a click has ended, and well. -/
def Succeeds (act : Act) (reply : Option (Except Refusal Unit)) : Prop :=
  (∃ caller id c declared, Redeclares act caller id c declared) ∧ reply = some (.ok ())

/-- What an act can do to the table without a break. -/
inductive Touches (s : Settings) (act : Act) (log : List Exchange) (t t' : ComponentTable)
    (reply : Option (Except Refusal Unit)) : Prop where
  | wanes (wanes : t.Wanes t') (idle : ¬Succeeds act reply)
  | stores {pid : Pid} {id : ComponentId} {c : Component} (stores : Stores s act log t t' reply pid id c)
  | rejects {pid : Pid} {id : ComponentId} (rejects : Rejects s act log t t' reply pid id)

/-! ## Marks of a declaration -/

/-- With a declared component's marks of a check set to anything. -/
def Act.remarked (valid : Bool) (drawn : Option Rect) : Act → Act
  | .register caller kind c declared => .register caller kind { c with isValid := valid, drawn } declared
  | .update caller id c declared => .update caller id { c with isValid := valid, drawn } declared
  | .reportClick caller id c declared event handle =>
    .reportClick caller id { c with isValid := valid, drawn } declared event handle
  | act => act

/-- The marks of a check that a declaration brings along make no difference to what is asked,
decided, answered or stored. -/
theorem perform_remarked (s : Settings) (act : Act) (valid : Bool) (drawn : Option Rect) :
    perform s (act.remarked valid drawn) = perform s act := by
  cases act <;> rfl

/-- Neither does the mark of a grant that a registration brings along. -/
theorem perform_register_granted (s : Settings) (caller : Caller) (kind : Kind) (c : Component)
    (declared : String) (granted : Bool) :
    perform s (.register caller kind { c with isGranted := granted } declared) =
      perform s (.register caller kind c declared) := rfl

/-! ## The stages of an act -/

/-- What is shown of an act wherever it halts. -/
abbrev Shown (s : Settings) (act : Act) (log : List Exchange) (r r' : Registry)
    (reply : Option (Except Refusal Unit)) : Prop := Touches s act log r.table r'.table reply

/-- The same of a part of it, with another result. -/
abbrev ShownPart {α : Type} (s : Settings) (act : Act) (log : List Exchange) (r r' : Registry)
    (result : Option (Except Refusal α)) : Prop :=
  Shown s act log r r' (result.map fun x => x.map fun _ => ())

theorem not_succeeds_none : ¬Succeeds act none := by
  rintro ⟨-, ended⟩
  cases ended

theorem not_succeeds_error (e : Refusal) : ¬Succeeds act (some (.error e)) := by
  rintro ⟨-, ended⟩
  cases ended

theorem not_succeeds_register (caller : Caller) (kind : Kind) (c : Component) (declared : String)
    (reply : Option (Except Refusal Unit)) : ¬Succeeds (.register caller kind c declared) reply := by
  rintro ⟨⟨_, _, _, _, redeclares⟩, -⟩
  cases redeclares

theorem not_succeeds_of_silent (silent : act.declarer? = none) : ¬Succeeds act reply := by
  rintro ⟨⟨caller, id, c, declared, redeclares⟩, -⟩
  cases redeclares <;> cases silent

theorem Touches.of_eq (same : t' = t) (idle : ¬Succeeds act reply) : Touches s act log t t' reply :=
  .wanes (.of_eq same) idle

/-- Nothing happens before a request. -/
theorem Touches.halts : Touches s act log t t none := .of_eq rfl not_succeeds_none

/-- A call can be refused with nothing done. -/
theorem Touches.refused (e : Refusal) : Touches s act log t t (some (.error e)) :=
  .of_eq rfl (not_succeeds_error e)

/-- What lets the table wane shows nothing else, unless it succeeds in declaring something. -/
theorem meets_of_wanes {n : Nat} {x : Op Registry (Except Refusal Unit)} (h : x.Moves (Wanes n))
    (idle : ∀ reply, ¬Succeeds act reply) (r : Registry) : (x r).Meets (Shown s act) log r :=
  (h r).meets (fun _ o wanes => .wanes wanes (idle o)) fun _ _ _ o _ wanes => .wanes wanes (idle o)

section Door

variable {caller : Caller} {kind : Kind} {r : Registry}

theorem looks_ensureRunning (r : Registry) : ∃ result, ensureRunning.run r = .done r result := by
  show ∃ result, (if r.shuttingDown = true then throw .exiting else pure () : Call Registry Unit).run r = _
  split
  · exact ⟨_, rfl⟩
  · exact ⟨_, rfl⟩

theorem looks_ensureTrusted (caller : Caller) (r : Registry) :
    ∃ result, (ensureTrusted caller).run r = .done r result := by
  show ∃ result, (if r.quarantine.contains caller.pid = true then throw (.quarantined caller.pid)
    else pure () : Call Registry Unit).run r = _
  split
  · exact ⟨_, rfl⟩
  · exact ⟨_, rfl⟩

theorem looks_ensureId (id : ComponentId) (r : Registry) :
    ∃ result, (ensureId id).run r = .done r result := by
  unfold ensureId
  split
  · exact ⟨_, rfl⟩
  · exact ⟨_, rfl⟩

theorem looks_stored (pid : Pid) (id : ComponentId) (r : Registry) :
    ∃ result, (stored pid id).run r = .done r result := by
  unfold stored
  rw [ExceptT.run_bind, Op.bind_apply]
  show ∃ result, (ExceptT.run _ : Op Registry _) r = _
  dsimp only
  split
  · exact ⟨_, rfl⟩
  · split
    · exact ⟨_, rfl⟩
    · exact ⟨_, rfl⟩

/-- At the door of a call on a stored component nothing happens. -/
theorem meets_door (mismatch : Kind → BadArgument) {x : Token → Call Registry Unit}
    (inside : ∀ token, ((x token).run r).Meets (Shown s act) log r) :
    ((do
      ensureRunning
      ensureTrusted caller
      ensureId id
      let (storedKind, token) ← stored caller.pid id
      if kind ≠ storedKind then throw (.invalidArgument (mismatch storedKind))
      x token : Call Registry Unit).run r).Meets (Shown s act) log r := by
  refine Call.meets_look_bind (looks_ensureRunning r) .refused fun _ => ?_
  refine Call.meets_look_bind (looks_ensureTrusted caller r) .refused fun _ => ?_
  refine Call.meets_look_bind (looks_ensureId id r) .refused fun _ => ?_
  refine Call.meets_look_bind (looks_stored caller.pid id r) .refused fun found => ?_
  dsimp only
  split
  · exact Touches.refused _
  · exact inside found.2

end Door

section Calls

variable {caller : Caller} {kind : Kind} {declared : String} {r : Registry} {rect : Rect}

/-- Once a component is admitted, the call that asked for it knows it to be vetted. -/
theorem Admits.vetted {c' : Component} {r' : Registry} (h : Admits s caller c declared r log (.ok c') r') :
    r' = r ∧ ∃ rect, c' = c.shownAt rect ∧ Vetted s caller c declared rect log := by
  obtain ⟨same, screen, scale, rect, verdict, shown, rfl⟩ := h.of_ok
  exact ⟨same, rect, shown, screen, scale, verdict, List.prefix_refl _⟩

theorem Vetted.more {log' : List Exchange} (h : Vetted s caller c declared rect log)
    (told : log <+: log') : Vetted s caller c declared rect log' := by
  obtain ⟨screen, scale, verdict, asked⟩ := h
  exact ⟨screen, scale, verdict, asked.trans told⟩

/-- A new declaration is admitted, or the stored component is rejected. -/
theorem meets_readmission (redeclares : Redeclares act caller id c declared)
    {f : Component → Call Registry Unit}
    (rest : ∀ (log : List Exchange) (r : Registry) (rect : Rect), Vetted s caller c declared rect log →
      ((f (c.shownAt rect)).run r).Meets (Shown s act) log r) :
    ((readmission s caller id c declared >>= f).run r).Meets (Shown s act) [] r := by
  apply Call.meets_bind
  refine asksFirst_readmission.meets (fun _ _ _ => Touches.halts) fun exchanges u result u' does => ?_
  rw [List.nil_append]
  obtain ⟨e, w, refused, rfl, rfl⟩ | ⟨c', admitted, rfl⟩ := readmission_ends does
  · have left : (markInvalid caller.pid id w).table =
        u.table.modify caller.pid id fun c => { c with isValid := false } := by
      rw [← refused.table_eq]
      rfl
    exact .rejects (.rejected redeclares rfl refused left)
  · obtain ⟨rfl, rect, rfl, vetted⟩ := admitted.vetted
    exact rest exchanges u' rect vetted

/-- Parts that let the table wane, or leave it alone, may halt or be refused anywhere. -/
theorem meets_waning_bind {α : Type} {step : Nat → Registry → Registry → Prop} (counted : Counted step)
    (wanes : ∀ r r', step 0 r r' → r.table.Wanes r'.table) {x : Call Registry α}
    {f : α → Call Registry Unit} {u v : Registry} (h : Call.Moves (step 0) x) (sofar : step 0 u v)
    (rest : ∀ a log' u' v', log <+: log' → step 0 u' v' → ((f a).run v').Meets (Shown s act) log' u') :
    ((x >>= f).run v).Meets (Shown s act) log u := by
  apply Call.meets_bind
  have later (log' : List Exchange) (u' v' : Registry) (o : Option (Except Refusal α))
      (told : log <+: log') (moved : step 0 u' v') : Call.Before (Shown s act) f log' u' v' o :=
    match o with
    | none => .wanes (wanes u' v' moved) not_succeeds_none
    | some (.error e) => .wanes (wanes u' v' moved) (not_succeeds_error e)
    | some (.ok a) => rest a log' u' v' told moved
  exact (h v).meets (fun t o moved => later log u t o (List.prefix_refl _) (counted.trans sofar moved)) later

theorem meets_same_bind {α : Type} {x : Call Registry α} {f : α → Call Registry Unit} {u v : Registry}
    (h : Call.Moves (SameTable 0) x) (sofar : v.table = u.table)
    (rest : ∀ a log' u' v', log <+: log' → v'.table = u'.table →
      ((f a).run v').Meets (Shown s act) log' u') :
    ((x >>= f).run v).Meets (Shown s act) log u :=
  meets_waning_bind counted_sameTable (fun _ _ same => .of_eq same) h sofar rest

/-- A grant that comes too late is withdrawn, and the call is refused. -/
theorem meets_withdrawn {token : Token} {issued : Issued} {e : Refusal} {u v : Registry}
    (sofar : v.table = u.table) : ((do
      withdraw token kind issued
      throw e : Call Registry Unit).run v).Meets (Shown s act) log u := by
  have withdraws : Call.Moves (Wanes 0) (liftM (withdraw token kind issued) : Call Registry Unit) :=
    Call.moves_liftM counted_wanes (wanes_withdraw token kind issued)
  refine meets_waning_bind counted_wanes (fun _ _ wanes => wanes) withdraws (.of_eq sofar) ?_
  exact fun _ _ _ _ _ wanes => .wanes wanes (not_succeeds_error e)

theorem meets_update :
    ((update s caller id c declared).run r).Meets (Shown s (.update caller id c declared)) [] r := by
  refine meets_door (.kindChanged id) (x := fun _ => do
    let c ← readmission s caller id c declared
    Call.attempt (storeAgain caller.pid id c)) fun _ => ?_
  refine meets_readmission (.update caller id c declared) fun log u rect vetted => ?_
  unfold Call.attempt storeAgain ExceptT.run ExceptT.mk
  dsimp only
  cases found : u.table.lookup? caller.pid id with
  | none => exact Touches.refused _
  | some old => exact .stores (.updated rfl vetted rfl found rfl)

theorem meets_reportClick {event : ClickEvent} {handle : Option UInt64} :
    (reportClick s caller id c declared event handle r).Meets
      (Shown s (.reportClick caller id c declared event handle)) [] r := by
  -- counting the report leaves the table alone
  suffices inside : ((reportClickUncounted s caller id c declared event handle).run r).Meets
      (Shown s (.reportClick caller id c declared event handle)) [] r from
    Op.meets_bind inside (fun _ _ _ shown => shown) fun _ _ _ _ shown => shown
  refine meets_door (fun stored => .kindClicked id stored c.kind)
    (x := reportInside s caller id c declared event handle) fun token => ?_
  refine meets_readmission (.reportClick caller id c declared event handle) fun log u rect vetted => ?_
  refine meets_same_bind (same_verifyEvent caller _ event) rfl fun _ log₁ u₁ v₁ told₁ same₁ => ?_
  refine meets_same_bind (same_callConsents _) same₁ fun _ log₂ u₂ v₂ told₂ same₂ => ?_
  refine meets_same_bind (same_issue token c.kind) same₂ fun issued log₃ u₃ v₃ told₃ same₃ => ?_
  have vetted := ((vetted.more told₁).more told₂).more told₃
  show ((if (storeGranted caller.pid id (c.shownAt rect) v₃).1 = true then
      modify (measure fun m => { m with grants := m.grants.add [c.kind.name] })
    else do
      withdraw token c.kind issued
      throw (.notFound id caller.pid) : Call Registry Unit).run
    (storeGranted caller.pid id (c.shownAt rect) v₃).2).Meets _ log₃ u₃
  -- the component may have gone by now
  cases found : v₃.table.lookup? caller.pid id with
  | none =>
    have gone : storeGranted caller.pid id (c.shownAt rect) v₃ = (false, v₃) :=
      storeGranted_of_none found
    rw [gone]
    exact meets_withdrawn same₃
  | some old =>
    let table := v₃.table.modify caller.pid id fun _ => { c.shownAt rect with isGranted := true }
    have marked : storeGranted caller.pid id (c.shownAt rect) v₃ = (true, { v₃ with table }) :=
      storeGranted_of_some found
    rw [marked]
    rw [same₃] at found
    refine Touches.stores (.clicked rfl vetted rfl found ?_)
    rw [← same₃]
    rfl

/-- A new component that was admitted is stored, unless it clashes; the service then follows. -/
theorem meets_admitted (vetted : Vetted s caller (unmarked c) declared rect log) :
    ((do
      let (id, active) ← Call.attempt (storeNew s caller ((unmarked c).shownAt rect))
      syncPosture s
      modify (showActive active)
      return id : Call Registry ComponentId).run r).Meets
        (ShownPart s (.register caller kind c declared)) log r := by
  apply Call.meets_bind
  unfold Call.attempt ExceptT.run ExceptT.mk
  dsimp only
  cases stores : storeNew s caller ((unmarked c).shownAt rect) r with
  | error e => exact Touches.refused e
  | ok found =>
    obtain ⟨⟨id, active⟩, r'⟩ := found
    obtain ⟨u, fits, left⟩ := fits_of_storeNew stores
    have follows : Call.Moves (SameTable 0) (do
        syncPosture s
        modify (showActive active)
        return id : Call Registry ComponentId) := by
      refine Call.moves_then counted_sameTable
        (Call.moves_liftM counted_sameTable same_syncPosture) fun _ => ?_
      exact Call.moves_then counted_sameTable (Call.moves_modify fun _ => rfl) fun _ =>
        Call.moves_pure counted_sameTable id
    -- the component is there from the first stretch on
    refine (follows r').meets (fun t o same => .stores (.registered rfl vetted fits.free ?_))
      fun _ _ _ _ _ same => .of_eq same (not_succeeds_register _ _ _ _ _)
    rw [same, left]

theorem meets_register :
    (register s caller kind c declared r).Meets (ShownPart s (.register caller kind c declared)) [] r := by
  -- counting the attempt leaves the table alone
  suffices inside : ((registerUncounted s caller kind c declared).run r).Meets
      (ShownPart s (.register caller kind c declared)) [] r from
    Op.meets_bind inside (fun _ _ _ shown => shown) fun _ _ _ _ shown => shown
  refine Call.meets_look_bind (looks_ensureRunning r) Touches.refused fun _ => ?_
  refine Call.meets_look_bind (looks_ensureTrusted caller r) Touches.refused fun _ => ?_
  dsimp only
  split
  · exact Touches.refused _
  apply Call.meets_bind
  refine asksFirst_admission.meets (fun _ _ _ => Touches.halts) fun exchanges u result u' does => ?_
  rw [List.nil_append]
  have ends := admits_of_does does
  cases result with
  | error e => exact Touches.of_eq ends.table_eq (not_succeeds_error e)
  | ok c' =>
    obtain ⟨rfl, rect, rfl, vetted⟩ := ends.vetted
    exact meets_admitted vetted

end Calls

/-- Every stage of every act, whatever others do meanwhile. -/
theorem perform_meets (s : Settings) (act : Act) (r : Registry) :
    (perform s act r).Meets (Shown s act) [] r := by
  cases silent : act.declarer? with
  | none => exact meets_of_wanes (moves_wanes silent) (fun _ => not_succeeds_of_silent silent) r
  | some caller =>
    cases act with
    | register caller kind c declared =>
      exact Op.meets_bind meets_register (fun _ _ _ shown => shown) fun _ _ _ _ shown => shown
    | update caller id c declared => exact meets_update
    | reportClick caller id c declared event handle => exact meets_reportClick
    | _ => cases silent

end ClickGrant.Registry
