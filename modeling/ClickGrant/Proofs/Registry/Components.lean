import ClickGrant.Proofs.Registry.Admission
import ClickGrant.Registry.Components

/-!
# How calls on components end

`Registers`, `Updates` and `Unregisters` list the ways in which these calls can end, nobody
disturbing them: refused at the door, refused by admission, refused in the moment of storing, or
carried out. Each way says which checks have passed, which exchanges took place, and what the state
is afterwards. Before the door is passed nothing is asked and nothing changes.
-/
set_option autoImplicit false

namespace ClickGrant.Registry

variable {s : Settings} {caller : Caller} {c : Component} {declared : String} {r r' : Registry}
  {log : List Exchange} {pid : Pid} {id : ComponentId} {kind : Kind}

/-! ## At the door -/

/-- The service takes calls and trusts the caller. -/
structure Welcomes (r : Registry) (caller : Caller) : Prop where
  running : r.shuttingDown = false
  trusted : r.quarantine.contains caller.pid = false

/-- Why a caller is not let in. -/
inductive Bars (r : Registry) (caller : Caller) : Refusal → Prop where
  | exiting (down : r.shuttingDown = true) : Bars r caller .exiting
  | quarantined (running : r.shuttingDown = false)
      (flagged : r.quarantine.contains caller.pid = true) : Bars r caller (.quarantined caller.pid)

theorem ensureRunning_ends {result : Except Refusal Unit} (h : Call.Does ensureRunning r log result r') :
    log = [] ∧ r' = r ∧ ((r.shuttingDown = true ∧ result = .error .exiting) ∨
      (r.shuttingDown = false ∧ result = .ok ())) := by
  unfold ensureRunning at h
  rw [Call.does_get_bind] at h
  split at h
  next down =>
    obtain ⟨rfl, rfl, rfl⟩ := Call.does_throw.mp h
    exact ⟨rfl, rfl, .inl ⟨down, rfl⟩⟩
  next running =>
    obtain ⟨rfl, rfl, rfl⟩ := Call.does_pure.mp h
    exact ⟨rfl, rfl, .inr ⟨Bool.eq_false_iff.mpr running, rfl⟩⟩

theorem ensureTrusted_ends {result : Except Refusal Unit}
    (h : Call.Does (ensureTrusted caller) r log result r') :
    log = [] ∧ r' = r ∧
      ((r.quarantine.contains caller.pid = true ∧ result = .error (.quarantined caller.pid)) ∨
       (r.quarantine.contains caller.pid = false ∧ result = .ok ())) := by
  unfold ensureTrusted at h
  rw [Call.does_get_bind] at h
  split at h
  next flagged =>
    obtain ⟨rfl, rfl, rfl⟩ := Call.does_throw.mp h
    exact ⟨rfl, rfl, .inl ⟨flagged, rfl⟩⟩
  next trusted =>
    obtain ⟨rfl, rfl, rfl⟩ := Call.does_pure.mp h
    exact ⟨rfl, rfl, .inr ⟨Bool.eq_false_iff.mpr trusted, rfl⟩⟩

theorem ensureId_ends {result : Except Refusal Unit} (h : Call.Does (ensureId id) r log result r') :
    log = [] ∧ r' = r ∧ ((id < 0 ∧ result = .error (.invalidArgument (.negativeId id))) ∨
      (¬id < 0 ∧ result = .ok ())) := by
  unfold ensureId at h
  split at h
  next negative =>
    obtain ⟨rfl, rfl, rfl⟩ := Call.does_throw.mp h
    exact ⟨rfl, rfl, .inl ⟨negative, rfl⟩⟩
  next natural =>
    obtain ⟨rfl, rfl, rfl⟩ := Call.does_pure.mp h
    exact ⟨rfl, rfl, .inr ⟨natural, rfl⟩⟩

/-- A call that lets only welcome callers in. -/
theorem welcomed_ends {α : Type} {x : Call Registry α} {result : Except Refusal α}
    (h : Call.Does (do ensureRunning; ensureTrusted caller; x) r log result r') :
    (∃ e, Bars r caller e ∧ log = [] ∧ result = .error e ∧ r' = r) ∨
    (Welcomes r caller ∧ x.Does r log result r') := by
  rw [Call.does_bind] at h
  obtain ⟨e, stopped, rfl⟩ | ⟨_, _, _, _, passed, h, rfl⟩ := h
  · obtain ⟨rfl, rfl, ⟨down, he⟩ | ⟨_, ⟨⟩⟩⟩ := ensureRunning_ends stopped
    cases he
    exact .inl ⟨_, .exiting down, rfl, rfl, rfl⟩
  obtain ⟨rfl, rfl, ⟨_, ⟨⟩⟩ | ⟨running, _⟩⟩ := ensureRunning_ends passed
  rw [Call.does_bind] at h
  obtain ⟨e, stopped, rfl⟩ | ⟨_, _, _, _, passed, h, rfl⟩ := h
  · obtain ⟨rfl, rfl, ⟨flagged, he⟩ | ⟨_, ⟨⟩⟩⟩ := ensureTrusted_ends stopped
    cases he
    exact .inl ⟨_, .quarantined running flagged, rfl, rfl, rfl⟩
  · obtain ⟨rfl, rfl, ⟨_, ⟨⟩⟩ | ⟨trusted, _⟩⟩ := ensureTrusted_ends passed
    exact .inr ⟨⟨running, trusted⟩, h⟩

/-- A component of this kind is stored under this identifier, for a process of this identity. -/
def StoredAs (r : Registry) (pid : Pid) (id : ComponentId) (kind : Kind) (token : Token) : Prop :=
  ∃ p e, r.table.processes.get? pid = some p ∧ p.get? id = some e ∧ e.component.kind = kind ∧
    p.token = token

theorem stored_ends {result : Except Refusal (Kind × Token)}
    (h : Call.Does (stored pid id) r log result r') :
    log = [] ∧ r' = r ∧
      ((r.table.lookup? pid id = none ∧ result = .error (.notFound id pid)) ∨
       ∃ kind token, StoredAs r pid id kind token ∧ result = .ok (kind, token)) := by
  unfold stored at h
  rw [Call.does_get_bind] at h
  unfold ComponentTable.lookup?
  cases process : r.table.processes.get? pid with
  | none =>
    rw [process] at h
    obtain ⟨rfl, rfl, rfl⟩ := Call.does_throw.mp h
    exact ⟨rfl, rfl, .inl ⟨rfl, rfl⟩⟩
  | some p =>
    rw [process] at h
    cases entry : p.get? id with
    | none =>
      simp only [entry] at h
      obtain ⟨rfl, rfl, rfl⟩ := Call.does_throw.mp h
      exact ⟨rfl, rfl, .inl ⟨entry, rfl⟩⟩
    | some e =>
      simp only [entry] at h
      obtain ⟨rfl, rfl, rfl⟩ := Call.does_pure.mp h
      exact ⟨rfl, rfl, .inr ⟨_, _, ⟨p, e, process, entry, rfl, rfl⟩, rfl⟩⟩

theorem StoredAs.lookup_isSome {token : Token} (h : StoredAs r pid id kind token) :
    ∃ e, r.table.lookup? pid id = some e := by
  obtain ⟨p, e, process, entry, _, _⟩ := h
  exact ⟨e, by rw [ComponentTable.lookup?, process]; exact entry⟩

/-- Why a call on a stored component is turned away; `mismatch` words a wrong kind. -/
inductive TurnsAway (r : Registry) (caller : Caller) (id : ComponentId) (kind : Kind)
    (mismatch : Kind → BadArgument) : Refusal → Prop where
  | barred {e : Refusal} (why : Bars r caller e) : TurnsAway r caller id kind mismatch e
  | negative (welcome : Welcomes r caller) (negative : id < 0) :
      TurnsAway r caller id kind mismatch (.invalidArgument (.negativeId id))
  | unknown (welcome : Welcomes r caller) (natural : ¬id < 0)
      (absent : r.table.lookup? caller.pid id = none) :
      TurnsAway r caller id kind mismatch (.notFound id caller.pid)
  | otherKind {stored : Kind} {token : Token} (welcome : Welcomes r caller) (natural : ¬id < 0)
      (present : StoredAs r caller.pid id stored token) (differs : kind ≠ stored) :
      TurnsAway r caller id kind mismatch (.invalidArgument (mismatch stored))

/-- A call on a stored component is let in. -/
structure LetsIn (r : Registry) (caller : Caller) (id : ComponentId) (kind : Kind) (token : Token) :
    Prop where
  welcome : Welcomes r caller
  natural : ¬id < 0
  present : StoredAs r caller.pid id kind token

/-- The door of a call on a stored component. -/
theorem door_ends {α : Type} (mismatch : Kind → BadArgument) (x : Token → Call Registry α)
    {result : Except Refusal α}
    (call : Call.Does (do
      ensureRunning
      ensureTrusted caller
      ensureId id
      let (storedKind, token) ← stored caller.pid id
      if kind ≠ storedKind then throw (.invalidArgument (mismatch storedKind))
      x token) r log result r') :
    (∃ e, TurnsAway r caller id kind mismatch e ∧ log = [] ∧ result = .error e ∧ r' = r) ∨
    ∃ token, LetsIn r caller id kind token ∧ (x token).Does r log result r' := by
  -- each check stops the call or lets it go on, and changes nothing
  obtain ⟨e, why, rfl, rfl, rfl⟩ | ⟨welcome, h⟩ := welcomed_ends call
  · exact .inl ⟨e, .barred why, rfl, rfl, rfl⟩
  rw [Call.does_bind] at h
  obtain ⟨e, stopped, rfl⟩ | ⟨_, _, _, _, passed, h, rfl⟩ := h
  · obtain ⟨rfl, rfl, ⟨negative, he⟩ | ⟨_, ⟨⟩⟩⟩ := ensureId_ends stopped
    cases he
    exact .inl ⟨_, .negative welcome negative, rfl, rfl, rfl⟩
  obtain ⟨rfl, rfl, ⟨_, ⟨⟩⟩ | ⟨natural, _⟩⟩ := ensureId_ends passed
  rw [Call.does_bind] at h
  clear passed
  obtain ⟨e, stopped, rfl⟩ | ⟨_, _, _, _, found, h, rfl⟩ := h
  · obtain ⟨rfl, rfl, ⟨absent, he⟩ | ⟨_, _, _, ⟨⟩⟩⟩ := stored_ends stopped
    cases he
    exact .inl ⟨_, .unknown welcome natural absent, rfl, rfl, rfl⟩
  obtain ⟨rfl, rfl, ⟨_, ⟨⟩⟩ | ⟨storedKind, token, present, ⟨⟩⟩⟩ := stored_ends found
  dsimp only at h
  split at h
  next differs =>
    obtain ⟨rfl, rfl, rfl⟩ := Call.does_throw_bind.mp h
    exact .inl ⟨_, .otherKind welcome natural present differs, rfl, rfl, rfl⟩
  next same =>
    obtain rfl : kind = storedKind := Decidable.not_not.mp same
    exact .inr ⟨token, ⟨welcome, natural, present⟩, h⟩

/-! ## Posture -/

/-- What bringing posture and idle exit in line asks. -/
def postureCalls (s : Settings) (r : Registry) : List Exchange :=
  if s.enhanced then
    match r.table.isEmpty, r.inputEnabled with
    | false, false => [⟨.enableInput, ()⟩]
    | true, true => [⟨.disableInput, ()⟩]
    | _, _ => []
  else []

/-- The state with posture and idle exit in line. -/
def synced (s : Settings) (r : Registry) : Registry :=
  if !r.table.isEmpty then { disarmIdleExit r with inputEnabled := true }
  else if r.inputEnabled then armIdleExit s { r with inputEnabled := false }
  else r

theorem syncPosture_ends {u : Unit} (h : (syncPosture s).Does r log u r') :
    log = postureCalls s r ∧ r' = synced s r := by
  unfold syncPosture at h
  rw [Op.does_get_bind] at h
  unfold postureCalls synced
  -- the input path is switched only if its state and the table's disagree
  cases occupied : r.table.isEmpty with
  | false =>
    simp only [occupied, Bool.not_false, if_true, Op.does_modify_bind] at h ⊢
    cases enabled : r.inputEnabled with
    | true =>
      simp only [enabled, Bool.not_true] at h ⊢
      obtain ⟨rfl, _, rfl⟩ := Op.does_pure.mp h
      exact ⟨by split <;> rfl, by rw [← enabled]; rfl⟩
    | false =>
      simp only [enabled, Bool.not_false, if_true] at h ⊢
      split at h
      next enhanced =>
        obtain ⟨_, _, asked, rfl⟩ := Op.does_ask_bind.mp h
        obtain ⟨rfl, rfl⟩ := Op.does_modify.mp asked
        exact ⟨(if_pos enhanced).symm, rfl⟩
      next plain =>
        obtain ⟨rfl, rfl⟩ := Op.does_modify.mp h
        exact ⟨(if_neg plain).symm, rfl⟩
  | true =>
    simp only [occupied, Bool.not_true, Bool.false_eq_true, if_false] at h ⊢
    cases enabled : r.inputEnabled with
    | false =>
      simp only [enabled] at h ⊢
      obtain ⟨rfl, _, rfl⟩ := Op.does_pure.mp h
      exact ⟨by split <;> rfl, rfl⟩
    | true =>
      simp only [enabled, if_true] at h ⊢
      split at h
      next enhanced =>
        obtain ⟨_, _, asked, rfl⟩ := Op.does_ask_bind.mp h
        obtain ⟨rfl, rfl⟩ := Op.does_modify.mp asked
        exact ⟨(if_pos enhanced).symm, rfl⟩
      next plain =>
        obtain ⟨rfl, rfl⟩ := Op.does_modify.mp h
        exact ⟨(if_neg plain).symm, rfl⟩

/-! ## Registration -/

/-- There is room for a new component, nothing lies under it, and this identifier is free for it. -/
structure Fits (s : Settings) (caller : Caller) (c : Component) (r : Registry) (id : ComponentId)
    (table : ComponentTable) : Prop where
  running : r.shuttingDown = false
  room : ∀ p, r.table.processes.get? caller.pid = some p → p.components.length < s.maxComponents.toNat
  apart : ∀ p, r.table.processes.get? caller.pid = some p → p.overlapping? c.screenRect none = none
  free : r.table.allocate = some (id, table)

theorem fits_of_storeNew {n : Nat} (h : storeNew s caller c r = .ok ((id, n), r')) :
    ∃ table, Fits s caller c r id table ∧
      r' = { r with table := table.insert caller.pid caller.token { id, component := c } } := by
  unfold storeNew at h
  dsimp only at h
  split at h
  · cases h
  next running =>
    -- room and overlap are asked of a process that is registered already, and of no other
    cases process : r.table.processes.get? caller.pid with
    | none =>
      cases found : r.table.allocate with
      | none => rw [process, found] at h; cases h
      | some fresh =>
        rw [process, found] at h
        cases h
        refine ⟨fresh.2, ⟨Bool.eq_false_iff.mpr running, ?_, ?_, found⟩, rfl⟩
        · intro p hp; rw [process] at hp; cases hp
        · intro p hp; rw [process] at hp; cases hp
    | some p =>
      simp only [process] at h
      split at h
      · cases h
      next room =>
        cases apart : p.overlapping? c.screenRect none with
        | some _ => rw [apart] at h; cases h
        | none =>
          cases found : r.table.allocate with
          | none => rw [apart, found] at h; cases h
          | some fresh =>
            rw [apart, found] at h
            cases h
            refine ⟨fresh.2, ⟨Bool.eq_false_iff.mpr running, ?_, ?_, found⟩, rfl⟩
            · intro p' hp; rw [process] at hp; cases hp; exact Nat.lt_of_not_le room
            · intro p' hp; rw [process] at hp; cases hp; exact apart

/-- What is declared is admitted without the mark of a grant. -/
def unmarked (c : Component) : Component := { c with isGranted := false }

/-- The ways in which a registration can end. -/
inductive Registers (s : Settings) (caller : Caller) (kind : Kind) (c : Component)
    (declared : String) (r : Registry) :
    List Exchange → Except Refusal ComponentId → Registry → Prop where
  | barred {e : Refusal} (why : Bars r caller e) : Registers s caller kind c declared r [] (.error e) r
  | otherKind (welcome : Welcomes r caller) (differs : c.kind ≠ kind) :
      Registers s caller kind c declared r [] (.error (.invalidArgument (.kindDeclared c.kind kind))) r
  | unadmitted {log : List Exchange} {e : Refusal} {r' : Registry} (welcome : Welcomes r caller)
      (same : c.kind = kind) (refused : Admits s caller (unmarked c) declared r log (.error e) r') :
      Registers s caller kind c declared r log (.error e) r'
  | clash {log : List Exchange} {e : Refusal} {c' : Component} (welcome : Welcomes r caller)
      (same : c.kind = kind) (admitted : Admits s caller (unmarked c) declared r log (.ok c') r)
      (why : storeNew s caller c' r = .error e) : Registers s caller kind c declared r log (.error e) r
  | stored {log : List Exchange} {c' : Component} {id : ComponentId} {table : ComponentTable}
      {n : Nat} {u : Registry} (welcome : Welcomes r caller) (same : c.kind = kind)
      (admitted : Admits s caller (unmarked c) declared r log (.ok c') r)
      (fits : Fits s caller c' r id table)
      (stored : u = { r with table := table.insert caller.pid caller.token { id, component := c' } }) :
      Registers s caller kind c declared r (log ++ postureCalls s u) (.ok id)
        (showActive n (synced s u))

theorem registerUncounted_ends {result : Except Refusal ComponentId}
    (call : Call.Does (registerUncounted s caller kind c declared) r log result r') :
    Registers s caller kind c declared r log result r' := by
  obtain ⟨e, why, rfl, rfl, rfl⟩ | ⟨welcome, h⟩ := welcomed_ends call
  · exact .barred why
  clear call
  dsimp only at h
  split at h
  next differs =>
    obtain ⟨rfl, rfl, rfl⟩ := Call.does_throw_bind.mp h
    exact .otherKind welcome differs
  next same =>
    have same : c.kind = kind := Decidable.not_not.mp same
    rw [Call.does_bind] at h
    obtain ⟨e, refused, rfl⟩ | ⟨_, c', _, _, passed, h, rfl⟩ := h
    · exact .unadmitted welcome same (admits_of_does refused)
    have admitted := admits_of_does passed
    obtain ⟨rfl, -⟩ := admitted.of_ok
    rw [Call.does_bind] at h
    obtain ⟨e, clash, rfl⟩ | ⟨_, ⟨id, n⟩, _, _, done, h, rfl⟩ := h
    · obtain ⟨rfl, ⟨e', why, he, rfl⟩ | ⟨_, _, ⟨⟩⟩⟩ := Call.does_attempt.mp clash
      cases he
      rw [List.append_nil]
      exact .clash welcome same admitted why
    · obtain ⟨rfl, ⟨_, _, ⟨⟩, _⟩ | ⟨_, ok, ⟨⟩⟩⟩ := Call.does_attempt.mp done
      obtain ⟨table, fits, stored⟩ := fits_of_storeNew ok
      obtain ⟨_, _, _, _, sync, h, rfl⟩ := Call.does_liftM_bind.mp h
      obtain ⟨rfl, rfl⟩ := syncPosture_ends sync
      rw [Call.does_modify_bind, Call.does_pure] at h
      obtain ⟨rfl, rfl, rfl⟩ := h
      rw [List.nil_append, List.append_nil]
      exact .stored welcome same admitted fits stored

theorem register_ends {result : Except Refusal ComponentId}
    (h : (register s caller kind c declared).Does r log result r') :
    ∃ f u, Registers s caller kind c declared r log result u ∧ r' = measure f u := by
  unfold register at h
  rw [Op.does_bind] at h
  obtain ⟨_, result, u, _, tried, h, rfl⟩ := h
  rw [Op.does_modify_bind, Op.does_pure] at h
  obtain ⟨rfl, rfl, rfl⟩ := h
  rw [List.append_nil]
  exact ⟨_, u, registerUncounted_ends tried, rfl⟩

/-! ## Later declarations -/

/-- The ways in which a new declaration of a stored component can end. -/
inductive Updates (s : Settings) (caller : Caller) (id : ComponentId) (c : Component)
    (declared : String) (r : Registry) : List Exchange → Except Refusal Unit → Registry → Prop where
  | turnedAway {e : Refusal} (why : TurnsAway r caller id c.kind (.kindChanged id) e) :
      Updates s caller id c declared r [] (.error e) r
  | unadmitted {log : List Exchange} {e : Refusal} {token : Token} {r' : Registry}
      (door : LetsIn r caller id c.kind token)
      (refused : Admits s caller c declared r log (.error e) r') :
      Updates s caller id c declared r log (.error e) (markInvalid caller.pid id r')
  | replaced {log : List Exchange} {token : Token} {c' : Component}
      (door : LetsIn r caller id c.kind token) (admitted : Admits s caller c declared r log (.ok c') r) :
      Updates s caller id c declared r log (.ok ())
        { r with table := r.table.modify caller.pid id fun old => { c' with isGranted := old.isGranted } }

theorem update_ends {result : Except Refusal Unit}
    (call : Call.Does (update s caller id c declared) r log result r') :
    Updates s caller id c declared r log result r' := by
  obtain ⟨e, why, rfl, rfl, rfl⟩ | ⟨token, door, h⟩ :=
    door_ends (.kindChanged id) (fun _ => do
      let c ← readmission s caller id c declared
      Call.attempt (storeAgain caller.pid id c)) call
  · exact .turnedAway why
  clear call
  rw [Call.does_bind] at h
  obtain ⟨e, stopped, rfl⟩ | ⟨_, c', _, _, passed, h, rfl⟩ := h
  · obtain ⟨e', u, refused, he, rfl⟩ | ⟨_, _, ⟨⟩⟩ := readmission_ends stopped
    cases he
    exact .unadmitted door refused
  obtain ⟨_, _, _, ⟨⟩, _⟩ | ⟨c', admitted, ⟨⟩⟩ := readmission_ends passed
  obtain ⟨rfl, -⟩ := admitted.of_ok
  obtain ⟨entry, found⟩ := door.present.lookup_isSome
  have replaces := Call.does_attempt.mp h
  rw [storeAgain, found] at replaces
  obtain ⟨rfl, ⟨_, ⟨⟩, _⟩ | ⟨_, ⟨⟩, rfl⟩⟩ := replaces
  rw [List.append_nil]
  exact .replaced door admitted

theorem takeOut_error {e : Refusal} (h : takeOut pid id r = .error e) :
    r.table.lookup? pid id = none ∧ e = .notFound id pid := by
  unfold takeOut at h
  split at h
  next absent => cases h; exact ⟨absent, rfl⟩
  · cases h

theorem takeOut_ok {n : Nat} (h : takeOut pid id r = .ok (n, r')) :
    (r.table.lookup? pid id).isSome ∧ r' = { r with table := (r.table.take pid id).dropIfEmpty pid } := by
  unfold takeOut at h
  split at h
  · cases h
  next entry present => cases h; exact ⟨by rw [present]; rfl, rfl⟩

/-- The ways in which taking a component back can end. -/
inductive Unregisters (s : Settings) (caller : Caller) (id : ComponentId) (r : Registry) :
    List Exchange → Except Refusal Unit → Registry → Prop where
  | exiting (down : r.shuttingDown = true) : Unregisters s caller id r [] (.error .exiting) r
  | negative (running : r.shuttingDown = false) (negative : id < 0) :
      Unregisters s caller id r [] (.error (.invalidArgument (.negativeId id))) r
  | unknown (running : r.shuttingDown = false) (natural : ¬id < 0)
      (absent : r.table.lookup? caller.pid id = none) :
      Unregisters s caller id r [] (.error (.notFound id caller.pid)) r
  | taken {n : Nat} {u : Registry} (running : r.shuttingDown = false) (natural : ¬id < 0)
      (present : (r.table.lookup? caller.pid id).isSome)
      (left : u = { r with table := (r.table.take caller.pid id).dropIfEmpty caller.pid }) :
      Unregisters s caller id r (postureCalls s (showActive n u)) (.ok ()) (synced s (showActive n u))

theorem unregister_ends {result : Except Refusal Unit}
    (h : Call.Does (unregister s caller id) r log result r') :
    Unregisters s caller id r log result r' := by
  unfold unregister at h
  rw [Call.does_bind] at h
  obtain ⟨e, stopped, rfl⟩ | ⟨_, _, _, _, up, h, rfl⟩ := h
  · obtain ⟨rfl, rfl, ⟨down, he⟩ | ⟨_, ⟨⟩⟩⟩ := ensureRunning_ends stopped
    cases he
    exact .exiting down
  obtain ⟨rfl, rfl, ⟨_, ⟨⟩⟩ | ⟨running, _⟩⟩ := ensureRunning_ends up
  clear up
  rw [Call.does_bind] at h
  obtain ⟨e, stopped, rfl⟩ | ⟨_, _, _, _, passed, h, rfl⟩ := h
  · obtain ⟨rfl, rfl, ⟨negative, he⟩ | ⟨_, ⟨⟩⟩⟩ := ensureId_ends stopped
    cases he
    exact .negative running negative
  obtain ⟨rfl, rfl, ⟨_, ⟨⟩⟩ | ⟨natural, _⟩⟩ := ensureId_ends passed
  clear passed
  rw [Call.does_bind] at h
  obtain ⟨e, refused, rfl⟩ | ⟨_, n, u, _, done, h, rfl⟩ := h
  · obtain ⟨rfl, ⟨_, missing, he, rfl⟩ | ⟨_, _, ⟨⟩⟩⟩ := Call.does_attempt.mp refused
    cases he
    obtain ⟨absent, rfl⟩ := takeOut_error missing
    exact .unknown running natural absent
  · obtain ⟨rfl, ⟨_, _, ⟨⟩, _⟩ | ⟨_, ok, ⟨⟩⟩⟩ := Call.does_attempt.mp done
    obtain ⟨present, left⟩ := takeOut_ok ok
    rw [Call.does_modify_bind, Call.does_liftM] at h
    obtain ⟨_, sync, rfl⟩ := h
    obtain ⟨rfl, rfl⟩ := syncPosture_ends sync
    exact .taken running natural present left

end ClickGrant.Registry
