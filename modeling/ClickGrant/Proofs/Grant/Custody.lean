import ClickGrant.Proofs.Debts
import ClickGrant.Proofs.Grant.Permissions
import ClickGrant.Proofs.Grant.Run

/-!
# Capabilities in the custody of the identity store

The ledger says which capabilities an identity holds, the identity store holds the permissions they
are made of, and the store is asked without any lock. `Custody` is the two of them together. An
operation that is `served` meets a store that refuses nothing, and others may go on twice on the
occasion of every request: before the store has done what it is asked, and after that, before the
answer is back. So each request becomes two. What is proved of all traffic of such operations:
  1. `perform_pays` — a permission may be in the store for a while before the ledger notes its
     capability, or after the ledger has dropped it, but then the operation under way goes on to note
     the capability or to have the permission revoked. This is why a grant asks first and a
     revocation last.
  2. `nothing_untracked` — whenever no operation is under way, whatever the store holds belongs to a
     capability that the ledger knows of, and so taking everything back leaves nothing.
The other direction does not hold: a capability that the ledger knows of may lack a permission, as
the example at the end shows.
-/
set_option autoImplicit false

namespace ClickGrant

variable {σ α β : Type}

/-- The grants, and what the identity store holds. -/
structure Custody where
  grants : GrantState
  store : PermissionStore

/-- The answer of a store that refuses nothing. Other collaborators answer as they like. -/
def Request.obliged : (q : Request) → q.Answer → q.Answer
  | .grant _ _, _ => Except.ok ()
  | .revoke _ _, _ => Except.ok ()
  | .screen .., r | .windowScale _, r | .windowStack, r | .verify .., r | .consent .., r
  | .inspect .., r | .seal _, r | .unseal _, r | .admitProcess _, r | .enableInput, r
  | .disableInput, r | .processDied _, r | .clientHandle, r => r

/-- The dialogue with a store that holds this at first. -/
def Dialogue.served : Dialogue GrantState α → PermissionStore → Dialogue Custody α
  | done g a, store => done ⟨g, store⟩ a
  | ask g q next, store =>
    ask ⟨g, store⟩ q fun u r =>
      ask ⟨u.grants, u.store.heed ⟨q, q.obliged r⟩⟩ q fun v r =>
        (next v.grants (q.obliged r)).served v.store

/-- The operation with the store that it finds. -/
def Op.served (x : Op GrantState α) : Op Custody α := fun u => (x u.grants).served u.store

theorem Dialogue.served_bind (f : α → Op GrantState β) : ∀ (d : Dialogue GrantState α)
    (store : PermissionStore), (d.bind f).served store = (d.served store).bind fun a => (f a).served
  | done _ _, _ => rfl
  | ask g q next, store => by
    show ask _ q _ = ask _ q _
    congr 1
    funext u r
    congr 1
    funext v r
    exact served_bind f _ _

namespace Op

theorem served_bind (x : Op GrantState α) (f : α → Op GrantState β) :
    (x >>= f).served = x.served >>= fun a => (f a).served :=
  funext fun u => Dialogue.served_bind f (x u.grants) u.store

/-- Undisturbed, the store follows what it is asked for, and it refuses nothing. -/
theorem served_does {x : Op GrantState α} {u v : Custody} {log : List Exchange} {a : α}
    (h : x.served.Does u log a v) :
    ∃ log', x.Does u.grants log' a v.grants ∧ Obliging log' ∧ v.store = u.store.follow log' := by
  suffices all : ∀ (d : Dialogue GrantState α) (store : PermissionStore) (log : List Exchange),
      (d.served store).Ends (· = ·) log a v → ∃ log', d.Ends (· = ·) log' a v.grants ∧
        Obliging log' ∧ v.store = store.follow log' from all (x u.grants) u.store log h
  intro d
  induction d with
  | done g b =>
    intro store log ends
    obtain ⟨rfl, rfl, rfl⟩ := Dialogue.ends_done.mp ends
    exact ⟨[], .done g a, List.forall_mem_nil _, rfl⟩
  | ask g q next ih =>
    intro store log ends
    obtain ⟨_, r, _, rfl, effected, rfl⟩ := Dialogue.ends_ask.mp ends
    obtain ⟨_, r', _, rfl, rest, rfl⟩ := Dialogue.ends_ask.mp effected
    obtain ⟨log', done, obliging, followed⟩ := ih g (q.obliged r') _ _ rest
    have same : store.heed ⟨q, q.obliged r⟩ = store.heed ⟨q, q.obliged r'⟩ := by cases q <;> rfl
    have kind : Exchange.isObliging ⟨q, q.obliged r'⟩ = true := by cases q <;> rfl
    refine ⟨⟨q, q.obliged r'⟩ :: log', .ask rfl done, obliging_cons.mpr ⟨kind, obliging⟩, ?_⟩
    rw [followed, same]
    rfl

end Op

/-- If the store has given the identity the permission, it belongs to a capability that the ledger
knows of. -/
def Custody.Tracks (token : Token) (p : Permission) (u : Custody) : Prop :=
  u.store.has token p = true → ∃ held ∈ u.grants.ledger.kindsOf token, p ∈ held.permissions

namespace GrantState

variable {token token' : Token} {kind : Kind} {p : Permission} {u : Custody}

/-! ## Taking permissions back -/

/-- Nothing comes to be held by what is taken. -/
theorem tracks_revoked (tracks : u.Tracks token p) (token' : Token) (p' : Permission) :
    Custody.Tracks token p ⟨u.grants, u.store.revoke token' p'⟩ := by
  intro has
  rw [PermissionStore.has_revoke, Bool.and_eq_true] at has
  exact tracks has.2

theorem revokePermissions_pays (token' : Token) (ps : List Permission) :
    (revokePermissions token' ps).served.Pays (Custody.Tracks token p) := by
  refine Op.Moves.pays ?_
  induction ps with
  | nil => exact fun u tracks => tracks
  | cons p' rest ih => exact fun u => ⟨id, fun v _ => ⟨fun tracks => tracks_revoked tracks token' p',
      fun w _ => ih w⟩⟩

/-- Until the permission's turn comes, the store still holds what it should not. -/
theorem revokePermissions_owes {ps : List Permission} (among : p ∈ ps) (u : Custody) :
    ((revokePermissions token ps).served u).Owes (Custody.Tracks token p) := by
  induction ps generalizing u with
  | nil => cases among
  | cons p' rest ih =>
    intro v _
    rcases List.mem_cons.mp among with rfl | among
    · refine .inl fun has => ?_
      have gone : (v.store.revoke token p).has token p = false := by
        rw [PermissionStore.has_revoke]
        simp
      exact absurd (gone.symm.trans has) Bool.false_ne_true
    · exact .inr fun w _ => .inr (ih among w)

/-- The ledger may drop capabilities before, as long as their permissions are revoked. -/
theorem revokePermissions_bind_pays {β : Type} {ps : List Permission} {f : Unit → Op GrantState β}
    (rest : ∀ a, (f a).served.Pays (Custody.Tracks token p)) {v : Custody}
    (dropped : u.Tracks token p → v.Tracks token p ∨ (token' = token ∧ p ∈ ps)) :
    ((revokePermissions token' ps >>= f).served v).Pays (Custody.Tracks token p) u := by
  rw [Op.served_bind]
  refine Dialogue.Pays.of_head (fun tracks => ?_)
    (Op.pays_bind (revokePermissions_pays token' ps) rest v)
  refine Dialogue.good_or_owes_bind rest ?_
  rcases dropped tracks with tracks | ⟨rfl, among⟩
  · exact (revokePermissions_pays token' ps v).head tracks
  · exact .inr (revokePermissions_owes among v)

/-- No other kind is dropped with a kind. -/
theorem mem_kindsOf_dropCapability (token' : Token) (kind : Kind) {g : GrantState} {held : Kind}
    (among : held ∈ g.ledger.kindsOf token) :
    held ∈ (dropCapability token' kind g).2.ledger.kindsOf token ∨ (token' = token ∧ held = kind) := by
  by_cases same : token' = token
  · subst same
    by_cases this : held = kind
    · exact .inr ⟨rfl, this⟩
    have left : held ∈ (g.ledger.kindsOf token').erase kind := (List.mem_erase_of_ne this).mpr among
    obtain same | ⟨none, -⟩ | ⟨-, taken⟩ := dropCapability_cases token' kind g
    · rw [same]; exact .inl among
    · rw [none] at left; cases left
    · refine .inl ?_
      rw [taken]
      show held ∈ ((g.ledger.capabilities.set token' _).get? token').getD []
      rw [Assoc.get?_set, if_pos rfl]
      exact left
  · refine .inl ?_
    obtain same | ⟨-, last⟩ | ⟨-, taken⟩ := dropCapability_cases token' kind g
    · rw [same]; exact among
    · rw [last, kindsOf_dropCapabilities, if_neg same]; exact among
    · rw [taken]
      show held ∈ ((g.ledger.capabilities.set token' _).get? token).getD []
      rw [Assoc.get?_set, if_neg same]
      exact among

theorem revokeCapability_pays (token' : Token) (kind : Kind) :
    (revokeCapability token' kind).served.Pays (Custody.Tracks token p) := by
  intro u
  let v : Custody := ⟨(dropCapability token' kind u.grants).2, u.store⟩
  have dropped (tracks : u.Tracks token p) :
      v.Tracks token p ∨ (token' = token ∧ p ∈ kind.permissions) := by
    by_cases belongs : token' = token ∧ p ∈ kind.permissions
    · exact .inr belongs
    refine .inl fun has => ?_
    obtain ⟨held, among, there⟩ := tracks has
    rcases mem_kindsOf_dropCapability token' kind among with among | ⟨same, rfl⟩
    · exact ⟨held, among, there⟩
    · exact absurd ⟨same, there⟩ belongs
  show ((if (dropCapability token' kind u.grants).1 = true then
      (revokePermissions token' kind.permissions >>= fun _ => pure true : Op GrantState Bool)
    else pure false).served v).Pays _ u
  split
  next => exact revokePermissions_bind_pays (fun _ => Op.pays_pure true) dropped
  next none =>
    intro tracks
    -- nothing was dropped
    have same : (dropCapability token' kind u.grants).2 = u.grants := by
      unfold dropCapability at none ⊢
      split at none
      next => dsimp only at none; split at none <;> exact absurd rfl none
      next absent => rw [if_neg absent]
    show Custody.Tracks token p ⟨(dropCapability token' kind u.grants).2, u.store⟩
    rw [same]
    exact tracks

theorem revokeCapabilities_pays (token' : Token) :
    (revokeCapabilities token').served.Pays (Custody.Tracks token p) := by
  intro u
  let v : Custody := ⟨(dropCapabilities token' u.grants).2, u.store⟩
  refine revokePermissions_bind_pays (v := v) (fun _ => Op.pays_pure _) fun tracks => ?_
  by_cases belongs : token' = token ∧ p ∈ (u.grants.ledger.kindsOf token').flatMap Kind.permissions
  · exact .inr belongs
  refine .inl fun has => ?_
  obtain ⟨held, among, there⟩ := tracks has
  refine ⟨held, ?_, there⟩
  show held ∈ (dropCapabilities token' u.grants).2.ledger.kindsOf token
  rw [kindsOf_dropCapabilities]
  split
  next same =>
    subst same
    exact absurd ⟨rfl, List.mem_flatMap.mpr ⟨held, among, there⟩⟩ belongs
  next => exact among

/-! ## Giving permissions -/

/-- The rest of granting a capability when these permissions are still to be asked for. -/
def grantRest (token : Token) (kind : Kind) (ps : List Permission) : Call GrantState Bool := do
  grantPermissions token ps
  modifyGet (addCapability token kind)

theorem tracks_added (tracks : u.Tracks token p) (token' : Token) (kind : Kind) :
    Custody.Tracks token p ⟨(addCapability token' kind u.grants).2, u.store⟩ := by
  intro has
  obtain ⟨held, among, there⟩ := tracks has
  refine ⟨held, ?_, there⟩
  show held ∈ (addCapability token' kind u.grants).2.ledger.kindsOf token
  rw [kindsOf_addCapability]
  split
  next same => subst same; exact (Kind.mem_insert kind held _).mpr (.inr among)
  next => exact among

/-- Every request leads on to the next one and in the end to the ledger. -/
theorem grantRest_owes (belongs : p ∈ kind.permissions) (ps : List Permission) (u : Custody) :
    Custody.Tracks token p ((grantRest token kind ps).run.served u).state ∨
      ((grantRest token kind ps).run.served u).Owes (Custody.Tracks token p) := by
  induction ps generalizing u with
  | nil =>
    refine .inl fun _ => ⟨kind, ?_, belongs⟩
    show kind ∈ (addCapability token kind u.grants).2.ledger.kindsOf token
    rw [kindsOf_addCapability, if_pos rfl]
    exact (Kind.mem_insert kind kind _).mpr (.inl rfl)
  | cons p' rest ih => exact .inr fun _ _ => .inr fun w _ => ih w

theorem grantRest_pays (token' : Token) {ps : List Permission} (within : ∀ p ∈ ps, p ∈ kind.permissions) :
    (grantRest token' kind ps).run.served.Pays (Custody.Tracks token p) := by
  induction ps with
  | nil => exact fun u tracks => tracks_added tracks token' kind
  | cons p' rest ih =>
    obtain ⟨belongs, within⟩ := List.forall_mem_cons.mp within
    refine fun u => ⟨fun tracks => .inl tracks, fun v _ => ⟨fun tracks => ?_, fun w _ => ih within w⟩⟩
    by_cases this : token' = token ∧ p' = p
    · obtain ⟨rfl, rfl⟩ := this
      exact .inr fun w _ => grantRest_owes belongs rest w
    · refine .inl fun has => tracks ?_
      have has : (v.store.grant token' p').has token p = true := has
      rw [PermissionStore.has_grant, Bool.or_eq_true, decide_eq_true_eq] at has
      refine has.resolve_left fun same => this ?_
      obtain ⟨same, same'⟩ := Prod.mk.inj same
      exact ⟨same.symm, same'.symm⟩

theorem grantCapability_pays (token' : Token) (kind : Kind) :
    (grantCapability token' kind).run.served.Pays (Custody.Tracks token p) :=
  grantRest_pays token' fun _ h => h

/-! ## All operations -/

/-- What asks nothing and leaves the capabilities alone. -/
theorem pays_of_kindsOf {α : Type} {f : GrantState → α × GrantState}
    (same : ∀ g, (f g).2.ledger.kindsOf token = g.ledger.kindsOf token) :
    (modifyGet f : Op GrantState α).served.Pays (Custody.Tracks token p) := by
  intro u tracks has
  obtain ⟨held, among, there⟩ := tracks has
  refine ⟨held, ?_, there⟩
  show held ∈ (f u.grants).2.ledger.kindsOf token
  rw [same]
  exact among

theorem handle_pays (event : TimerEvent) : (handle event).served.Pays (Custody.Tracks token p) := by
  cases event with
  | saveExpired token' serial => exact pays_of_kindsOf fun g => kindsOf_revokeSave token' token serial g
  | backgroundExpired token' =>
    unfold handle
    rw [Op.served_bind]
    exact Op.pays_bind (revokeCapabilities_pays token') fun _ => Op.pays_pure ()
  | idleExpired => exact Op.pays_pure ()

theorem handleAll_pays (events : List TimerEvent) :
    (handleAll events).served.Pays (Custody.Tracks token p) := by
  induction events with
  | nil => exact Op.pays_pure ()
  | cons event rest ih =>
    unfold handleAll
    rw [Op.served_bind]
    exact Op.pays_bind (handle_pays event) fun _ => ih

/-- What an operation spoils it puts right before it ends. -/
theorem perform_pays (d : GrantDelays) (act : Act) :
    (perform d act).served.Pays (Custody.Tracks token p) := by
  -- the reply is made of the result of an operation that pays
  have reply {α : Type} {x : Op GrantState α} (pays : x.served.Pays (Custody.Tracks token p))
      (f : α → Reply) : (x >>= fun a => pure (f a)).served.Pays (Custody.Tracks token p) := by
    rw [Op.served_bind]
    exact Op.pays_bind pays fun a => Op.pays_pure (f a)
  cases act with
  | grantSave token' => exact reply (pays_of_kindsOf fun _ => rfl) _
  | revokeSave token' serial =>
    exact reply (pays_of_kindsOf fun g => kindsOf_revokeSave token' token serial g) _
  | revokeSaves token' => exact reply (pays_of_kindsOf fun g => kindsOf_revokeSaves token' token g) _
  | grantCapability token' kind => exact reply (grantCapability_pays token' kind) _
  | revokeCapability token' kind => exact reply (revokeCapability_pays token' kind) _
  | deferRevocation token' =>
    exact reply (pays_of_kindsOf fun g => by rw [ledger_deferRevocation]) _
  | cancelDeferred token' => exact reply (pays_of_kindsOf fun _ => rfl) _
  | revokeCapabilities token' => exact reply (revokeCapabilities_pays token') _
  | revokeEverything token' =>
    refine reply ?_ _
    unfold revokeEverything
    rw [Op.served_bind]
    refine Op.pays_bind (pays_of_kindsOf fun g => kindsOf_revokeSaves token' token g) fun _ => ?_
    rw [Op.served_bind]
    exact Op.pays_bind (revokeCapabilities_pays token') fun _ => Op.pays_pure ()
  | runDue =>
    unfold perform
    rw [Op.served_bind]
    refine Op.pays_bind (pays_of_kindsOf fun _ => rfl) fun due => ?_
    exact reply (handleAll_pays due) _
  | setClock now => exact reply (pays_of_kindsOf fun _ => rfl) _

/-- Traffic of operations that meet a store which refuses nothing. -/
def custodyFrom (d : GrantDelays) (u : Custody) (moves : List (Move Act)) :
    Traffic Custody Act Reply := (Traffic.start u).run (fun act => (perform d act).served) moves

/-- Taking everything back asks for every permission of the capabilities that are known. -/
theorem full_takes {d : GrantDelays} {g g' : GrantState} {act : Act} {log : List Exchange} {reply : Reply}
    (full : act ∈ [Act.revokeCapabilities token, Act.revokeEverything token])
    (does : (perform d act).Does g log reply g') :
    Takes token ((g.ledger.kindsOf token).flatMap Kind.permissions) log := by
  simp only [List.mem_cons, List.not_mem_nil, or_false] at full
  rcases full with rfl | rfl
  · obtain ⟨_, kinds, _, _, revoked, replied, rfl⟩ := Op.does_bind.mp does
    obtain ⟨rfl, -, takes⟩ := revokeCapabilities_ends revoked
    obtain ⟨rfl, -, -⟩ := Op.does_pure.mp replied
    rwa [List.append_nil]
  · obtain ⟨_, _, _, _, revoked, replied, rfl⟩ := Op.does_bind.mp does
    obtain ⟨-, takes⟩ := revokeEverything_ends revoked
    obtain ⟨rfl, -, -⟩ := Op.does_pure.mp replied
    rw [kindsOf_revokeSaves] at takes
    rwa [List.append_nil]

/-- An identity whose permissions are all tracked is bare once everything was taken back from it. -/
theorem bare_of_full {d : GrantDelays} {u v : Custody} {act : Act} {log : List Exchange} {reply : Reply}
    (backed : Backed u.store u.grants.ledger token)
    (full : act ∈ [Act.revokeCapabilities token, Act.revokeEverything token])
    (does : (perform d act).served.Does u log reply v) : v.store.Bare token := by
  obtain ⟨log', done, obliging, followed⟩ := Op.served_does does
  rw [followed]
  have left : Backed (u.store.follow log') (dropCapabilities token u.grants).2.ledger token :=
    backed.follow_takes obliging (full_takes full done) (kindsOf_dropCapabilities token token u.grants)
  apply left.bare
  rw [kindsOf_dropCapabilities, if_pos rfl]

theorem nothing_untracked (d : GrantDelays) (g : GrantState) (store : PermissionStore)
    (bare : ∀ token, store.Bare token) (moves : List (Move Act))
    (ended : ∀ c ∈ (custodyFrom d ⟨g, store⟩ moves).courses, c.rest.isDone = true) (token : Token) :
    let now := (custodyFrom d ⟨g, store⟩ moves).state
    (∀ (kind : Kind), ∀ p ∈ kind.permissions, now.store.has token p = true →
      ∃ held, now.grants.ledger.hasCapability token held = true ∧ p ∈ held.permissions) ∧
    ∀ full ∈ [Act.revokeCapabilities token, Act.revokeEverything token], ∀ log reply after,
      (perform d full).served.Does now log reply after → after.store.Bare token := by
  intro now
  have backed : Backed now.store now.grants.ledger token := by
    intro kind p belongs
    have first : Custody.Tracks token p ⟨g, store⟩ := by
      intro has
      rw [bare token kind p belongs] at has
      cases has
    exact Traffic.good_of_ended (perform_pays d) first moves ended
  refine ⟨fun kind p belongs has => ?_, fun full hfull log reply after does => bare_of_full backed hfull does⟩
  obtain ⟨held, among, there⟩ := backed kind p belongs has
  exact ⟨held, List.contains_iff_mem.mpr among, there⟩

namespace Scene

/-- Nobody holds anything. -/
def fresh : Custody := ⟨.start 1000000, .empty⟩

def delays : GrantDelays := ⟨60000, 10000⟩

/-- How the standalone collaborators answer. -/
def reply (q : Request) : q.Answer := ((Environment.ofConfig .standard).answer q).1

/-- The course goes on by so many answers. -/
def on (number times : Nat) : List (Move Act) := List.replicate times (.answer number reply)

/-- An identity holds paste. While location is granted to it, with the first permission already in
the store, everything is taken back from it; and while that is under way, paste is granted again. -/
def entangled : List (Move Act) :=
  [.begin (.grantCapability 537 .paste)] ++ on 0 2 ++
  [.begin (.grantCapability 537 .location)] ++ on 1 1 ++
  [.begin (.revokeEverything 537)] ++ on 2 1 ++
  [.begin (.grantCapability 537 .paste)] ++ on 3 2 ++ on 2 1 ++ on 1 3

end Scene

open Scene in
theorem nothing_untracked_entangled :
    let now := (custodyFrom delays fresh entangled).state
    now.store.has 537 .approximateLocation = true ∧
    (∃ held, now.grants.ledger.hasCapability 537 held = true ∧
      .approximateLocation ∈ held.permissions) ∧
    (((perform delays (.revokeEverything 537)).served now).play Environment.answer
      (.ofConfig .standard)).1.2.2.store.Bare 537 := by
  intro now
  have ended : ∀ c ∈ (custodyFrom delays fresh entangled).courses, c.rest.isDone = true := by
    decide +kernel
  have has : now.store.has 537 .approximateLocation = true := by decide +kernel
  obtain ⟨tracked, full⟩ := nothing_untracked delays (.start 1000000) .empty
    PermissionStore.bare_empty entangled ended 537
  exact ⟨has, tracked .location _ (by decide) has,
    full (.revokeEverything 537) (by simp) _ _ _ (Dialogue.ends_play Environment.answer _ _)⟩

namespace Scene

/-- Location is held and granted again; between its two permissions everything is taken back. -/
def cutIn : List (Move Act) :=
  [.begin (.grantCapability 537 .location)] ++ on 0 4 ++
  [.begin (.grantCapability 537 .location)] ++ on 1 2 ++
  [.begin (.revokeCapabilities 537)] ++ on 2 4 ++ on 1 2

end Scene

-- Even with nothing under way, a capability that the ledger knows of may lack a permission.
open Scene in
example :
    let t := custodyFrom delays fresh cutIn
    (∀ c ∈ t.courses, c.rest.isDone = true) ∧
    t.state.grants.ledger.hasCapability 537 .location = true ∧
    t.state.store.has 537 .location = true ∧
    t.state.store.has 537 .approximateLocation = false := by
  decide +kernel

end GrantState

end ClickGrant
