import ClickGrant.Proofs.Grant.Custody

/-!
# A capability that the identity store refuses

A kind may stand for several permissions, which the store is asked for one after the other. When it
refuses one, the grant fails and the ledger knows nothing of it; the permissions that came before
the refused one are not taken back. What is proved of every state, every store and every refusal:
  1. `refused_keeps_iff` — the ledger and the timers are as they were, and the store holds what it held
     and the permissions given before the refusal. So it is as it was exactly if the identity had
     all of those already.
  2. `refused_trace_iff` — among the kinds there are, only location leaves a trace: its second
     permission is refused and the identity has come by the first one.
  3. `left_behind` — what is left behind belongs to no capability of the ledger, and taking
     everything back from the identity does not reach it.
-/
set_option autoImplicit false

namespace ClickGrant.GrantState

variable {g g' : GrantState} {token : Token} {kind : Kind} {p : Permission} {o : Outage} {e : Refusal}
  {log : List Exchange}

/-- The refusal itself does nothing to the store, the permissions before it are there to stay. -/
theorem has_follow_denied (store : PermissionStore) (token : Token) (given : List Permission)
    (p : Permission) (o : Outage) (token' : Token) (q : Permission) :
    (store.follow (gives token given ++ [⟨.grant token p, Except.error o⟩])).has token' q =
      (decide (token = token' ∧ q ∈ given) || store.has token' q) := by
  have refused : (store.follow (gives token given)).follow [⟨.grant token p, Except.error o⟩] =
      store.follow (gives token given) := rfl
  rw [PermissionStore.follow_append, refused, PermissionStore.has_follow_gives]

/-- What is given to somebody who has it makes no difference, and only then. -/
theorem unchanged_iff (store : PermissionStore) (token : Token) (given : List Permission) :
    (∀ token' q, (decide (token = token' ∧ q ∈ given) || store.has token' q) = store.has token' q) ↔
      ∀ q ∈ given, store.has token q = true := by
  constructor
  · intro same q among
    rw [← same token q, decide_eq_true ⟨rfl, among⟩, Bool.true_or]
  · intro had token' q
    by_cases this : token = token' ∧ q ∈ given
    · obtain ⟨rfl, among⟩ := this
      rw [had q among, Bool.or_true]
    · rw [decide_eq_false this, Bool.false_or]

theorem refused_keeps_iff (store : PermissionStore)
    (refused : Call.Does (grantCapability token kind) g log (.error e) g') :
    g' = g ∧ ∃ given p rest o, kind.permissions = given ++ p :: rest ∧ e = .permissionDenied p o ∧
      (∀ token' q, (store.follow log).has token' q =
        (decide (token = token' ∧ q ∈ given) || store.has token' q)) ∧
      ((∀ token' q, (store.follow log).has token' q = store.has token' q) ↔
        ∀ q ∈ given, store.has token q = true) := by
  cases grantCapability_ends refused with
  | @denied given rest p o asked =>
    have held := has_follow_denied store token given p o
    refine ⟨rfl, given, p, rest, o, asked, rfl, held, ?_⟩
    simp only [held]
    exact unchanged_iff store token given

namespace Scene

/-- The store has no answer when it is asked for the precise location. -/
def halfway (q : Request) : q.Answer :=
  match q with
  | .grant _ .location => Except.error ⟨.accessToken, "down"⟩
  | q => reply q

/-- Location is asked for, and the store refuses its second permission. -/
def cutShort : List Exchange :=
  gives 537 [.approximateLocation] ++ [⟨.grant 537 .location, Except.error ⟨.accessToken, "down"⟩⟩]

theorem cutShort_does (g : GrantState) : Call.Does (grantCapability 537 .location) g cutShort
    (.error (.permissionDenied .location ⟨.accessToken, "down"⟩)) g :=
  Dialogue.ends_play (fun (_ : Unit) q => (halfway q, ())) _ ()

end Scene

open Scene in
/-- Nobody has anything, and location is refused halfway. -/
theorem refused_keeps_iff_cutShort :
    ∃ given : List Permission, (∀ token' q, (PermissionStore.empty.follow cutShort).has token' q =
        (decide (537 = token' ∧ q ∈ given) || PermissionStore.empty.has token' q)) ∧
      ¬∀ q ∈ given, PermissionStore.empty.has 537 q = true := by
  obtain ⟨-, given, p, rest, o, asked, refusal, held, -⟩ :=
    refused_keeps_iff .empty (cutShort_does fresh.grants)
  refine ⟨given, held, fun had => ?_⟩
  have there : (PermissionStore.empty.follow cutShort).has 537 .approximateLocation = true := by decide
  rw [held, Bool.or_eq_true, decide_eq_true_eq] at there
  rcases there with ⟨-, among⟩ | there
  · cases had _ among
  · cases there

open Scene in
/-- The grant is refused, and the identity has a permission that it did not have before. -/
theorem kept_after_refusal :
    Call.Does (grantCapability 537 .location) fresh.grants cutShort
      (.error (.permissionDenied .location ⟨.accessToken, "down"⟩)) fresh.grants ∧
    fresh.store.has 537 .approximateLocation = false ∧
    (fresh.store.follow cutShort).has 537 .approximateLocation = true :=
  ⟨cutShort_does fresh.grants, rfl, by decide⟩

/-- Only location stands for more than one permission. -/
theorem given_of_asked {given rest : List Permission} (asked : kind.permissions = given ++ p :: rest) :
    given = if kind = .location ∧ p = .location then [.approximateLocation] else [] := by
  cases kind with
  | location =>
    match given, asked with
    | [], asked =>
      obtain ⟨rfl, -⟩ := List.cons.inj asked
      rfl
    | [_], asked =>
      obtain ⟨first, asked⟩ := List.cons.inj asked
      obtain ⟨rfl, -⟩ := List.cons.inj asked
      rw [← first]
      rfl
    | _ :: _ :: _, asked => simp [Kind.permissions] at asked
  | paste =>
    match given, asked with
    | [], _ => rfl
    | _ :: _, asked => simp [Kind.permissions] at asked
  | save => simp [Kind.permissions] at asked

theorem refused_trace_iff (store : PermissionStore)
    (refused : Call.Does (grantCapability token kind) g log (.error (.permissionDenied p o)) g') :
    (∃ token' q, (store.follow log).has token' q ≠ store.has token' q) ↔
      kind = .location ∧ p = .location ∧ store.has token .approximateLocation = false := by
  cases grantCapability_ends refused with
  | @denied given rest _ _ asked =>
    have traceless := unchanged_iff store token given
    simp only [has_follow_denied]
    rw [← Bool.not_eq_true, ← and_assoc]
    constructor
    · rintro ⟨token', q, changed⟩
      by_contra other
      refine changed (traceless.mpr (fun q among => ?_) token' q)
      rw [given_of_asked asked] at among
      split at among
      next this =>
        obtain rfl := List.mem_singleton.mp among
        exact not_not.mp fun lacked => other ⟨this, lacked⟩
      next => cases among
    · rintro ⟨this, lacked⟩
      by_contra same
      push Not at same
      refine lacked (traceless.mp same _ ?_)
      rw [given_of_asked asked, if_pos this]
      exact List.mem_singleton.mpr rfl

/-- A permission that belongs to no capability of its identity stays when everything is taken back,
even by a store that refuses nothing. -/
theorem left_behind {d : GrantDelays} {store : PermissionStore} {act : Act} {reply : Reply}
    (there : store.has token p = true) (untracked : ∀ held ∈ g.ledger.kindsOf token, p ∉ held.permissions)
    (full : act ∈ [Act.revokeCapabilities token, Act.revokeEverything token])
    (does : (perform d act).Does g log reply g') (obliging : Obliging log) :
    (store.follow log).has token p = true := by
  have spared : ¬(token = token ∧ p ∈ (g.ledger.kindsOf token).flatMap Kind.permissions) := by
    rintro ⟨-, among⟩
    obtain ⟨held, hheld, belongs⟩ := List.mem_flatMap.mp among
    exact untracked held hheld belongs
  rw [PermissionStore.has_follow_takes (full_takes full does) obliging, decide_eq_true spared, there]
  rfl

end ClickGrant.GrantState
