import ClickGrant.Proofs.Grant.Ends
import ClickGrant.Proofs.Grant.Ledger
import ClickGrant.Standalone.Environment

/-!
# What the identity store holds

The permissions of a capability live in the identity store. The service never reads them back, so
what the store holds is what it was asked for: `store.follow log` is the store after the exchanges
of a log. A store is obliging as long as it refuses nothing.

`Backed store l token` says that every permission that the store has given the identity for some
kind of component belongs to a capability that the ledger knows of. Granting a capability to
anybody keeps this (`Backed.follow_gives`), and so does taking every capability back from anybody
(`Backed.follow_takes`). An identity without capabilities then has none of their permissions.
-/
set_option autoImplicit false

namespace ClickGrant

/-- The exchange is about giving or taking a permission. -/
def Exchange.moves (x : Exchange) : Bool :=
  match x.request with
  | .grant .. => true
  | .revoke .. => true
  | _ => false

/-- The identity store has not refused to give or take a permission. -/
def Exchange.isObliging : Exchange → Bool
  | ⟨.grant _ _, answer⟩ => answer.isOk
  | ⟨.revoke _ _, answer⟩ => answer.isOk
  | _ => true

/-- No permission is given or taken. -/
def Still (log : List Exchange) : Prop := ∀ x ∈ log, x.moves = false

/-- The identity store refuses nothing. -/
def Obliging (log : List Exchange) : Prop := ∀ x ∈ log, x.isObliging = true

@[simp] theorem still_nil : Still [] := by simp [Still]

@[simp] theorem still_cons {x : Exchange} {log : List Exchange} :
    Still (x :: log) ↔ x.moves = false ∧ Still log := List.forall_mem_cons

@[simp] theorem still_append {l₁ l₂ : List Exchange} : Still (l₁ ++ l₂) ↔ Still l₁ ∧ Still l₂ :=
  List.forall_mem_append

theorem obliging_cons {x : Exchange} {log : List Exchange} :
    Obliging (x :: log) ↔ x.isObliging = true ∧ Obliging log := List.forall_mem_cons

theorem obliging_append {l₁ l₂ : List Exchange} :
    Obliging (l₁ ++ l₂) ↔ Obliging l₁ ∧ Obliging l₂ := List.forall_mem_append

namespace PermissionStore

/-- The store after an exchange. What it has refused to do, it has not done. -/
def heed (store : PermissionStore) : Exchange → PermissionStore
  | ⟨.grant token p, answer⟩ => if answer.isOk then store.grant token p else store
  | ⟨.revoke token p, answer⟩ => if answer.isOk then store.revoke token p else store
  | _ => store

/-- The store after the exchanges of a log. -/
def follow (store : PermissionStore) (log : List Exchange) : PermissionStore := log.foldl heed store

variable {store : PermissionStore} {token token' : Token} {p : Permission} {log : List Exchange}

theorem follow_append (store : PermissionStore) (l₁ l₂ : List Exchange) :
    store.follow (l₁ ++ l₂) = (store.follow l₁).follow l₂ := List.foldl_append

theorem heed_of_still {x : Exchange} (still : x.moves = false) : store.heed x = store := by
  obtain ⟨request, answer⟩ := x
  cases request with
  | grant token p => cases still
  | revoke token p => cases still
  | _ => rfl

theorem follow_of_still (still : Still log) : store.follow log = store := by
  induction log with
  | nil => rfl
  | cons x rest ih =>
    obtain ⟨first, others⟩ := still_cons.mp still
    show (store.heed x).follow rest = store
    rw [heed_of_still first]
    exact ih others

/-- What has been given is there, and what was there stays. -/
theorem has_follow_gives (token token' : Token) (p : Permission) (ps : List Permission) :
    (store.follow (GrantState.gives token ps)).has token' p =
      (decide (token = token' ∧ p ∈ ps) || store.has token' p) := by
  induction ps generalizing store with
  | nil => simp [GrantState.gives, follow]
  | cons p' rest ih =>
    show ((store.grant token p').follow (GrantState.gives token rest)).has token' p = _
    rw [ih, has_grant]
    by_cases same : token = token'
    · by_cases here : p = p' <;> simp [same, here]
    · simp [same, Ne.symm same]

/-- What has been taken is gone, and nothing else is. -/
theorem has_follow_takes {ps : List Permission} (takes : GrantState.Takes token ps log)
    (obliging : Obliging log) (token' : Token) (p : Permission) :
    (store.follow log).has token' p =
      (decide ¬(token = token' ∧ p ∈ ps) && store.has token' p) := by
  induction ps generalizing store log with
  | nil =>
    obtain rfl := List.map_eq_nil_iff.mp takes
    simp [follow]
  | cons p' rest ih =>
    obtain ⟨⟨request, answer⟩, log', rfl, asked, others⟩ := List.map_eq_cons_iff.mp takes
    cases asked
    obtain ⟨done, obliging⟩ := obliging_cons.mp obliging
    have heeded : store.heed ⟨.revoke token p', answer⟩ = store.revoke token p' := if_pos done
    show ((store.heed _).follow log').has token' p = _
    rw [heeded, ih others obliging, has_revoke]
    by_cases same : token = token'
    · by_cases here : p = p' <;> simp [same, here]
    · simp [same, Ne.symm same]

/-- The store has given the identity none of the permissions of any kind. -/
def Bare (store : PermissionStore) (token : Token) : Prop :=
  ∀ (kind : Kind), ∀ p ∈ kind.permissions, store.has token p = false

theorem bare_empty (token : Token) : empty.Bare token := by
  intro kind p _
  rfl

end PermissionStore

/-! ## Permissions and capabilities -/

/-- Every permission that the store has given the identity for some kind of component belongs to a
capability that it holds. -/
def Backed (store : PermissionStore) (l : Ledger) (token : Token) : Prop :=
  ∀ (kind : Kind), ∀ p ∈ kind.permissions, store.has token p = true →
    ∃ held ∈ l.kindsOf token, p ∈ held.permissions

namespace Backed

variable {store : PermissionStore} {l l' : Ledger} {token token' : Token} {log : List Exchange}

theorem of_bare (bare : store.Bare token) : Backed store l token := by
  intro kind p hp has
  rw [bare kind p hp] at has
  cases has

theorem bare (backed : Backed store l token) (nothing : l.kindsOf token = []) : store.Bare token := by
  intro kind p hp
  rw [← Bool.not_eq_true]
  intro has
  obtain ⟨held, among, -⟩ := backed kind p hp has
  rw [nothing] at among
  cases among

theorem congr (backed : Backed store l token) (same : l'.kindsOf token = l.kindsOf token) :
    Backed store l' token := by
  unfold Backed
  rw [same]
  exact backed

theorem of_still (backed : Backed store l token) (still : Still log)
    (same : l'.kindsOf token = l.kindsOf token) : Backed (store.follow log) l' token := by
  rw [PermissionStore.follow_of_still still]
  exact backed.congr same

theorem follow_gives {kind : Kind} (backed : Backed store l token)
    (credited : l'.kindsOf token =
      if token' = token then kind.insert (l.kindsOf token) else l.kindsOf token) :
    Backed (store.follow (GrantState.gives token' kind.permissions)) l' token := by
  intro kind' p hp has
  rw [PermissionStore.has_follow_gives, Bool.or_eq_true, decide_eq_true_eq] at has
  rw [credited]
  rcases has with ⟨same, given⟩ | before
  · rw [if_pos same]
    exact ⟨kind, (Kind.mem_insert kind kind _).mpr (.inl rfl), given⟩
  · obtain ⟨held, among, belongs⟩ := backed kind' p hp before
    refine ⟨held, ?_, belongs⟩
    split
    · exact (Kind.mem_insert kind held _).mpr (.inr among)
    · exact among

/-- Every permission of an identity's capabilities is taken from it. -/
theorem follow_takes (backed : Backed store l token) (obliging : Obliging log)
    (takes : GrantState.Takes token' ((l.kindsOf token').flatMap Kind.permissions) log)
    (dropped : l'.kindsOf token = if token' = token then [] else l.kindsOf token) :
    Backed (store.follow log) l' token := by
  intro kind p hp has
  rw [PermissionStore.has_follow_takes takes obliging, Bool.and_eq_true, decide_eq_true_eq] at has
  obtain ⟨kept, before⟩ := has
  obtain ⟨held, among, belongs⟩ := backed kind p hp before
  rw [dropped]
  split
  next same =>
    subst same
    exact absurd ⟨rfl, List.mem_flatMap.mpr ⟨held, among, belongs⟩⟩ kept
  next => exact ⟨held, among, belongs⟩

end Backed

/-! ## The standalone store -/

namespace Environment

variable {σ α : Type}

/-- The store of the standalone collaborators does what it is asked for, and refuses nothing. -/
theorem permissions_answer (e : Environment) (q : Request) :
    (e.answer q).2.permissions = e.permissions.heed ⟨q, (e.answer q).1⟩ ∧
      Exchange.isObliging ⟨q, (e.answer q).1⟩ = true := by
  cases q <;> exact ⟨rfl, rfl⟩

theorem permissions_play (d : Dialogue σ α) (e : Environment) :
    (d.play answer e).2.permissions = e.permissions.follow (d.play answer e).1.1 ∧
      Obliging (d.play answer e).1.1 := by
  induction d generalizing e with
  | done s a => exact ⟨rfl, by simp [Dialogue.play, Obliging]⟩
  | ask s q next ih =>
    obtain ⟨kept, obliging⟩ := permissions_answer e q
    obtain ⟨followed, others⟩ := ih s (e.answer q).1 (e.answer q).2
    refine ⟨?_, obliging_cons.mpr ⟨obliging, others⟩⟩
    calc ((Dialogue.ask s q next).play answer e).2.permissions
        = (e.answer q).2.permissions.follow ((next s (e.answer q).1).play answer (e.answer q).2).1.1 :=
          followed
      _ = e.permissions.follow ((Dialogue.ask s q next).play answer e).1.1 := by rw [kept]; rfl

end Environment

end ClickGrant
