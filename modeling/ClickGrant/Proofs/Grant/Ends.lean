import ClickGrant.Grant.Capability
import ClickGrant.Proofs.Dialogue

/-!
# How changes of capabilities end

The identity store is asked for the permissions of a kind one after the other. If it gives all of
them the ledger notes the kind; at the first one it refuses, the ledger stays as it is. When
capabilities are taken back the ledger drops them first, and then the store is asked to revoke
every permission of theirs, whatever it answers.
-/
set_option autoImplicit false

namespace ClickGrant.GrantState

/-- The identity store has given an identity these permissions. -/
def gives (token : Token) (ps : List Permission) : List Exchange :=
  ps.map fun p => ⟨.grant token p, Except.ok ()⟩

/-- The identity store was asked to take these permissions from an identity. -/
def Takes (token : Token) (ps : List Permission) (log : List Exchange) : Prop :=
  log.map (·.request) = ps.map (Request.revoke token)

variable {g g' : GrantState} {token : Token} {kind : Kind} {log : List Exchange}

/-- The store gives every permission, or all up to one that it refuses. -/
theorem grantPermissions_ends {ps : List Permission} {result : Except Refusal Unit}
    (h : Call.Does (grantPermissions token ps) g log result g') :
    g' = g ∧ ((log = gives token ps ∧ result = .ok ()) ∨
      ∃ given p rest o, ps = given ++ p :: rest ∧
        log = gives token given ++ [⟨.grant token p, Except.error o⟩] ∧
        result = .error (.permissionDenied p o)) := by
  induction ps generalizing log with
  | nil =>
    obtain ⟨rfl, rfl, rfl⟩ := Call.does_pure.mp h
    exact ⟨rfl, .inl ⟨rfl, rfl⟩⟩
  | cons p rest ih =>
    rw [grantPermissions, Call.does_ask_bind] at h
    obtain ⟨answer, log, h, rfl⟩ := h
    cases answer with
    | error o =>
      obtain ⟨rfl, rfl, rfl⟩ := Call.does_throw.mp h
      exact ⟨rfl, .inr ⟨[], p, rest, o, rfl, rfl, rfl⟩⟩
    | ok _ =>
      obtain ⟨rfl, ⟨rfl, rfl⟩ | ⟨given, p', rest', o, rfl, rfl, rfl⟩⟩ := ih h
      · exact ⟨rfl, .inl ⟨rfl, rfl⟩⟩
      · exact ⟨rfl, .inr ⟨p :: given, p', rest', o, rfl, rfl, rfl⟩⟩

theorem revokePermissions_ends {ps : List Permission} {u : Unit}
    (h : (revokePermissions token ps).Does g log u g') : g' = g ∧ Takes token ps log := by
  induction ps generalizing log with
  | nil =>
    obtain ⟨rfl, _, rfl⟩ := Op.does_pure.mp h
    exact ⟨rfl, rfl⟩
  | cons p rest ih =>
    rw [revokePermissions, Op.does_ask_bind] at h
    obtain ⟨_, log, h, rfl⟩ := h
    obtain ⟨rfl, takes⟩ := ih h
    exact ⟨rfl, by rw [Takes, List.map_cons, List.map_cons, takes]⟩

/-- The ways in which granting a capability can end. -/
inductive Grants (token : Token) (kind : Kind) (g : GrantState) :
    List Exchange → Except Refusal Bool → GrantState → Prop where
  | denied {given rest : List Permission} {p : Permission} (o : Outage)
      (asked : kind.permissions = given ++ p :: rest) :
      Grants token kind g (gives token given ++ [⟨.grant token p, Except.error o⟩])
        (.error (.permissionDenied p o)) g
  | granted : Grants token kind g (gives token kind.permissions)
      (.ok (addCapability token kind g).1) (addCapability token kind g).2

theorem grantCapability_ends {result : Except Refusal Bool}
    (h : Call.Does (grantCapability token kind) g log result g') :
    Grants token kind g log result g' := by
  unfold grantCapability at h
  rw [Call.does_bind] at h
  obtain ⟨e, refused, rfl⟩ | ⟨_, _, _, _, given, h, rfl⟩ := h
  · obtain ⟨rfl, ⟨_, ⟨⟩⟩ | ⟨given, p, rest, o, asked, rfl, he⟩⟩ := grantPermissions_ends refused
    cases he
    exact .denied o asked
  · obtain ⟨rfl, ⟨rfl, _⟩ | ⟨_, _, _, _, _, _, ⟨⟩⟩⟩ := grantPermissions_ends given
    obtain ⟨rfl, rfl, rfl⟩ := Call.does_modifyGet.mp h
    rw [List.append_nil]
    exact .granted

/-- The ledger drops what the identity holds, and the store is asked to revoke every permission
that belongs to it. -/
theorem revokeCapabilities_ends {kinds : List Kind}
    (h : (revokeCapabilities token).Does g log kinds g') :
    kinds = g.ledger.kindsOf token ∧ g' = (dropCapabilities token g).2 ∧
      Takes token (kinds.flatMap Kind.permissions) log := by
  unfold revokeCapabilities at h
  rw [Op.does_modifyGet_bind, Op.does_bind] at h
  obtain ⟨_, _, _, _, revoked, h, rfl⟩ := h
  obtain ⟨rfl, takes⟩ := revokePermissions_ends revoked
  obtain ⟨rfl, rfl, rfl⟩ := Op.does_pure.mp h
  rw [List.append_nil]
  exact ⟨rfl, rfl, takes⟩

theorem revokeEverything_ends {u : Unit} (h : (revokeEverything token).Does g log u g') :
    g' = (dropCapabilities token (revokeSaves token g)).2 ∧
      Takes token (((revokeSaves token g).ledger.kindsOf token).flatMap Kind.permissions) log := by
  unfold revokeEverything at h
  rw [Op.does_modify_bind, Op.does_bind] at h
  obtain ⟨_, _, _, _, revoked, h, rfl⟩ := h
  obtain ⟨rfl, rfl, takes⟩ := revokeCapabilities_ends revoked
  obtain ⟨rfl, _, rfl⟩ := Op.does_pure.mp h
  rw [List.append_nil]
  exact ⟨rfl, takes⟩

end ClickGrant.GrantState
