import ClickGrant.Proofs.Grant.Balance
import ClickGrant.Proofs.Reliance

/-!
# Whom the grants permit what

An identity is permitted a kind by a capability of the kind or, for saving, by a save grant.
`GrantState.gaining who` is the pact of those operations on the grants by which nobody gains a kind
but as `who` says, and which ask the identity store only. What is proved:
  1. `permits_grantSave`, `permits_addCapability` — a grant permits the one identity the one kind more.
  2. `permits_revokeSave`, `permits_dropCapability` and their like — whatever takes something back
     permits nobody anything.
  3. `keeps_grantCapability`, `keeps_revokeEverything` and their like — the same of the operations,
     whatever others do while they wait.
-/
set_option autoImplicit false

namespace ClickGrant

/-- The identity holds a capability of the kind, or it may save. -/
def Ledger.Permits (l : Ledger) (token : Token) (kind : Kind) : Prop :=
  l.hasCapability token kind = true ∨ (kind = .save ∧ l.hasSave token = true)

/-- What is asked is the user's consent. -/
def Request.isConsent : Request → Bool
  | .consent .. => true
  | _ => false

namespace GrantState

variable {g g' g'' : GrantState} {token token' : Token} {kind kind' : Kind}

theorem permits_iff (l : Ledger) (token : Token) (kind : Kind) :
    l.Permits token kind ↔ kind ∈ l.kindsOf token ∨ (kind = .save ∧ 0 < l.saveCount token) := by
  unfold Ledger.Permits Ledger.hasCapability Ledger.hasSave
  rw [List.contains_iff_mem, decide_eq_true_iff]

/-- Nobody is permitted a kind that was not before, but as `who` says. -/
def Gains (who : Token → Kind → Prop) (g g' : GrantState) : Prop :=
  ∀ token kind, g'.ledger.Permits token kind → g.ledger.Permits token kind ∨ who token kind

/-- Nobody in particular. -/
def nobody : Token → Kind → Prop := fun _ _ => False

variable {who : Token → Kind → Prop}

theorem Gains.of_ledger_eq (same : g'.ledger = g.ledger) : Gains who g g' :=
  fun _ _ permits => .inl (same ▸ permits)

theorem Gains.trans (h₁ : Gains who g g') (h₂ : Gains who g' g'') : Gains who g g'' := by
  intro token kind permits
  rcases h₂ token kind permits with permits | gains
  · exact h₁ token kind permits
  · exact .inr gains

/-- No more kinds are held, and no more save grants. -/
theorem Gains.of_le (kinds : ∀ token, ∀ kind ∈ g'.ledger.kindsOf token, kind ∈ g.ledger.kindsOf token)
    (saves : ∀ token, g'.ledger.saveCount token ≤ g.ledger.saveCount token) : Gains who g g' := by
  intro token kind permits
  rw [permits_iff] at permits ⊢
  left
  rcases permits with held | ⟨same, left⟩
  · exact .inl (kinds token kind held)
  · exact .inr ⟨same, Nat.lt_of_lt_of_le left (saves token)⟩

/-! ## Single changes -/

theorem permits_grantSave (d : GrantDelays) (token : Token) (g : GrantState) :
    Gains (fun t k => t = token ∧ k = .save) g (grantSave d token g).2 := by
  intro token' kind permits
  rw [permits_iff] at permits ⊢
  rcases permits with held | ⟨rfl, left⟩
  · exact .inl (.inl held)
  · rw [saveCount_grantSave] at left
    split at left
    next same => exact .inr ⟨same.symm, rfl⟩
    next => exact .inl (.inr ⟨rfl, left⟩)

theorem permits_addCapability (token : Token) (kind : Kind) (g : GrantState) :
    Gains (fun t k => t = token ∧ k = kind) g (addCapability token kind g).2 := by
  intro token' kind' permits
  rw [permits_iff] at permits ⊢
  rcases permits with held | left
  · rw [kindsOf_addCapability] at held
    split at held
    next same =>
      subst same
      rcases (Kind.mem_insert kind kind' _).mp held with rfl | held
      · exact .inr ⟨rfl, rfl⟩
      · exact .inl (.inl held)
    next => exact .inl (.inl held)
  · exact .inl (.inr left)

theorem saveCount_revokeSave_le (token token' : Token) (serial : UInt64) (g : GrantState) :
    (revokeSave token serial g).2.ledger.saveCount token' ≤ g.ledger.saveCount token' := by
  by_cases here : token = token'
  · subst here
    obtain ⟨-, same⟩ | ⟨record, found, -, taken⟩ := revokeSave_cases token serial g
    · exact Nat.le_of_eq (by rw [same])
    · rw [taken]
      unfold Ledger.saveCount
      dsimp only
      rw [found]
      split
      · rw [Assoc.get?_erase, if_pos rfl]
        exact Nat.zero_le _
      · rw [Assoc.get?_set, if_pos rfl]
        exact Nat.sub_le record.count 1
  · exact Nat.le_of_eq (saveCount_revokeSave_of_ne here serial g)

theorem permits_revokeSave (token : Token) (serial : UInt64) (g : GrantState) :
    Gains who g (revokeSave token serial g).2 :=
  .of_le (fun token' kind held => by rwa [kindsOf_revokeSave] at held) fun token' =>
    saveCount_revokeSave_le token token' serial g

theorem permits_revokeSaves (token : Token) (g : GrantState) : Gains who g (revokeSaves token g) := by
  refine .of_le (fun token' kind held => by rwa [kindsOf_revokeSaves] at held) fun token' => ?_
  rw [saveCount_revokeSaves]
  split
  · exact Nat.zero_le _
  · exact Nat.le_refl _

theorem permits_dropCapabilities (token : Token) (g : GrantState) :
    Gains who g (dropCapabilities token g).2 := by
  refine .of_le (fun token' kind held => ?_) fun _ => Nat.le_refl _
  rw [kindsOf_dropCapabilities] at held
  split at held
  · cases held
  · exact held

theorem permits_dropCapability (token : Token) (kind : Kind) (g : GrantState) :
    Gains who g (dropCapability token kind g).2 := by
  obtain same | ⟨-, last⟩ | ⟨-, taken⟩ := dropCapability_cases token kind g
  · rw [same]
    exact .of_ledger_eq rfl
  · rw [last]
    exact permits_dropCapabilities token g
  · refine .of_le (fun token' kind' held => ?_) fun _ => by rw [taken]; exact Nat.le_refl _
    rw [taken] at held
    have held : kind' ∈ ((g.ledger.capabilities.set token _).get? token').getD [] := held
    rw [Assoc.get?_set] at held
    split at held
    next same => exact same ▸ List.mem_of_mem_erase held
    next => exact held

/-! ## Operations -/

/-- Nobody gains anything but as `who` says, and consent is not asked for. -/
def gaining (who : Token → Kind → Prop) : Pact GrantState where
  moves := Gains who
  relies _ _ := True
  asks _ q := q.isConsent = false
  moves_refl _ := .of_ledger_eq rfl
  moves_trans := .trans
  relied _ := trivial
  relies_trans _ _ := trivial

theorem keeps_revokePermissions (token : Token) : ∀ ps : List Permission,
    (revokePermissions token ps).Keeps (gaining who)
  | [] => Op.keeps_pure ()
  | _ :: rest => Op.keeps_bind (Op.keeps_ask fun _ => rfl) fun _ => keeps_revokePermissions token rest

theorem keeps_grantPermissions (token : Token) : ∀ ps : List Permission,
    Call.Keeps (gaining who) (grantPermissions token ps)
  | [] => Call.keeps_pure ()
  | _ :: rest => by
    refine Call.keeps_bind (Call.keeps_ask fun _ => rfl) fun answer => ?_
    split
    · exact Call.keeps_throw _
    · exact keeps_grantPermissions token rest

theorem keeps_grantCapability (token : Token) (kind : Kind) :
    Call.Keeps (gaining fun t k => t = token ∧ k = kind) (grantCapability token kind) :=
  Call.keeps_bind (keeps_grantPermissions token _) fun _ =>
    Call.keeps_modifyGet (permits_addCapability token kind)

theorem keeps_revokeCapability (token : Token) (kind : Kind) :
    (revokeCapability token kind).Keeps (gaining who) := by
  refine Op.keeps_bind (Op.keeps_modifyGet (permits_dropCapability token kind)) fun held => ?_
  split
  · exact Op.keeps_bind (keeps_revokePermissions token _) fun _ => Op.keeps_pure true
  · exact Op.keeps_pure false

theorem keeps_revokeCapabilities (token : Token) :
    (revokeCapabilities token).Keeps (gaining who) := by
  refine Op.keeps_bind (Op.keeps_modifyGet (permits_dropCapabilities token)) fun kinds => ?_
  exact Op.keeps_bind (keeps_revokePermissions token _) fun _ => Op.keeps_pure kinds

theorem keeps_revokeEverything (token : Token) : (revokeEverything token).Keeps (gaining who) := by
  refine Op.keeps_bind (Op.keeps_modify (permits_revokeSaves token)) fun _ => ?_
  exact Op.keeps_bind (keeps_revokeCapabilities token) fun _ => Op.keeps_pure ()

end GrantState

end ClickGrant
