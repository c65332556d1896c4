import ClickGrant.Consent.Gate

/-!
# Masks of consents

Each identity has a mask with one bit for each kind it has consented to; further bits are kept as
they are. What is proved:
  1. `ConsentStore.hasConsent_record` — a consent that is recorded is on record, and no other answer
     changes: the bits of different kinds differ, and so do the masks of different identities.
  2. `ConsentStore.within_record` — no bit is ever cleared by it, those that stand for no kind
     included.
-/
set_option autoImplicit false

namespace ClickGrant

/-- Every bit of the one mask is set in the other. -/
def Covers (m m' : UInt32) : Prop := m ||| m' = m'

theorem and_or_right (m m' b : UInt32) : (m ||| m') &&& b = (m &&& b) ||| (m' &&& b) := by
  simp only [← UInt32.toBitVec_inj, UInt32.toBitVec_and, UInt32.toBitVec_or, BitVec.and_or_distrib_right]

namespace Covers

variable {m m' m'' : UInt32}

theorem refl (m : UInt32) : Covers m m := UInt32.or_self

theorem trans (h₁ : Covers m m') (h₂ : Covers m' m'') : Covers m m'' := by
  unfold Covers at *
  rw [← h₂, ← UInt32.or_assoc, h₁]

theorem or_left (m b : UInt32) : Covers m (m ||| b) := by
  unfold Covers
  rw [← UInt32.or_assoc, UInt32.or_self]

/-- What can be seen of the one mask can be seen of the other. -/
theorem and_ne_zero (h : Covers m m') {b : UInt32} (set : m &&& b ≠ 0) : m' &&& b ≠ 0 := by
  intro clear
  rw [← h, and_or_right, UInt32.or_eq_zero_iff] at clear
  exact set clear.1

end Covers

/-- Each kind has a bit of its own. -/
theorem Kind.consentBit_and (k k' : Kind) : k.consentBit &&& k'.consentBit ≠ 0 ↔ k = k' := by
  cases k <;> cases k' <;> decide

namespace ConsentStore

variable {c c' c'' : ConsentStore} {token token' : Token} {kind kind' : Kind}

/-- The mask of an identity. -/
def mask (c : ConsentStore) (token : Token) : UInt32 := c.records.getD token 0

theorem hasConsent_iff : c.hasConsent token kind = true ↔ c.mask token &&& kind.consentBit ≠ 0 :=
  decide_eq_true_iff

theorem mask_record (c : ConsentStore) (token token' : Token) (kind : Kind) :
    (c.record token kind).2.mask token' =
      if token = token' then c.mask token ||| kind.consentBit else c.mask token' := by
  unfold record mask Assoc.getD
  dsimp only
  rw [Assoc.get?_set]
  split <;> rfl

/-- A consent that is recorded is on record; no other answer changes. -/
theorem hasConsent_record (c : ConsentStore) (token token' : Token) (kind kind' : Kind) :
    (c.record token kind).2.hasConsent token' kind' = true ↔
      (token = token' ∧ kind = kind') ∨ c.hasConsent token' kind' = true := by
  rw [hasConsent_iff, hasConsent_iff, mask_record]
  split
  next same =>
    subst same
    rw [and_or_right, ne_eq, UInt32.or_eq_zero_iff, Decidable.not_and_iff_not_or_not, ← ne_eq, ← ne_eq,
      Kind.consentBit_and]
    simp only [true_and]
    exact or_comm
  next other => simp only [other, false_and, false_or]

/-- No bit that is set in one of the stores is clear in the other. -/
def Within (c c' : ConsentStore) : Prop := ∀ token, Covers (c.mask token) (c'.mask token)

theorem Within.refl (c : ConsentStore) : c.Within c := fun _ => .refl _

theorem Within.trans (h₁ : c.Within c') (h₂ : c'.Within c'') : c.Within c'' :=
  fun token => (h₁ token).trans (h₂ token)

theorem Within.hasConsent (h : c.Within c') (given : c.hasConsent token kind = true) :
    c'.hasConsent token kind = true :=
  hasConsent_iff.mpr ((h token).and_ne_zero (hasConsent_iff.mp given))

theorem within_record (c : ConsentStore) (token : Token) (kind : Kind) :
    c.Within (c.record token kind).2 := by
  intro token'
  rw [mask_record]
  split
  next same => exact same ▸ .or_left _ _
  next => exact .refl _

/-- Whether the record is written or not makes no difference to what is on record. -/
theorem records_recordAndWrite (c : ConsentStore) (token : Token) (kind : Kind) :
    (c.recordAndWrite token kind).records = (c.record token kind).2.records := by
  unfold recordAndWrite record
  cases c.hasConsent token kind <;> rfl

theorem within_recordAndWrite (c : ConsentStore) (token : Token) (kind : Kind) :
    c.Within (c.recordAndWrite token kind) := by
  intro token'
  rw [mask, mask, records_recordAndWrite]
  exact c.within_record token kind token'

theorem hasConsent_recordAndWrite (c : ConsentStore) (token token' : Token) (kind kind' : Kind) :
    (c.recordAndWrite token kind).hasConsent token' kind' = true ↔
      (token = token' ∧ kind = kind') ∨ c.hasConsent token' kind' = true := by
  rw [← hasConsent_record, hasConsent_iff, hasConsent_iff, mask, mask, records_recordAndWrite]

end ConsentStore

end ClickGrant
