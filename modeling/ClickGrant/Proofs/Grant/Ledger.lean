import ClickGrant.Grant.Capability
import ClickGrant.Proofs.Timer.Queue

/-!
# What identities hold

An identity holds save grants, by serial, and capabilities, by kind (`Ledger.Holds`). The lemmas
on `serialsOf` and `kindsOf` say what each change of the grants does to what any identity holds.

`GrantState.Sound` is what every change keeps: the timer queue is sound, a record counts its
serials, and a save grant's timer is pending only while the grant is outstanding. So a record is
dropped exactly with its last serial, and whoever takes back every serial of an identity has also
taken back every save timer of it.
-/
set_option autoImplicit false

namespace ClickGrant

theorem Kind.mem_insert (k k' : Kind) : ∀ ks : List Kind, k' ∈ k.insert ks ↔ k' = k ∨ k' ∈ ks
  | [] => by simp [Kind.insert]
  | k₀ :: rest => by
    unfold Kind.insert
    split
    next same => rw [same]; simp
    next =>
      split
      · simp
      · rw [List.mem_cons, List.mem_cons, Kind.mem_insert k k' rest]
        exact or_left_comm

/-- Something an identity can hold. -/
inductive Holding where
  /-- One save grant. -/
  | save (serial : UInt64)
  /-- A capability. -/
  | capability (kind : Kind)

/-- The kind of component that stands for it. -/
def Holding.kind : Holding → Kind
  | .save _ => .save
  | .capability kind => kind

namespace Ledger

/-- The serials of an identity's save grants. -/
def serialsOf (l : Ledger) (token : Token) : List UInt64 :=
  ((l.saves.get? token).map (·.serials)).getD []

/-- The identity holds this. -/
def Holds (l : Ledger) (token : Token) : Holding → Prop
  | .save serial => serial ∈ l.serialsOf token
  | .capability kind => kind ∈ l.kindsOf token

instance (l : Ledger) (token : Token) (held : Holding) : Decidable (l.Holds token held) := by
  cases held <;> exact inferInstanceAs (Decidable (_ ∈ _))

/-- Nobody holds anything more. -/
def AtMost (l' l : Ledger) : Prop := ∀ token held, l'.Holds token held → l.Holds token held

theorem AtMost.refl (l : Ledger) : l.AtMost l := fun _ _ h => h

theorem AtMost.trans {l₁ l₂ l₃ : Ledger} (h₁ : l₁.AtMost l₂) (h₂ : l₂.AtMost l₃) : l₁.AtMost l₃ :=
  fun token held h => h₂ token held (h₁ token held h)

end Ledger

namespace GrantState

variable {g : GrantState} {token token' : Token} {serial : UInt64} {d : GrantDelays}

/-! ## What each change does to what is held -/

theorem serialsOf_grantSave (d : GrantDelays) (token token' : Token) (g : GrantState) :
    (grantSave d token g).2.ledger.serialsOf token' =
      if token = token' then g.ledger.serialsOf token ++ [g.ledger.nextSerial]
      else g.ledger.serialsOf token' := by
  show (((g.ledger.saves.set token _).get? token').map SaveRecord.serials).getD [] = _
  rw [Assoc.get?_set]
  split
  next same =>
    show (g.ledger.saves.getD token _).serials ++ _ = _
    unfold Assoc.getD Ledger.serialsOf
    cases g.ledger.saves.get? token <;> rfl
  next => rfl

/-- A save grant that is not outstanding is not taken back; one that is goes with its timer. -/
theorem revokeSave_cases (token : Token) (serial : UInt64) (g : GrantState) :
    (serial ∉ g.ledger.serialsOf token ∧ (revokeSave token serial g).2 = g) ∨
    ∃ record, g.ledger.saves.get? token = some record ∧ serial ∈ record.serials ∧
      (revokeSave token serial g).2 =
        { g with
          ledger := { g.ledger with
            saves := if record.count - 1 = 0 then g.ledger.saves.erase token
              else g.ledger.saves.set token ⟨record.count - 1, record.serials.erase serial⟩ }
          timers := g.timers.remove (saveKey token serial) } := by
  unfold revokeSave Ledger.serialsOf
  cases found : g.ledger.saves.get? token with
  | none => exact .inl ⟨by simp, rfl⟩
  | some record =>
    by_cases outstanding : serial ∈ record.serials
    · refine .inr ⟨record, rfl, outstanding, ?_⟩
      simp [outstanding]
    · exact .inl ⟨by simpa using outstanding, by simp [outstanding]⟩

theorem serialsOf_revokeSave_sublist (token token' : Token) (serial : UInt64) (g : GrantState) :
    ((revokeSave token serial g).2.ledger.serialsOf token').Sublist (g.ledger.serialsOf token') := by
  obtain ⟨-, same⟩ | ⟨record, found, -, taken⟩ := revokeSave_cases token serial g
  · simp only [same]
    exact List.Sublist.refl _
  · rw [taken]
    unfold Ledger.serialsOf
    dsimp only
    by_cases here : token = token'
    · rw [← here, found]
      split
      · rw [Assoc.get?_erase, if_pos rfl]; exact List.nil_sublist _
      · rw [Assoc.get?_set, if_pos rfl]; exact List.erase_sublist
    · have other : (if record.count - 1 = 0 then g.ledger.saves.erase token
          else g.ledger.saves.set token ⟨record.count - 1, record.serials.erase serial⟩).get? token' =
            g.ledger.saves.get? token' := by
        split
        · rw [Assoc.get?_erase, if_neg here]
        · rw [Assoc.get?_set, if_neg here]
      simp only [other]
      exact List.Sublist.refl _

@[simp] theorem kindsOf_revokeSave (token token' : Token) (serial : UInt64) (g : GrantState) :
    (revokeSave token serial g).2.ledger.kindsOf token' = g.ledger.kindsOf token' := by
  obtain ⟨-, same⟩ | ⟨_, _, -, taken⟩ := revokeSave_cases token serial g
  · rw [same]
  · rw [taken]; rfl

theorem serialsOf_revokeSaves (token token' : Token) (g : GrantState) :
    (revokeSaves token g).ledger.serialsOf token' =
      if token = token' then [] else g.ledger.serialsOf token' := by
  unfold revokeSaves
  split
  next absent =>
    split
    next same => unfold Ledger.serialsOf; rw [← same, absent]; rfl
    next => rfl
  next record present =>
    show (((g.ledger.saves.erase token).get? token').map SaveRecord.serials).getD [] = _
    rw [Assoc.get?_erase]
    split <;> rfl

@[simp] theorem kindsOf_revokeSaves (token token' : Token) (g : GrantState) :
    (revokeSaves token g).ledger.kindsOf token' = g.ledger.kindsOf token' := by
  unfold revokeSaves
  split <;> rfl

theorem kindsOf_addCapability (token token' : Token) (kind : Kind) (g : GrantState) :
    (addCapability token kind g).2.ledger.kindsOf token' =
      if token = token' then kind.insert (g.ledger.kindsOf token) else g.ledger.kindsOf token' := by
  show ((g.ledger.capabilities.set token _).get? token').getD [] = _
  rw [Assoc.get?_set]
  split <;> rfl

theorem kindsOf_dropCapabilities (token token' : Token) (g : GrantState) :
    (dropCapabilities token g).2.ledger.kindsOf token' =
      if token = token' then [] else g.ledger.kindsOf token' := by
  show ((g.ledger.capabilities.erase token).get? token').getD [] = _
  rw [Assoc.get?_erase]
  split <;> rfl

@[simp] theorem ledger_deferRevocation (d : GrantDelays) (token : Token) (g : GrantState) :
    (deferRevocation d token g).2.ledger = g.ledger := by
  unfold deferRevocation
  split <;> rfl

/-! ## What each change does to the counts of save grants -/

theorem saveCount_grantSave (d : GrantDelays) (token token' : Token) (g : GrantState) :
    (grantSave d token g).2.ledger.saveCount token' =
      if token = token' then g.ledger.saveCount token + 1 else g.ledger.saveCount token' := by
  show (((g.ledger.saves.set token _).get? token').map SaveRecord.count).getD 0 = _
  rw [Assoc.get?_set]
  split
  next same =>
    show (g.ledger.saves.getD token _).count + 1 = _
    unfold Assoc.getD Ledger.saveCount
    cases g.ledger.saves.get? token <;> rfl
  next => rfl

theorem saveCount_revokeSave_of_ne (other : token ≠ token') (serial : UInt64) (g : GrantState) :
    (revokeSave token serial g).2.ledger.saveCount token' = g.ledger.saveCount token' := by
  obtain ⟨-, same⟩ | ⟨_, _, -, taken⟩ := revokeSave_cases token serial g
  · rw [same]
  · rw [taken]
    unfold Ledger.saveCount
    dsimp only
    split
    · rw [Assoc.get?_erase, if_neg other]
    · rw [Assoc.get?_set, if_neg other]

/-- Who is told that there are grants left has grants left. -/
theorem saveCount_pos_of_revokeSave (left : (revokeSave token serial g).1 = false) :
    0 < (revokeSave token serial g).2.ledger.saveCount token := by
  unfold revokeSave at left ⊢
  cases found : g.ledger.saves.get? token with
  | none => rw [found] at left; cases left
  | some record =>
    simp only [found] at left ⊢
    split at left
    next outstanding =>
      have left : ¬record.count - 1 = 0 := of_decide_eq_false left
      rw [if_pos outstanding]
      show 0 < (((if record.count - 1 = 0 then _ else _ : Assoc Token SaveRecord).get? token).map
        SaveRecord.count).getD 0
      rw [if_neg left, Assoc.get?_set, if_pos rfl]
      exact Nat.pos_of_ne_zero left
    next absent =>
      have left : ¬record.count = 0 := of_decide_eq_false left
      rw [if_neg absent]
      unfold Ledger.saveCount
      rw [found]
      exact Nat.pos_of_ne_zero left

theorem saveCount_revokeSaves (token token' : Token) (g : GrantState) :
    (revokeSaves token g).ledger.saveCount token' =
      if token = token' then 0 else g.ledger.saveCount token' := by
  unfold revokeSaves
  split
  next absent =>
    split
    next same => unfold Ledger.saveCount; rw [← same, absent]; rfl
    next => rfl
  next record present =>
    show (((g.ledger.saves.erase token).get? token').map SaveRecord.count).getD 0 = _
    rw [Assoc.get?_erase]
    split <;> rfl

/-! ## What each change does to deferred revocations -/

@[simp] theorem contains_grantSave (d : GrantDelays) (token token' : Token) (g : GrantState) :
    (grantSave d token g).2.timers.contains (backgroundKey token') =
      g.timers.contains (backgroundKey token') := by
  show (g.timers.schedule _ _ _).contains _ = _
  simp

@[simp] theorem contains_revokeSave (token token' : Token) (serial : UInt64) (g : GrantState) :
    (revokeSave token serial g).2.timers.contains (backgroundKey token') =
      g.timers.contains (backgroundKey token') := by
  obtain ⟨-, same⟩ | ⟨_, _, -, taken⟩ := revokeSave_cases token serial g
  · rw [same]
  · rw [taken]; simp

/-- What a queue keeps when one save timer of an identity is removed it keeps when several are, one
after the other. -/
theorem removeSaves_keeps (Kept : TimerQueue → Prop)
    (step : ∀ q serial, Kept q → Kept (q.remove (saveKey token serial))) :
    ∀ (serials : List UInt64) {q : TimerQueue}, Kept q →
      Kept (serials.foldl (fun q serial => q.remove (saveKey token serial)) q)
  | [], _, start => start
  | serial :: rest, q, start => removeSaves_keeps Kept step rest (step q serial start)

/-- The save timers of an identity and these serials are pending no longer. -/
theorem contains_removeSaves (token : Token) (key : TimerKey) :
    ∀ (serials : List UInt64) (q : TimerQueue),
      (serials.foldl (fun q serial => q.remove (saveKey token serial)) q).contains key = true ↔
        q.contains key = true ∧ ∀ serial ∈ serials, saveKey token serial ≠ key
  | [], q => by simp
  | serial :: rest, q => by
    rw [List.foldl_cons, contains_removeSaves token key rest, TimerQueue.contains_remove,
      Bool.and_eq_true, decide_eq_true_eq, List.forall_mem_cons, and_comm (a := _ ≠ _), and_assoc]

@[simp] theorem contains_revokeSaves (token token' : Token) (g : GrantState) :
    (revokeSaves token g).timers.contains (backgroundKey token') =
      g.timers.contains (backgroundKey token') := by
  unfold revokeSaves
  split
  · rfl
  · rw [Bool.eq_iff_iff, contains_removeSaves]
    simp

@[simp] theorem contains_dropCapabilities (token token' : Token) (g : GrantState) :
    (dropCapabilities token g).2.timers.contains (backgroundKey token') =
      (decide (token ≠ token') && g.timers.contains (backgroundKey token')) := by
  show (g.timers.remove _).contains _ = _
  rw [TimerQueue.contains_remove]
  simp only [ne_eq, backgroundKey_inj]

@[simp] theorem contains_cancelDeferred (token token' : Token) (g : GrantState) :
    (cancelDeferred token g).2.timers.contains (backgroundKey token') =
      (decide (token ≠ token') && g.timers.contains (backgroundKey token')) := by
  show (g.timers.remove _).contains _ = _
  rw [TimerQueue.contains_remove]
  simp only [ne_eq, backgroundKey_inj]

/-- An identity that holds a capability has its revocation deferred; no other one's is given up. -/
theorem contains_deferRevocation (d : GrantDelays) (token token' : Token) (g : GrantState) :
    (deferRevocation d token g).2.timers.contains (backgroundKey token') =
      (decide (token = token') && g.ledger.capabilities.contains token ||
        g.timers.contains (backgroundKey token')) := by
  unfold deferRevocation
  split
  next holds =>
    show (g.timers.schedule _ _ _).contains _ = _
    rw [TimerQueue.contains_schedule, holds]
    simp only [backgroundKey_inj, Bool.and_true]
  next none =>
    rw [Bool.eq_false_iff.mpr none]
    simp

/-- Taking back gives nobody anything. -/
theorem atMost_revokeSave (token : Token) (serial : UInt64) (g : GrantState) :
    (revokeSave token serial g).2.ledger.AtMost g.ledger := by
  intro token' held h
  cases held with
  | save n => exact (serialsOf_revokeSave_sublist token token' serial g).mem h
  | capability kind => rwa [Ledger.Holds, kindsOf_revokeSave] at h

theorem atMost_revokeSaves (token : Token) (g : GrantState) :
    (revokeSaves token g).ledger.AtMost g.ledger := by
  intro token' held h
  cases held with
  | save n =>
    rw [Ledger.Holds, serialsOf_revokeSaves] at h
    split at h
    · cases h
    · exact h
  | capability kind => rwa [Ledger.Holds, kindsOf_revokeSaves] at h

theorem atMost_dropCapabilities (token : Token) (g : GrantState) :
    (dropCapabilities token g).2.ledger.AtMost g.ledger := by
  intro token' held h
  cases held with
  | save n => exact h
  | capability kind =>
    rw [Ledger.Holds, kindsOf_dropCapabilities] at h
    split at h
    · cases h
    · exact h

/-! ## What every change keeps -/

/-- What the changes of the grants keep. -/
structure Sound (g : GrantState) : Prop where
  timers : g.timers.Sound
  counted : ∀ token record, g.ledger.saves.get? token = some record →
    record.count = record.serials.length
  expiring : ∀ token serial, g.timers.contains (saveKey token serial) = true →
    serial ∈ g.ledger.serialsOf token

theorem sound_start (now : UInt64) : (GrantState.start now).Sound where
  timers := TimerQueue.sound_empty
  counted := by intro token record h; cases h
  expiring := by intro token serial h; cases h

/-- Removing a timer. -/
theorem Sound.remove (sound : g.Sound) (key : TimerKey) :
    Sound { g with timers := g.timers.remove key } where
  timers := TimerQueue.sound_remove key sound.timers
  counted := sound.counted
  expiring := by
    intro token serial h
    rw [TimerQueue.contains_remove, Bool.and_eq_true] at h
    exact sound.expiring token serial h.2

/-- Scheduling a timer that is not a save grant's. -/
theorem Sound.schedule (sound : g.Sound) (deadline : UInt64) (event : TimerEvent)
    (other : ∀ token serial, event ≠ .saveExpired token serial) :
    Sound { g with timers := g.timers.schedule event.key deadline event } where
  timers := TimerQueue.sound_schedule deadline event sound.timers
  counted := sound.counted
  expiring := by
    intro token serial h
    rw [TimerQueue.contains_schedule, Bool.or_eq_true, decide_eq_true_eq] at h
    rcases h with h | h
    · change event.key = (TimerEvent.saveExpired token serial).key at h
      exact absurd (TimerEvent.key_inj.mp h) (other token serial)
    · exact sound.expiring token serial h

theorem Sound.takeDue (sound : g.Sound) (now : UInt64) :
    Sound { g with timers := (g.timers.takeDue now).2 } where
  timers := TimerQueue.sound_takeDue now sound.timers
  counted := sound.counted
  expiring := by
    intro token serial h
    exact sound.expiring token serial (TimerQueue.contains_takeDue _ _ _ |>.mp h).1

theorem Sound.grantSave (sound : g.Sound) (d : GrantDelays) (token : Token) :
    (grantSave d token g).2.Sound where
  timers := TimerQueue.sound_schedule _ (.saveExpired token g.ledger.nextSerial) sound.timers
  counted := by
    intro token' record h
    change (g.ledger.saves.set token _).get? token' = some record at h
    rw [Assoc.get?_set] at h
    split at h
    next =>
      cases h
      show (g.ledger.saves.getD token ⟨0, []⟩).count + 1 = ((g.ledger.saves.getD token ⟨0, []⟩).serials ++ _).length
      unfold Assoc.getD
      cases found : g.ledger.saves.get? token with
      | none => rfl
      | some old => simp [sound.counted token old found]
    next => exact sound.counted token' record h
  expiring := by
    intro token' serial h
    rw [serialsOf_grantSave]
    change (g.timers.schedule _ _ _).contains _ = true at h
    rw [TimerQueue.contains_schedule, Bool.or_eq_true, decide_eq_true_eq, saveKey_inj] at h
    -- the new timer goes with the new serial, and every other one with the serial it had
    rcases h with ⟨rfl, rfl⟩ | h
    · simp
    · have held := sound.expiring token' serial h
      split
      next same => exact List.mem_append_left _ (same ▸ held)
      next => exact held

theorem Sound.revokeSave (sound : g.Sound) (token : Token) (serial : UInt64) :
    (revokeSave token serial g).2.Sound := by
  obtain ⟨-, same⟩ | ⟨record, found, outstanding, taken⟩ := revokeSave_cases token serial g
  · rw [same]; exact sound
  have count := sound.counted token record found
  rw [taken]
  refine ⟨TimerQueue.sound_remove _ sound.timers, ?_, ?_⟩
  · intro token' record' h
    dsimp only at h
    split at h
    next =>
      rw [Assoc.get?_erase] at h
      split at h
      · cases h
      · exact sound.counted token' record' h
    next =>
      rw [Assoc.get?_set] at h
      split at h
      · cases h
        show record.count - 1 = (record.serials.erase serial).length
        rw [List.length_erase_of_mem outstanding, count]
      · exact sound.counted token' record' h
  · intro token' serial' h
    rw [TimerQueue.contains_remove, Bool.and_eq_true, decide_eq_true_eq] at h
    have held := sound.expiring token' serial' h.2
    unfold Ledger.serialsOf at held ⊢
    dsimp only
    by_cases here : token = token'
    · subst here
      have other : serial' ≠ serial := fun e => h.1 (by rw [e])
      rw [found] at held
      have left : serial' ∈ record.serials.erase serial := (List.mem_erase_of_ne other).mpr held
      -- another serial is left, so the record is not dropped
      split
      next last =>
        have := List.length_pos_of_mem left
        rw [List.length_erase_of_mem outstanding] at this
        omega
      next => rw [Assoc.get?_set, if_pos rfl]; exact left
    · split
      · rw [Assoc.get?_erase, if_neg here]; exact held
      · rw [Assoc.get?_set, if_neg here]; exact held

theorem Sound.revokeSaves (sound : g.Sound) (token : Token) : (revokeSaves token g).Sound := by
  unfold GrantState.revokeSaves
  cases found : g.ledger.saves.get? token with
  | none => exact sound
  | some record =>
    have timers := removeSaves_keeps TimerQueue.Sound
      (fun _ serial sound => TimerQueue.sound_remove (saveKey token serial) sound) record.serials sound.timers
    refine ⟨timers, ?_, ?_⟩
    · intro token' record' h
      dsimp only at h
      rw [Assoc.get?_erase] at h
      split at h
      · cases h
      · exact sound.counted token' record' h
    · intro token' serial h
      rw [contains_removeSaves] at h
      have held := sound.expiring token' serial h.1
      unfold Ledger.serialsOf at held ⊢
      dsimp only
      rw [Assoc.get?_erase]
      split
      next same =>
        -- a timer of this identity is left only if its serial was none of those removed
        rw [← same, found] at held
        exact absurd (by rw [same]) (h.2 serial held)
      next => exact held

theorem Sound.addCapability (sound : g.Sound) (token : Token) (kind : Kind) :
    (addCapability token kind g).2.Sound :=
  ⟨sound.timers, sound.counted, sound.expiring⟩

theorem Sound.dropCapabilities (sound : g.Sound) (token : Token) :
    (dropCapabilities token g).2.Sound :=
  have removed := sound.remove (backgroundKey token)
  ⟨removed.timers, removed.counted, removed.expiring⟩

theorem Sound.deferRevocation (sound : g.Sound) (d : GrantDelays) (token : Token) :
    (deferRevocation d token g).2.Sound := by
  unfold GrantState.deferRevocation
  split
  · exact sound.schedule _ (.backgroundExpired token) (by intro _ _ h; cases h)
  · exact sound

theorem Sound.cancelDeferred (sound : g.Sound) (token : Token) : (cancelDeferred token g).2.Sound :=
  sound.remove _

/-- An identity without save grants has no save timer. -/
theorem Sound.no_saveTimer (sound : g.Sound) (none : g.ledger.serialsOf token = []) (serial : UInt64) :
    g.timers.contains (saveKey token serial) = false := by
  rw [← Bool.not_eq_true]
  intro h
  have held := sound.expiring token serial h
  rw [none] at held
  cases held

/-- The count of an identity's save grants is how many serials it has. -/
theorem Sound.saveCount_eq (sound : g.Sound) (token : Token) :
    g.ledger.saveCount token = (g.ledger.serialsOf token).length := by
  unfold Ledger.saveCount Ledger.serialsOf
  cases found : g.ledger.saves.get? token with
  | none => rfl
  | some record => exact sound.counted token record found

end GrantState

end ClickGrant
