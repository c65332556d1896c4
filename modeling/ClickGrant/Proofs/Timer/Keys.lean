import ClickGrant.Timer.Event

/-!
# Timer keys

Two timer events share a key only if they are the same event (`TimerEvent.key_inj`): a key names
one save grant, one identity's deferred revocation, or the idle exit. Identities and serials stand
in keys as decimals, so a key falls apart at its colons in one way only.
-/
set_option autoImplicit false

namespace ClickGrant

/-- A number is read off its decimal. -/
theorem toDigits_inj {m n : Nat} (h : Nat.toDigits 10 m = Nat.toDigits 10 n) : m = n :=
  calc m = Nat.ofDigitChars 10 (Nat.toDigits 10 m) 0 := Nat.ofDigitChars_ten_toDigits.symm
    _ = Nat.ofDigitChars 10 (Nat.toDigits 10 n) 0 := by rw [h]
    _ = n := Nat.ofDigitChars_ten_toDigits

/-- A decimal has no colon in it. -/
theorem colon_notMem_toDigits (n : Nat) : ':' ∉ Nat.toDigits 10 n := by
  intro h
  have := Nat.isDigit_of_mem_toDigits (by decide) (by decide) h
  simp at this

/-- What stands before the first colon. -/
theorem append_colon_inj {a b : List Char} (ha : ':' ∉ a) (hb : ':' ∉ b) {x y : List Char}
    (h : a ++ ':' :: x = b ++ ':' :: y) : a = b ∧ x = y := by
  -- both texts are read in step until one of them comes to its colon
  induction a generalizing b with
  | nil =>
    cases b with
    | nil => exact ⟨rfl, by simpa using h⟩
    | cons c b => simp at h; exact absurd h.1 (by intro e; simp [← e] at hb)
  | cons c a ih =>
    cases b with
    | nil => simp at h; exact absurd h.1 (by intro e; simp [e] at ha)
    | cons d b =>
      simp only [List.cons_append, List.cons.injEq] at h
      obtain ⟨rfl, rest⟩ := h
      obtain ⟨rfl, rfl⟩ := ih (fun hm => ha (.tail _ hm)) (fun hm => hb (.tail _ hm)) rest
      exact ⟨rfl, rfl⟩

theorem toList_saveKey (token : Token) (serial : UInt64) :
    (saveKey token serial).toList = "save_revoke".toList ++
      ':' :: (Nat.toDigits 10 token.toNat ++ ':' :: Nat.toDigits 10 serial.toNat) := by
  show ("save_revoke:" ++ toString token.toNat ++ ":" ++ toString serial.toNat).toList = _
  simp [String.toList_append]

theorem toList_backgroundKey (token : Token) :
    (backgroundKey token).toList = "full_revoke".toList ++ ':' :: Nat.toDigits 10 token.toNat := by
  show ("full_revoke:" ++ toString token.toNat).toList = _
  simp [String.toList_append]

theorem saveKey_inj {token token' : Token} {serial serial' : UInt64} :
    saveKey token serial = saveKey token' serial' ↔ token = token' ∧ serial = serial' := by
  constructor
  · intro h
    have h := congrArg String.toList h
    rw [toList_saveKey, toList_saveKey] at h
    -- the name falls away at the first colon, and the identity's decimal at the second
    obtain ⟨-, h⟩ := append_colon_inj (by decide) (by decide) h
    obtain ⟨ht, hs⟩ := append_colon_inj (colon_notMem_toDigits _) (colon_notMem_toDigits _) h
    exact ⟨UInt32.toNat_inj.mp (toDigits_inj ht), UInt64.toNat_inj.mp (toDigits_inj hs)⟩
  · intro h; rw [h.1, h.2]

theorem backgroundKey_inj {token token' : Token} :
    backgroundKey token = backgroundKey token' ↔ token = token' := by
  constructor
  · intro h
    have h := congrArg String.toList h
    rw [toList_backgroundKey, toList_backgroundKey] at h
    obtain ⟨-, h⟩ := append_colon_inj (by decide) (by decide) h
    exact UInt32.toNat_inj.mp (toDigits_inj h)
  · intro h; rw [h]

@[simp] theorem saveKey_ne_backgroundKey (token token' : Token) (serial : UInt64) :
    saveKey token serial ≠ backgroundKey token' := by
  intro h
  have h := congrArg String.toList h
  rw [toList_saveKey, toList_backgroundKey] at h
  obtain ⟨names, -⟩ := append_colon_inj (by decide) (by decide) h
  exact absurd names (by decide)

@[simp] theorem saveKey_ne_idleKey (token : Token) (serial : UInt64) :
    saveKey token serial ≠ idleKey := by
  intro h
  have colon : ':' ∈ idleKey.toList := by rw [← h, toList_saveKey]; simp
  exact absurd colon (by decide)

@[simp] theorem backgroundKey_ne_idleKey (token : Token) : backgroundKey token ≠ idleKey := by
  intro h
  have colon : ':' ∈ idleKey.toList := by rw [← h, toList_backgroundKey]; simp
  exact absurd colon (by decide)

namespace TimerEvent

/-- A key belongs to one event only. -/
theorem key_inj {e e' : TimerEvent} : e.key = e'.key ↔ e = e' := by
  cases e <;> cases e' <;>
    simp [key, saveKey_inj, backgroundKey_inj, (saveKey_ne_backgroundKey _ _ _).symm,
      (saveKey_ne_idleKey _ _).symm, (backgroundKey_ne_idleKey _).symm]

end TimerEvent

end ClickGrant
