/-!
# Arithmetic that stops at the ends

Times are unsigned 64-bit milliseconds. A deadline beyond the last representable time is that
time, and a moment before the first one is the first one.
-/
set_option autoImplicit false

namespace ClickGrant

/-- The last representable time. -/
def lastTime : UInt64 := (0 : UInt64) - 1

/-- `a - b`, or zero if that is negative. -/
def saturatingSub (a b : UInt64) : UInt64 := if a < b then 0 else a - b

/-- `a + b`, or the last time if that is beyond it. -/
def saturatingAdd (a b : UInt64) : UInt64 := if a + b < a then lastTime else a + b

theorem toNat_saturatingSub (a b : UInt64) : (saturatingSub a b).toNat = a.toNat - b.toNat := by
  unfold saturatingSub
  split
  next h => have := UInt64.lt_iff_toNat_lt.mp h; rw [Nat.sub_eq_zero_of_le (Nat.le_of_lt this)]; rfl
  next h =>
    have h : b ≤ a := UInt64.not_lt.mp h
    exact UInt64.toNat_sub_of_le a b h

theorem toNat_saturatingAdd (a b : UInt64) :
    (saturatingAdd a b).toNat = min (a.toNat + b.toNat) (UInt64.size - 1) := by
  have size : UInt64.size = 18446744073709551616 := rfl
  have ha := a.toNat_lt
  have hb := b.toNat_lt
  unfold saturatingAdd
  split
  next h =>
    rw [UInt64.lt_iff_toNat_lt, UInt64.toNat_add] at h
    have : lastTime.toNat = UInt64.size - 1 := by decide
    omega
  next h =>
    rw [UInt64.lt_iff_toNat_lt, UInt64.toNat_add] at h
    rw [UInt64.toNat_add]
    omega

end ClickGrant
