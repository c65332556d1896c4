import ClickGrant.Proofs.Double.Arithmetic

/-!
# Doubles on a grid

Coordinates on a display are numbers of 256ths. Sums, differences and halves of them are exact, since
their doubles have digits to spare; counted are eighths of a 256th, so that half a 256th and a bit more
is on the grid too.
-/
set_option autoImplicit false

namespace ClickGrant.Decimal

/-- The place of an eighth of a 256th. -/
def eighth : Nat := 2 ^ 1063

theorem unit_eq : unit = 2048 * eighth := by
  have power : 2048 = 2 ^ 11 := rfl
  rw [unit_eq_two_pow, eighth, power, ← Nat.pow_add]

theorem eighth_pos : 0 < eighth := by
  have pos := unit_pos
  rw [unit_eq] at pos
  omega

/-- A number of 256ths, as coordinates on a display are, with digits to spare for a sum. -/
def OnGrid (x : Float) : Prop := ∃ n a : Int, n.natAbs ≤ 2 ^ 47 ∧ place x = some a ∧ 256 * a = n * unit

section Eighths

variable {x y : Float} {m n : Int}

theorem representable_eighths (small : n.natAbs < 2 ^ 53) : Representable (n * eighth).natAbs := by
  refine ⟨n.natAbs, 1063, small, by decide, ?_⟩
  rw [Int.natAbs_mul, Int.natAbs_natCast, eighth]

theorem at_eighths (small : n.natAbs < 2 ^ 53) (h : place x = some (n * eighth)) : At x (n * eighth) := by
  have := Rounds.representable_lt (representable_eighths small)
  exact ⟨h, by omega, by omega⟩

theorem OnGrid.at_eighths (h : OnGrid x) : ∃ n : Int, n.natAbs ≤ 2 ^ 47 ∧ At x ((8 * n) * eighth) := by
  obtain ⟨n, a, small, here, grid⟩ := h
  have scaled : a = 8 * n * eighth := by
    rw [unit_eq] at grid
    push_cast at grid
    have : 256 * a = 256 * (8 * n * eighth) := by rw [grid]; ring
    omega
  rw [scaled] at here
  exact ⟨n, small, Decimal.at_eighths (by omega) here⟩

theorem add_eighths (hx : At x (m * eighth)) (hy : At y (n * eighth)) (small : (m + n).natAbs < 2 ^ 53) :
    At (x + y) ((m + n) * eighth) := by
  obtain ⟨p, here, rounds⟩ := place_add hx hy
  rw [rounds.exact (representable_eighths small) (by push_cast; ring)] at here
  exact Decimal.at_eighths small here

theorem sub_eighths (hx : At x (m * eighth)) (hy : At y (n * eighth)) (small : (m - n).natAbs < 2 ^ 53) :
    At (x - y) ((m - n) * eighth) := by
  obtain ⟨p, here, rounds⟩ := place_sub hx hy
  rw [rounds.exact (representable_eighths small) (by push_cast; ring)] at here
  exact Decimal.at_eighths small here

theorem half_eighths (hx : At x (2 * m * eighth)) (small : m.natAbs < 2 ^ 53) : At (x / 2) (m * eighth) := by
  obtain ⟨p, here, rounds⟩ := place_half hx
  rw [rounds.exact (representable_eighths small) (by push_cast; ring)] at here
  exact Decimal.at_eighths small here

theorem zero_at : At 0 (0 * eighth) := by
  rw [Int.zero_mul]
  exact at_zero

end Eighths

end ClickGrant.Decimal
