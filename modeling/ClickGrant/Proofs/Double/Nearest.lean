import ClickGrant.Proofs.Double.Arithmetic

/-!
# The nearest double

`nearest`, which puts a word together from any mantissa and exponent, rounds as the operations on doubles
do: `nearest_rounds`.
-/
set_option autoImplicit false

namespace ClickGrant.Decimal

open Float.Model (Format UnpackedFloat)

/-- Rounding a mantissa goes to one of the two neighbours. -/
theorem neighbour_shiftRound (m d : Nat) : Neighbour m d (shiftRound m d) True := by
  unfold shiftRound
  have floor : m / Nat.pow 2 d = m / 2 ^ d := rfl
  dsimp only
  rw [floor]
  constructor
  · split <;> omega
  · split <;> omega
  · intro _ whole
    have rest : m % Nat.pow 2 d = 0 := Nat.mod_eq_zero_of_dvd whole
    have unit : 0 < Nat.pow 2 d := Nat.two_pow_pos d
    rw [rest, if_neg (by omega)]

theorem place_ofNat {word : Nat} (h : word < 2 ^ 64) :
    place (Float.ofBits (UInt64.ofNat word)) = (Value.ofBits word).place := by
  have unpacked := packed_unpack (UInt64.ofNat word).toBitVec
  have same : (UInt64.ofNat word).toBitVec.toNat = word := by
    show word % 2 ^ 64 = word
    exact Nat.mod_eq_of_lt h
  calc place (Float.ofBits (UInt64.ofNat word))
      = (placeOf (UnpackedFloat.unpack Format.binary64 (UInt64.ofNat word).toBitVec)).map clip :=
        place_ofModel unpacked.inForm
    _ = placeOf (UnpackedFloat.unpack Format.binary64 (UInt64.ofNat word).toBitVec) := clip_placeOf unpacked
    _ = (Value.ofBits word).place := by rw [placeOf, Value.ofUnpacked_unpack, same]

/-- The word of a rounded number. -/
theorem place_word {m d T r i j : Nat} {e : Int} (n : Neighbour m d r True) (pos : 0 < m)
    (aimed : e + d = target m e) (top : target m e = T + minExponent) (units : T + j = d + i) :
    ∃ p, (Value.ofBits (min (r + T * 2 ^ 52) (2047 * 2 ^ 52))).place = some p ∧
      Rounds (m * 2 ^ i : Nat) (2 ^ j : Nat) p := by
  obtain ⟨upper, lower⟩ := floor_bounds (.inl pos) aimed
  have floor := n.floor
  have digits : r ≤ 2 ^ 53 := Nat.le_trans n.ceil upper
  have leading : T = 0 ∨ 2 ^ 52 ≤ r := by omega
  have rounds : Rounds (m * 2 ^ i : Nat) (2 ^ j : Nat) (r * 2 ^ T : Nat) := by
    apply Rounds.of_natAbs (Nat.two_pow_pos j) _ _ false
    · intro u rep le
      apply n.keeps_below (.inl pos) aimed top units rep
      exact Nat.lt_of_le_of_lt le (Nat.mul_lt_mul_of_pos_right (Nat.lt_succ_self m) (Nat.two_pow_pos i))
    · intro u rep le
      exact n.keeps_above (.inl pos) aimed top units rep le (absurd trivial)
  have here := Value.place_ofBits false digits leading
  rw [if_neg Bool.false_ne_true, Nat.zero_add] at here
  refine ⟨_, here, ?_⟩
  have clipped := rounds.clip
  have number : clip (r * 2 ^ T : Nat) = Value.signed false (min ((r : Int) * 2 ^ T) Value.horizon) := by
    rw [← clip_signed false (Int.mul_nonneg (Int.natCast_nonneg r) (Int.le_of_lt (Int.pow_pos (by decide))))]
    push_cast
    rfl
  rwa [number] at clipped

/-- `nearest` rounds, as the operations on doubles do. -/
theorem nearest_rounds {m i j : Nat} {e : Int} (pos : 0 < m) (units : e - minExponent = (i : Int) - j) :
    ∃ p, place (nearest m e) = some p ∧ Rounds (m * 2 ^ i : Nat) (2 ^ j : Nat) p := by
  have low : max (e + bitLength m - 53) minExponent = target m e := by
    unfold bitLength target
    rw [if_neg pos.ne']
    push_cast
    congr 2
    omega
  have least : minExponent ≤ target m e := Int.le_max_right _ _
  obtain ⟨T, top⟩ : ∃ T : Nat, target m e = T + minExponent := ⟨(target m e - minExponent).toNat, by omega⟩
  have shift : (target m e - minExponent).toNat = T := by omega
  unfold nearest nearestBits
  dsimp only
  rw [if_neg pos.ne', low, shift, place_ofNat (Nat.lt_of_le_of_lt (Nat.min_le_right _ _) (by decide))]
  by_cases coarse : target m e ≤ e
  · rw [if_pos coarse]
    obtain ⟨k, append⟩ : ∃ k : Nat, e - target m e = k := ⟨(e - target m e).toNat, by omega⟩
    obtain ⟨l, rfl⟩ : ∃ l, i = k + l := ⟨i - k, by omega⟩
    have same := target_append pos k e
    have number : m * 2 ^ (k + l) = m * 2 ^ k * 2 ^ l := by ring
    rw [append, Int.toNat_natCast, number]
    have itself : Neighbour (m * 2 ^ k) 0 (m * 2 ^ k) True := by
      constructor <;> simp
    exact place_word (e := e - k) itself (Nat.mul_pos pos (Nat.two_pow_pos k)) (by omega) (by omega) (by omega)
  · rw [if_neg coarse]
    exact place_word (neighbour_shiftRound m (target m e - e).toNat) pos (by omega) top (by omega)

end ClickGrant.Decimal
