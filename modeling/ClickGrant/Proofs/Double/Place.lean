import ClickGrant.Decimal.Binary
import Mathlib

/-!
# Doubles on the number line

Every finite double is a whole multiple of the smallest positive one. `Value.place` is this multiple,
with its sign; the infinities are put just outside of all finite doubles, and a NaN has no place. What is
proved:
  1. `ofUnpacked_unpack` — the fields of a word as the arithmetic of doubles takes them apart are those
     that `Value.ofBits` reads.
  2. `place_ofBits` — the place of a word that is put together from a mantissa and an exponent, also if
     the mantissa has one digit too many or the exponent is too large.
  3. `place_pack` — packing a result of the arithmetic keeps its place, and what lies beyond all finite
     doubles becomes an infinity.
-/
set_option autoImplicit false

namespace ClickGrant.Decimal

open Float.Model (Format UnpackedFloat)
open Float.Model.UnpackedFloat

/-! ## The fields of a word -/

theorem toNat_unpackMantissa (b : BitVec 64) :
    (@unpackMantissa Format.binary64 b).toNat = b.toNat % 2 ^ 52 := by
  simp [unpackMantissa, BitVec.extractLsb, Format.binary64]

theorem toNat_unpackExponent (b : BitVec 64) :
    (@unpackExponent Format.binary64 b).toNat = b.toNat / 2 ^ 52 % 2 ^ 11 := by
  simp [unpackExponent, BitVec.extractLsb, Format.binary64, Nat.shiftRight_eq_div_pow]

theorem toNat_unpackSign (b : BitVec 64) :
    (@unpackSign Format.binary64 b).toNat = b.toNat / 2 ^ 63 := by
  have bound := b.isLt
  show b.toNat >>> 63 % 2 ^ 1 = _
  rw [Nat.shiftRight_eq_div_pow]
  omega

/-- Whether a sign is the negative one. -/
def isNegative : Sign → Bool
  | .negative => true
  | .positive => false

theorem isNegative_ofBitVec (b : BitVec 64) :
    isNegative (Sign.ofBitVec (@unpackSign Format.binary64 b)) = decide (2 ^ 63 ≤ b.toNat) := by
  have sign := toNat_unpackSign b
  have bound := b.isLt
  by_cases high : 2 ^ 63 ≤ b.toNat
  · have one : @unpackSign Format.binary64 b = 1#1 := by
      apply BitVec.eq_of_toNat_eq
      rw [sign]
      show _ = 1
      omega
    rw [one, decide_eq_true high]
    rfl
  · have zero : @unpackSign Format.binary64 b = 0#1 := by
      apply BitVec.eq_of_toNat_eq
      rw [sign]
      show _ = 0
      omega
    rw [zero, decide_eq_false high]
    rfl

namespace Value

/-- What an unpacked double denotes. -/
def ofUnpacked : UnpackedFloat → Value
  | .notANumber => .nan
  | .infinity s => .infinite (isNegative s)
  | .zero s => .finite (isNegative s) 0 minExponent
  | .finite s m e _ => .finite (isNegative s) m e

/-- The three fields of a word. -/
theorem ofBits_eq (word : Nat) : ofBits word =
    if word / 2 ^ 52 % 2 ^ 11 = 2047 then
      if word % 2 ^ 52 = 0 then .infinite (decide (2 ^ 63 ≤ word)) else .nan
    else if word / 2 ^ 52 % 2 ^ 11 = 0 then
      .finite (decide (2 ^ 63 ≤ word)) (word % 2 ^ 52) minExponent
    else
      .finite (decide (2 ^ 63 ≤ word)) (2 ^ 52 + word % 2 ^ 52) ((word / 2 ^ 52 % 2 ^ 11 : Nat) - 1075) :=
  rfl

theorem ofUnpacked_unpack (b : BitVec 64) : ofUnpacked (unpack Format.binary64 b) = ofBits b.toNat := by
  have mantissa := toNat_unpackMantissa b
  have exponent := toNat_unpackExponent b
  have sign := isNegative_ofBitVec b
  have allOnes : @unpackExponent Format.binary64 b = -1#11 ↔ b.toNat / 2 ^ 52 % 2 ^ 11 = 2047 := by
    rw [← exponent]
    exact ⟨fun same => by rw [same]; rfl, fun same => BitVec.eq_of_toNat_eq same⟩
  have allZeros : @unpackExponent Format.binary64 b = 0#11 ↔ b.toNat / 2 ^ 52 % 2 ^ 11 = 0 := by
    rw [← exponent]
    exact ⟨fun same => by rw [same]; rfl, fun same => BitVec.eq_of_toNat_eq same⟩
  have noFraction : @unpackMantissa Format.binary64 b = 0#52 ↔ b.toNat % 2 ^ 52 = 0 := by
    rw [← mantissa]
    exact ⟨fun same => by rw [same]; rfl, fun same => BitVec.eq_of_toNat_eq same⟩
  rw [ofBits_eq]
  -- the questions that `unpack` asks, in their order
  change ofUnpacked
    (if @unpackExponent Format.binary64 b = -1#11 then (if @unpackMantissa Format.binary64 b = 0#52 then _ else _)
    else if @unpackExponent Format.binary64 b = 0#11 then dite (@unpackMantissa Format.binary64 b = 0#52) _ _
    else _) = _
  by_cases ones : b.toNat / 2 ^ 52 % 2 ^ 11 = 2047
  · rw [if_pos (allOnes.mpr ones), if_pos ones]
    by_cases zero : b.toNat % 2 ^ 52 = 0
    · rw [if_pos (noFraction.mpr zero), if_pos zero, ← sign]
      rfl
    · rw [if_neg (mt noFraction.mp zero), if_neg zero]
      rfl
  · rw [if_neg (mt allOnes.mp ones), if_neg ones]
    by_cases none : b.toNat / 2 ^ 52 % 2 ^ 11 = 0
    · rw [if_pos (allZeros.mpr none), if_pos none]
      by_cases zero : b.toNat % 2 ^ 52 = 0
      · rw [dif_pos (noFraction.mpr zero), zero, ← sign]
        rfl
      · rw [dif_neg (mt noFraction.mp zero)]
        show finite (isNegative _) (@unpackMantissa Format.binary64 b).toNat
          ((@unpackExponent Format.binary64 b).toNat - 1075 + 1) = _
        rw [sign, mantissa, exponent, none]
        rfl
    · have implicit : (1#1 ++ @unpackMantissa Format.binary64 b).toNat =
          2 ^ 52 + b.toNat % 2 ^ 52 := by
        rw [← mantissa, BitVec.toNat_append, ← Nat.shiftLeft_add_eq_or_of_lt (BitVec.isLt _)]
        rfl
      rw [if_neg (mt allZeros.mp none), if_neg none]
      show finite (isNegative _) (1#1 ++ @unpackMantissa Format.binary64 b).toNat
        ((@unpackExponent Format.binary64 b).toNat - 1075) = _
      rw [sign, implicit, exponent]

/-! ## Places -/

/-- `n` with a sign. -/
def signed (negative : Bool) (n : Int) : Int := if negative then -n else n

/-- Where the infinities are put: behind the largest double, which is less than `2 ^ 1024`. -/
def horizon : Int := 2 ^ 2098

theorem horizon_pos : 0 < horizon := Int.pow_pos (by decide)

/-- A number in units of the smallest positive double. -/
def place : Value → Option Int
  | nan => none
  | infinite negative => some (signed negative horizon)
  | finite negative mantissa exponent => some (signed negative (mantissa * 2 ^ (exponent - minExponent).toNat))

/-- A mantissa and an exponent as a word holds them: the leading digit is in its position unless the
exponent is the least one. -/
structure Canonical (mantissa : Nat) (exponent : Int) : Prop where
  digits : mantissa < 2 ^ 53
  least : minExponent ≤ exponent
  leading : 2 ^ 52 ≤ mantissa ∨ exponent = minExponent

theorem canonical_of_ofBits {word mantissa : Nat} {negative : Bool} {exponent : Int}
    (h : ofBits word = .finite negative mantissa exponent) : Canonical mantissa exponent ∧ exponent ≤ 971 := by
  have fraction : word % 2 ^ 52 < 2 ^ 52 := Nat.mod_lt _ (by decide)
  have field : word / 2 ^ 52 % 2 ^ 11 < 2 ^ 11 := Nat.mod_lt _ (by decide)
  have least : minExponent = -1074 := rfl
  rw [ofBits_eq] at h
  split at h
  · split at h <;> cases h
  next ordinary =>
    split at h
    · cases h
      exact ⟨⟨Nat.lt_trans fraction (by decide), Int.le_refl _, .inr rfl⟩, by decide⟩
    · cases h
      exact ⟨⟨by omega, by omega, .inl (Nat.le_add_right _ _)⟩, by omega⟩

/-- The fields of a word put together from its sign and the rest. -/
theorem ofBits_sign (negative : Bool) {rest : Nat} (small : rest < 2 ^ 63) :
    ofBits ((if negative then 2 ^ 63 else 0) + rest) =
      if rest / 2 ^ 52 = 2047 then
        if rest % 2 ^ 52 = 0 then .infinite negative else .nan
      else if rest / 2 ^ 52 = 0 then .finite negative (rest % 2 ^ 52) minExponent
      else .finite negative (2 ^ 52 + rest % 2 ^ 52) ((rest / 2 ^ 52 : Nat) - 1075) := by
  have field : ((if negative then 2 ^ 63 else 0) + rest) / 2 ^ 52 % 2 ^ 11 = rest / 2 ^ 52 := by
    cases negative <;> simp only [Bool.false_eq_true, if_true, if_false] <;> omega
  have fraction : ((if negative then 2 ^ 63 else 0) + rest) % 2 ^ 52 = rest % 2 ^ 52 := by
    cases negative <;> simp only [Bool.false_eq_true, if_true, if_false] <;> omega
  have sign : decide (2 ^ 63 ≤ (if negative then 2 ^ 63 else 0) + rest) = negative := by
    cases negative <;> simp
    omega
  rw [ofBits_eq, field, fraction, sign]

theorem place_finite (negative : Bool) (mantissa shift : Nat) (exponent : Int)
    (h : exponent = shift + minExponent) :
    (finite negative mantissa exponent).place = some (signed negative (mantissa * 2 ^ shift)) := by
  rw [place, h, Int.add_sub_cancel, Int.toNat_natCast]

/-- Nothing finite lies beyond the horizon. -/
theorem scaled_lt_horizon {mantissa shift : Nat} (digits : mantissa < 2 ^ 53) (h : shift ≤ 2045) :
    (mantissa : Int) * 2 ^ shift < horizon := by
  calc (mantissa : Int) * 2 ^ shift
      < 2 ^ 53 * 2 ^ shift := Int.mul_lt_mul_of_pos_right (by omega) (Int.pow_pos (by decide))
    _ ≤ 2 ^ 53 * 2 ^ 2045 := Int.mul_le_mul_of_nonneg_left (pow_le_pow_right₀ (by decide) h) (by decide)
    _ = horizon := by rw [← Int.pow_add]; rfl

theorem horizon_le_scaled {mantissa shift : Nat} (leading : 2 ^ 52 ≤ mantissa) (h : 2046 ≤ shift) :
    horizon ≤ (mantissa : Int) * 2 ^ shift := by
  calc horizon
      = 2 ^ 52 * 2 ^ 2046 := by rw [← Int.pow_add]; rfl
    _ ≤ 2 ^ 52 * 2 ^ shift := Int.mul_le_mul_of_nonneg_left (pow_le_pow_right₀ (by decide) h) (by decide)
    _ ≤ mantissa * 2 ^ shift := Int.mul_le_mul_of_nonneg_right (by omega) (Int.le_of_lt (Int.pow_pos (by decide)))

/-- A word is put together by adding the exponent to the mantissa, whose leading digit thereby becomes
part of the exponent. -/
theorem place_ofBits_of_lt {mantissa shift : Nat} (negative : Bool) (digits : mantissa < 2 ^ 53)
    (leading : shift = 0 ∨ 2 ^ 52 ≤ mantissa) :
    (ofBits ((if negative then 2 ^ 63 else 0) + min (mantissa + shift * 2 ^ 52) (2047 * 2 ^ 52))).place =
      some (signed negative (min (mantissa * 2 ^ shift) horizon)) := by
  rw [ofBits_sign negative (by omega)]
  by_cases far : 2046 ≤ shift
  · rw [Nat.min_eq_right (by omega), Int.min_eq_right (horizon_le_scaled (by omega) far)]
    rfl
  · rw [Nat.min_eq_left (by omega), Int.min_eq_left (Int.le_of_lt (scaled_lt_horizon digits (by omega))),
      if_neg (by omega)]
    by_cases normal : 2 ^ 52 ≤ mantissa
    · have field : (mantissa + shift * 2 ^ 52) / 2 ^ 52 = shift + 1 := by omega
      have fraction : 2 ^ 52 + (mantissa + shift * 2 ^ 52) % 2 ^ 52 = mantissa := by omega
      rw [field, fraction, if_neg (by omega)]
      exact place_finite _ _ _ _ (by unfold minExponent; omega)
    · have unshifted : shift = 0 := by omega
      have fraction : (mantissa + shift * 2 ^ 52) % 2 ^ 52 = mantissa := by omega
      rw [fraction, if_pos (by omega)]
      exact place_finite _ _ _ _ (by omega)

/-- A carry into a digit before the leading one moves into the exponent as well. -/
theorem place_ofBits {mantissa shift : Nat} (negative : Bool) (digits : mantissa ≤ 2 ^ 53)
    (leading : shift = 0 ∨ 2 ^ 52 ≤ mantissa) :
    (ofBits ((if negative then 2 ^ 63 else 0) + min (mantissa + shift * 2 ^ 52) (2047 * 2 ^ 52))).place =
      some (signed negative (min (mantissa * 2 ^ shift) horizon)) := by
  by_cases carry : mantissa = 2 ^ 53
  · have same : mantissa + shift * 2 ^ 52 = 2 ^ 52 + (shift + 1) * 2 ^ 52 := by omega
    have double : (mantissa : Int) * 2 ^ shift = (2 ^ 52 : Nat) * 2 ^ (shift + 1) := by
      rw [carry, Int.pow_succ]
      push_cast
      ring
    rw [same, double]
    exact place_ofBits_of_lt negative (by decide) (.inr (Nat.le_refl _))
  · exact place_ofBits_of_lt negative (by omega) leading

end Value

/-! ## Packing -/

/-- A result in canonical form, though its exponent may be too large for a word. -/
def InForm : UnpackedFloat → Prop
  | .finite _ mantissa exponent _ => Value.Canonical mantissa exponent
  | _ => True

/-- Where an unpacked double stands. -/
def placeOf (u : UnpackedFloat) : Option Int := (Value.ofUnpacked u).place

theorem toNat_packComponents (s : Sign) (e : BitVec 11) (m : BitVec 52) :
    (packComponents Format.binary64 s e m).toNat =
      (if isNegative s then 2 ^ 63 else 0) + (m.toNat + e.toNat * 2 ^ 52) := by
  have hm := m.isLt
  have he := e.isLt
  have flat : (packComponents Format.binary64 s e m).toNat =
      (s.toBitVec.toNat * 2 ^ 11 + e.toNat) * 2 ^ 52 + m.toNat := by
    unfold packComponents
    rw [BitVec.toNat_append, BitVec.toNat_append, ← Nat.shiftLeft_add_eq_or_of_lt he,
      ← Nat.shiftLeft_add_eq_or_of_lt hm, Nat.shiftLeft_eq, Nat.shiftLeft_eq]
  rw [flat]
  cases s with
  | negative =>
    show ((1#1).toNat * 2 ^ 11 + e.toNat) * 2 ^ 52 + m.toNat = 2 ^ 63 + (m.toNat + e.toNat * 2 ^ 52)
    rw [show (1#1).toNat = 1 from rfl]
    omega
  | positive =>
    show ((0#1).toNat * 2 ^ 11 + e.toNat) * 2 ^ 52 + m.toNat = 0 + (m.toNat + e.toNat * 2 ^ 52)
    rw [show (0#1).toNat = 0 from rfl]
    omega

theorem toNat_pack_finite (s : Sign) {m : Nat} {e : Int} (pos : 0 < m) (h : Value.Canonical m e) :
    (pack Format.binary64 (.finite s m e pos)).toNat =
      (if isNegative s then 2 ^ 63 else 0) + min (m + (e - minExponent).toNat * 2 ^ 52) (2047 * 2 ^ 52) := by
  obtain ⟨digits, least, leading⟩ := h
  have bias : (e + 1023 + 52).toNat = (e - minExponent).toNat + 1 := by
    unfold minExponent at *
    omega
  have fields : pack Format.binary64 (.finite s m e pos) =
      if 2 ^ 11 ≤ (e + 1023 + 52).toNat + 1 then packedInfinity Format.binary64 s
      else if m.log2 + 1 = 53 then
        packComponents Format.binary64 s (BitVec.ofNat 11 (e + 1023 + 52).toNat) (BitVec.ofNat 52 m)
      else packComponents Format.binary64 s 0#11 (BitVec.ofNat 52 m) := rfl
  rw [fields, bias]
  by_cases large : 2 ^ 11 ≤ (e - minExponent).toNat + 1 + 1
  · rw [if_pos large, packedInfinity, toNat_packComponents, Nat.min_eq_right (by unfold minExponent at *; omega)]
    rfl
  · rw [if_neg large, Nat.min_eq_left (by omega)]
    by_cases normal : 2 ^ 52 ≤ m
    · have length : m.log2 + 1 = 53 := by
        have lower : 52 ≤ m.log2 := (Nat.le_log2 (by omega)).mpr normal
        have upper : m.log2 < 53 := (Nat.log2_lt (by omega)).mpr digits
        omega
      rw [if_pos length, toNat_packComponents, BitVec.toNat_ofNat, BitVec.toNat_ofNat]
      omega
    · have length : ¬m.log2 + 1 = 53 := by
        have upper : m.log2 < 52 := (Nat.log2_lt (by omega)).mpr (by omega)
        omega
      rw [if_neg length, toNat_packComponents, BitVec.toNat_ofNat]
      show _ = _ + (m + _)
      rw [show (0#11).toNat = 0 from rfl]
      unfold minExponent at *
      omega

/-- What lies beyond all finite doubles is an infinity. -/
def clip (n : Int) : Int := max (-Value.horizon) (min n Value.horizon)

theorem clip_signed (negative : Bool) {n : Int} (h : 0 ≤ n) :
    clip (Value.signed negative n) = Value.signed negative (min n Value.horizon) := by
  have pos := Value.horizon_pos
  unfold clip Value.signed
  generalize Value.horizon = far at *
  cases negative <;> simp only [Bool.false_eq_true, if_true, if_false] <;> omega

theorem Value.signed_lt (negative : Bool) {n : Int} (lower : 0 ≤ n) (upper : n < Value.horizon) :
    -Value.horizon < Value.signed negative n ∧ Value.signed negative n < Value.horizon := by
  cases negative <;> simp only [Value.signed, if_true, Bool.false_eq_true, if_false] <;> omega

theorem clip_of_lt {n : Int} (lower : -Value.horizon ≤ n) (upper : n ≤ Value.horizon) : clip n = n := by
  unfold clip
  omega

theorem place_pack {u : UnpackedFloat} (h : InForm u) :
    (Value.ofBits (pack Format.binary64 u).toNat).place = (placeOf u).map clip := by
  have pos := Value.horizon_pos
  cases u with
  | notANumber => rfl
  | infinity s =>
    have word : (pack Format.binary64 (.infinity s)).toNat =
        (if isNegative s then 2 ^ 63 else 0) + 2047 * 2 ^ 52 := by cases s <;> rfl
    rw [word, Value.ofBits_sign _ (by decide)]
    show some (Value.signed (isNegative s) Value.horizon) = some (clip (Value.signed (isNegative s) Value.horizon))
    rw [clip_signed _ (Int.le_of_lt pos), Int.min_self]
  | zero s =>
    have word : (pack Format.binary64 (.zero s)).toNat =
        (if isNegative s then 2 ^ 63 else 0) + 0 := by cases s <;> rfl
    rw [word, Value.ofBits_sign _ (by decide)]
    show some (Value.signed (isNegative s) (0 * 2 ^ 0)) = some (clip (Value.signed (isNegative s) (0 * 2 ^ 0)))
    rw [Int.zero_mul, clip_signed _ (Int.le_refl _), Int.min_eq_left (Int.le_of_lt pos)]
  | finite s m e positive =>
    rw [toNat_pack_finite s positive h, Value.place_ofBits _ (by have := h.digits; omega)]
    · show _ = some (clip _)
      rw [clip_signed _ (Int.mul_nonneg (by omega) (Int.le_of_lt (Int.pow_pos (by decide))))]
    · have := h.leading
      omega

/-- What a word can hold. -/
def Packed : UnpackedFloat → Prop
  | .finite _ mantissa exponent _ => Value.Canonical mantissa exponent ∧ exponent ≤ 971
  | _ => True

theorem placeOf_zero (s : Sign) : placeOf (.zero s) = some 0 := by cases s <;> rfl

theorem Packed.inForm {u : UnpackedFloat} (h : Packed u) : InForm u := by
  cases u with
  | finite s m e pos => exact h.1
  | _ => trivial

theorem packed_unpack (b : BitVec 64) : Packed (unpack Format.binary64 b) := by
  have same := Value.ofUnpacked_unpack b
  generalize unpack Format.binary64 b = u at same
  cases u with
  | finite s m e pos => exact Value.canonical_of_ofBits same.symm
  | _ => trivial

theorem placeOf_finite (s : Sign) {m : Nat} {e : Int} (pos : 0 < m) :
    placeOf (.finite s m e pos) = some (Value.signed (isNegative s) (m * 2 ^ (e - minExponent).toNat)) := rfl

theorem scaled_pos {m : Nat} (pos : 0 < m) (shift : Nat) : (0 : Int) < m * 2 ^ shift :=
  Int.mul_pos (by omega) (Int.pow_pos (by decide))

theorem scaled_lt {m : Nat} {e : Int} (h : Value.Canonical m e ∧ e ≤ 971) :
    (m : Int) * 2 ^ (e - minExponent).toNat < Value.horizon :=
  Value.scaled_lt_horizon h.1.digits (by unfold minExponent; omega)

/-- A word holds nothing beyond the infinities. -/
theorem clip_placeOf {u : UnpackedFloat} (h : Packed u) : (placeOf u).map clip = placeOf u := by
  have far := Value.horizon_pos
  cases u with
  | notANumber => rfl
  | infinity s => exact congrArg some (by rw [clip_signed _ (Int.le_of_lt far), Int.min_self])
  | zero s =>
    rw [placeOf_zero]
    exact congrArg some (clip_of_lt (by omega) (Int.le_of_lt far))
  | finite s m e pos =>
    have bounds := Value.signed_lt (isNegative s) (Int.le_of_lt (scaled_pos pos _)) (scaled_lt h)
    exact congrArg some (clip_of_lt (Int.le_of_lt bounds.1) (Int.le_of_lt bounds.2))

end ClickGrant.Decimal
