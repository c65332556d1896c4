import ClickGrant.Proofs.Double.Rounding

/-!
# Arithmetic of doubles

Sums, differences, products and quotients of finite doubles are rounded (`place_add`, `place_sub`,
`place_mul`, `place_div`), whole numbers are exact (`at_toFloat`), and a sum with an infinity is this
infinity if it is anything.
-/
set_option autoImplicit false

namespace ClickGrant.Decimal

open Float.Model (Format UnpackedFloat totalExponent)
open Float.Model.UnpackedFloat

/-! ## Sums -/

theorem apply_eq (s : Sign) (n : Int) : s.apply n = Value.signed (isNegative s) n := by cases s <;> rfl

theorem signed_mul (negative : Bool) (n k : Int) : Value.signed negative (n * k) = Value.signed negative n * k := by
  cases negative
  · rfl
  · exact (Int.neg_mul n k).symm

/-- The terms of a sum are brought to one exponent, which loses nothing. -/
theorem aligned {m : Nat} {e low : Int} (s : Sign) (least : minExponent ≤ low) (h : low ≤ e) :
    Value.signed (isNegative s) (m * 2 ^ (e - minExponent).toNat) =
      s.apply (decreaseExponent m e low).1 * 2 ^ (low - minExponent).toNat := by
  have split : (e - minExponent).toNat = (e - low).toNat + (low - minExponent).toNat := by omega
  show _ = s.apply (m <<< (e - low).toNat : Nat) * _
  rw [apply_eq, ← signed_mul, split, Nat.shiftLeft_eq, pow_add]
  push_cast
  rw [Int.mul_assoc]

theorem add_correct {u v : UnpackedFloat} {a b : Int} (hu : Packed u) (hv : Packed v) (ha : placeOf u = some a)
    (hb : placeOf v = some b) (finite_a : u.isFinite = true) (finite_b : v.isFinite = true) :
    Correct (UnpackedFloat.add Format.binary64 u v) (a + b) 1 := by
  cases u with
  | notANumber => cases finite_a
  | infinity s => cases finite_a
  | zero s =>
    rw [placeOf_zero] at ha
    cases ha
    cases v with
    | notANumber => cases finite_b
    | infinity t => cases finite_b
    | zero t =>
      rw [placeOf_zero] at hb
      cases hb
      cases s <;> cases t <;> exact ⟨trivial, 0, rfl, .whole 0⟩
    | finite t n f pos =>
      rw [Int.zero_add]
      exact ⟨hv.1, b, hb, .whole b⟩
  | finite s m e pos =>
    cases v with
    | notANumber => cases finite_b
    | infinity t => cases finite_b
    | zero t =>
      rw [placeOf_zero] at hb
      cases hb
      rw [Int.add_zero]
      exact ⟨hu.1, a, ha, .whole a⟩
    | finite t n f positive =>
      cases ha
      cases hb
      have least : minExponent ≤ min e f := le_min hu.1.least hv.1.least
      -- on the smaller exponent both are whole, and only their sum is rounded
      rw [aligned s least (min_le_left e f), aligned t least (min_le_right e f), ← Int.add_mul]
      exact normalize_correct _ .positive (by omega)

theorem isNegative_neg (s : Sign) : isNegative (-s) = !isNegative s := by cases s <;> rfl

theorem signed_not (negative : Bool) (n : Int) : Value.signed (!negative) n = -Value.signed negative n := by
  cases negative
  · rfl
  · exact (Int.neg_neg n).symm

/-- A difference is a sum. -/
theorem sub_eq_add (u v : UnpackedFloat) :
    UnpackedFloat.sub Format.binary64 u v = UnpackedFloat.add Format.binary64 u v.neg := by
  cases u with
  | finite s m e pos =>
    cases v with
    | finite t n f positive =>
      have term : ∀ k : Nat, (-t).apply k = -t.apply k := by
        intro k
        cases t
        · exact (Int.neg_neg _).symm
        · rfl
      simp only [UnpackedFloat.sub, UnpackedFloat.neg, UnpackedFloat.add, term, Int.sub_eq_add_neg]
    | _ => rfl
  | _ => cases v <;> rfl

theorem placeOf_neg (u : UnpackedFloat) : placeOf u.neg = (placeOf u).map fun a => -a := by
  cases u with
  | notANumber => rfl
  | infinity s => exact congrArg some (by rw [isNegative_neg, signed_not])
  | zero s => cases s <;> rfl
  | finite s m e pos => exact congrArg some (by rw [isNegative_neg, signed_not])

theorem packed_neg {u : UnpackedFloat} (h : Packed u) : Packed u.neg := by
  cases u with
  | finite s m e pos => exact h
  | _ => trivial

/-! ## Products and quotients -/

theorem zero_correct (s : Sign) {den : Nat} (pos : 0 < den) : Correct (.zero s) 0 den := by
  refine ⟨trivial, 0, placeOf_zero s, ?_⟩
  refine Rounds.of_natAbs (N := 0) (P := 0) pos ?_ (fun _ _ => Nat.zero_le _) false
  intro u _ le
  exact Nat.le_zero.mpr ((Nat.mul_eq_zero.mp (Nat.le_zero.mp le)).resolve_right pos.ne')

/-- The place of 1. -/
def unit : Nat := 2 ^ (-minExponent).toNat

theorem unit_pos : 0 < unit := Nat.two_pow_pos _

theorem unit_eq_two_pow : unit = 2 ^ 1074 := by
  have least : (-minExponent).toNat = 1074 := rfl
  rw [unit, least]

/-- The product of two mantissas has enough digits. -/
theorem short_mul {m n : Nat} {e f : Int} (hm : Value.Canonical m e) (hn : Value.Canonical n f) (pos : 0 < m)
    (positive : 0 < n) : e + f ≤ target (m * n) (e + f) := by
  unfold target
  by_cases subnormal : e = minExponent ∧ f = minExponent
  · have : minExponent ≤ 0 := by decide
    omega
  · have digits : 2 ^ 52 ≤ m * n := by
      by_cases first : e = minExponent
      · have leading : 2 ^ 52 ≤ n := hn.leading.resolve_right (by omega)
        exact Nat.le_trans leading (Nat.le_mul_of_pos_left n pos)
      · have leading : 2 ^ 52 ≤ m := hm.leading.resolve_right first
        exact Nat.le_trans leading (Nat.le_mul_of_pos_right m positive)
    have : 52 ≤ (m * n).log2 := (Nat.le_log2 (Nat.mul_pos pos positive).ne').mpr digits
    omega

theorem signed_mul_signed (s t : Sign) (a b : Int) :
    Value.signed (isNegative s) a * Value.signed (isNegative t) b = Value.signed (isNegative (s * t)) (a * b) := by
  cases s <;> cases t
  · exact Int.neg_mul_neg a b
  · exact Int.neg_mul a b
  · exact Int.mul_neg a b
  · rfl

theorem mul_correct {u v : UnpackedFloat} {a b : Int} (hu : Packed u) (hv : Packed v) (ha : placeOf u = some a)
    (hb : placeOf v = some b) (finite_a : u.isFinite = true) (finite_b : v.isFinite = true) :
    Correct (UnpackedFloat.mul Format.binary64 u v) (a * b) unit := by
  have den : 0 < unit := unit_pos
  cases u with
  | notANumber => cases finite_a
  | infinity s => cases finite_a
  | zero s =>
    rw [placeOf_zero] at ha
    cases ha
    rw [Int.zero_mul]
    cases v with
    | notANumber => cases finite_b
    | infinity t => cases finite_b
    | zero t => exact zero_correct _ den
    | finite t n f pos => exact zero_correct _ den
  | finite s m e pos =>
    cases v with
    | notANumber => cases finite_b
    | infinity t => cases finite_b
    | zero t =>
      rw [placeOf_zero] at hb
      cases hb
      rw [Int.mul_zero]
      exact zero_correct _ den
    | finite t n f positive =>
      cases ha
      cases hb
      have leastE := hu.1.least
      have leastF := hv.1.least
      have exponents : e + f - minExponent =
          (((e - minExponent).toNat + (f - minExponent).toNat : Nat) : Int) - ((-minExponent).toNat : Nat) := by
        unfold minExponent at *
        omega
      have number : (m : Int) * 2 ^ (e - minExponent).toNat * (n * 2 ^ (f - minExponent).toNat) =
          (m * n * 2 ^ ((e - minExponent).toNat + (f - minExponent).toNat) : Nat) := by
        push_cast
        ring
      rw [signed_mul_signed, number]
      refine roundWithAccuracy_correct (s * t) (.inl (Nat.mul_pos pos positive)) den
        (short_mul hu.1 hv.1 pos positive) exponents ?_ ?_ ?_
      · exact Nat.le_refl _
      · intro inexact
        exact absurd rfl inexact
      · exact Nat.mul_lt_mul_of_pos_right (Nat.mul_lt_mul_of_pos_right (Nat.lt_succ_self _) (Nat.two_pow_pos _)) den

/-- Division is one of mantissas: the dividend gets as many zeros as the quotient needs digits. -/
theorem div_eq (s : Sign) {m n : Nat} (pos : 0 < m) (positive : 0 < n) (e f : Int) :
    ∃ (t : Int) (k : Nat), t = min (e - f) (max (m.log2 - n.log2 + e - f - 53) minExponent) ∧ e - f = t + k ∧
      UnpackedFloat.div Format.binary64 (.finite s m e pos) (.finite .positive n f positive) =
        roundWithAccuracy Format.binary64 s (m * 2 ^ k / n) t (accuracyOfFraction (m * 2 ^ k % n) n) := by
  have goal : Format.binary64.targetExponent (totalExponent m e - totalExponent n f) =
      max (m.log2 - n.log2 + e - f - 53) minExponent := by
    show max (m.log2 + 1 + e - (n.log2 + 1 + f) - 53) minExponent = _
    congr 1
    omega
  refine ⟨min (e - f) (max (m.log2 - n.log2 + e - f - 53) minExponent),
    (e - f - min (e - f) (max (m.log2 - n.log2 + e - f - 53) minExponent)).toNat, rfl, by omega, ?_⟩
  have sign : s / .positive = s := by cases s <;> rfl
  unfold UnpackedFloat.div divCore
  simp only [goal, sign, Nat.shiftLeft_eq]

/-- A quotient has enough digits, or an exponent that is not beyond the least one. -/
theorem short_div {m n k : Nat} {e f t : Int} (pos : 0 < m) (positive : 0 < n) (digits : m < 2 ^ 53)
    (aimed : t = min (e - f) (max (m.log2 - n.log2 + e - f - 53) minExponent)) (shift : e - f = t + k) :
    t ≤ target (m * 2 ^ k / n) t ∧ (0 < m * 2 ^ k / n ∨ target (m * 2 ^ k / n) t = minExponent) := by
  by_cases subnormal : t ≤ minExponent
  · constructor
    · exact Int.le_trans subnormal (Int.le_max_right _ _)
    · rcases Nat.eq_zero_or_pos (m * 2 ^ k / n) with zero | quotient
      · right
        have : Nat.log2 0 = 0 := by decide
        rw [zero, target, this]
        omega
      · exact .inl quotient
  · have short : m.log2 < 53 := (Nat.log2_lt pos.ne').mpr digits
    have zeros : m.log2 + k = n.log2 + 53 := by omega
    have leading : 2 ^ 52 ≤ m * 2 ^ k / n := by
      rw [Nat.le_div_iff_mul_le positive]
      calc 2 ^ 52 * n ≤ 2 ^ 52 * 2 ^ (n.log2 + 1) := Nat.mul_le_mul_left _ (Nat.le_of_lt Nat.lt_log2_self)
        _ = 2 ^ m.log2 * 2 ^ k := by rw [← Nat.pow_add, ← Nat.pow_add]; congr 1; omega
        _ ≤ m * 2 ^ k := Nat.mul_le_mul_right _ (Nat.log2_self_le pos.ne')
    have quotient : 0 < m * 2 ^ k / n := by omega
    have : 52 ≤ (m * 2 ^ k / n).log2 := (Nat.le_log2 quotient.ne').mpr leading
    refine ⟨?_, .inl quotient⟩
    unfold target
    omega

/-- In units of `u`, a quotient that is rounded down. -/
theorem quotient_bounds (m : Nat) {n u : Nat} (positive : 0 < n) (pos : 0 < u) :
    m / n * n * u ≤ m * u ∧ (m % n ≠ 0 → m / n * n * u < m * u) ∧ m * u < (m / n + 1) * n * u := by
  have total : m / n * n + m % n = m := Nat.div_add_mod' m n
  have rest : m % n < n := Nat.mod_lt m positive
  refine ⟨?_, ?_, ?_⟩
  · exact Nat.mul_le_mul_right _ (by omega)
  · intro inexact
    exact Nat.mul_lt_mul_of_pos_right (by omega) pos
  · rw [Nat.add_mul (m / n) 1 n]
    exact Nat.mul_lt_mul_of_pos_right (by omega) pos

theorem div_correct {u v : UnpackedFloat} {a b : Int} (hu : Packed u) (hv : Packed v) (ha : placeOf u = some a)
    (hb : placeOf v = some b) (finite_a : u.isFinite = true) (finite_b : v.isFinite = true) (positive : 0 < b) :
    Correct (UnpackedFloat.div Format.binary64 u v) (a * unit) b.toNat := by
  have den : 0 < b.toNat := by omega
  cases v with
  | notANumber => cases finite_b
  | infinity t => cases finite_b
  | zero t =>
    rw [placeOf_zero] at hb
    cases hb
    omega
  | finite t n f pos_n =>
    cases u with
    | notANumber => cases finite_a
    | infinity s => cases finite_a
    | zero s =>
      rw [placeOf_zero] at ha
      cases ha
      rw [Int.zero_mul]
      exact zero_correct _ den
    | finite s m e pos =>
      cases ha
      cases hb
      cases t with
      | negative =>
        change 0 < -((n : Int) * 2 ^ _) at positive
        have := scaled_pos pos_n (f - minExponent).toNat
        omega
      | positive =>
        obtain ⟨t, k, aimed, shift, divided⟩ := div_eq s pos pos_n e f
        obtain ⟨short, live⟩ := short_div pos pos_n hu.1.digits aimed shift
        have leastE := hu.1.least
        have leastF := hv.1.least
        obtain ⟨i, j, units⟩ : ∃ i j : Nat, t - minExponent = (i : Int) - j :=
          ⟨(t - minExponent).toNat, (minExponent - t).toNat, by omega⟩
        -- the same number in both units
        have dividend : m * 2 ^ (e - minExponent).toNat * unit * 2 ^ j =
            m * 2 ^ k * 2 ^ ((f - minExponent).toNat + i) := by
          rw [unit, Nat.mul_assoc, Nat.mul_assoc, Nat.mul_assoc, ← Nat.pow_add, ← Nat.pow_add, ← Nat.pow_add]
          congr 2
          unfold minExponent at *
          omega
        have divisor : ∀ q : Nat, q * 2 ^ i * (n * 2 ^ (f - minExponent).toNat) =
            q * n * 2 ^ ((f - minExponent).toNat + i) := by
          intro q
          ring
        obtain ⟨lower, strict, upper⟩ :=
          quotient_bounds (m * 2 ^ k) pos_n (Nat.two_pow_pos ((f - minExponent).toNat + i))
        rw [← divisor, ← dividend] at lower strict upper
        have place_n : (Value.signed (isNegative .positive) (n * 2 ^ (f - minExponent).toNat)).toNat =
            n * 2 ^ (f - minExponent).toNat := by
          show ((n : Int) * 2 ^ _).toNat = _
          exact_mod_cast Int.toNat_natCast _
        have number : Value.signed (isNegative s) (m * 2 ^ (e - minExponent).toNat) * unit =
            Value.signed (isNegative s) (m * 2 ^ (e - minExponent).toNat * unit : Nat) := by
          rw [← signed_mul]
          push_cast
          rfl
        rw [divided, number, place_n]
        refine roundWithAccuracy_correct s live (Nat.mul_pos pos_n (Nat.two_pow_pos _)) short units lower ?_ upper
        intro inexact
        apply strict
        intro whole
        exact inexact (by rw [whole]; rfl)

theorem isFinite_neg {u : UnpackedFloat} (h : u.isFinite = true) : u.neg.isFinite = true := by
  cases u with
  | notANumber => cases h
  | infinity s => cases h
  | zero s => rfl
  | finite s m e pos => rfl

/-- An infinity is not moved by what is finite. -/
theorem add_infinity (s : Sign) {u : UnpackedFloat} (h : u.isFinite = true) :
    UnpackedFloat.add Format.binary64 (.infinity s) u = .infinity s := by
  cases u with
  | notANumber => cases h
  | infinity t => cases h
  | zero t => rfl
  | finite t m e pos => rfl

section Operations

variable {x y : Float} {a b : Int}

theorem At.isFinite (h : At x a) : x.toModel.unpack.isFinite = true := isFinite_iff.mpr ⟨a, h⟩

theorem Correct.place_ofModel {u : UnpackedFloat} {num : Int} {den : Nat} (h : Correct u num den) :
    ∃ p, place (Float.ofModel (Float.Model.pack u)) = some p ∧ Rounds num den p := by
  obtain ⟨form, p, here, rounds⟩ := h
  refine ⟨clip p, ?_, rounds.clip⟩
  rw [Decimal.place_ofModel form, here]
  rfl

theorem place_add (hx : At x a) (hy : At y b) : ∃ p, place (x + y) = some p ∧ Rounds (a + b) 1 p := by
  have hxp := hx.place
  have hyp := hy.place
  rw [place_eq] at hxp hyp
  exact (add_correct (packed x) (packed y) hxp hyp hx.isFinite hy.isFinite).place_ofModel

theorem place_sub (hx : At x a) (hy : At y b) : ∃ p, place (x - y) = some p ∧ Rounds (a - b) 1 p := by
  have hxp := hx.place
  have hyp := hy.place
  rw [place_eq] at hxp hyp
  have result := add_correct (packed x) (packed_neg (packed y)) hxp (by rw [placeOf_neg, hyp]; rfl) hx.isFinite
    (isFinite_neg hy.isFinite)
  rw [← sub_eq_add, ← Int.sub_eq_add_neg] at result
  exact result.place_ofModel

theorem place_mul (hx : At x a) (hy : At y b) : ∃ p, place (x * y) = some p ∧ Rounds (a * b) unit p := by
  have hxp := hx.place
  have hyp := hy.place
  rw [place_eq] at hxp hyp
  exact (mul_correct (packed x) (packed y) hxp hyp hx.isFinite hy.isFinite).place_ofModel

theorem unpack_two : ∃ pos, (2 : Float).toModel.unpack = .finite .positive (2 ^ 52) (-51) pos :=
  ⟨by decide, rfl⟩

theorem place_div (hx : At x a) (hy : At y b) (positive : 0 < b) :
    ∃ p, place (x / y) = some p ∧ Rounds (a * unit) b.toNat p := by
  have hxp := hx.place
  have hyp := hy.place
  rw [place_eq] at hxp hyp
  exact (div_correct (packed x) (packed y) hxp hyp hx.isFinite hy.isFinite positive).place_ofModel

theorem representable_whole {n : Nat} (small : n < 2 ^ 53) : Representable (n * unit) := by
  refine ⟨n, 1074, small, by omega, ?_⟩
  rw [unit_eq_two_pow]

theorem at_of_place_whole {n : Nat} (small : n < 2 ^ 53) (here : place x = some ((n : Int) * unit)) :
    At x (n * unit) := by
  have far := Rounds.representable_lt (representable_whole small)
  push_cast at far
  have lower : (0 : Int) ≤ n * unit := Int.mul_nonneg (Int.natCast_nonneg n) (Int.natCast_nonneg unit)
  exact ⟨here, by omega, far⟩

/-- A whole number that is converted to a double is multiplied by the power of ten that is its scale,
which is 1. -/
theorem at_toFloat {n : Nat} (small : n < 2 ^ 53) : At n.toFloat (n * unit) := by
  have rep : Representable (n * unit : Int).natAbs := by
    rw [← Int.natCast_mul, Int.natAbs_natCast]
    exact representable_whole small
  have word : n.toUInt64.toNat = n := Nat.mod_eq_of_lt (Nat.lt_trans small (by decide))
  have number : (n : Int) * unit = n * 2 ^ 1074 := by
    rw [unit_eq_two_pow, Nat.cast_pow, Nat.cast_ofNat]
  have converted : place n.toUInt64.toFloat = some ((n : Int) * unit) := by
    obtain ⟨p, here, rounds⟩ := (normalize_correct (n : Int) (e := 0) (i := 1074) .positive (by decide)).place_ofModel
    show place (Float.ofModel (Float.Model.pack
      (Float.Model.UnpackedFloat.normalize _ (n.toUInt64.toNat : Int) 0 .positive))) = _
    rw [word, here, rounds.exact rep (by rw [Int.natCast_one, Int.mul_one, number])]
  have one : At (Float.ofBits 0x3FF0000000000000) (1 * unit) :=
    at_of_place_whole (n := 1) (by decide) (by decide +kernel)
  have unfolded : n.toFloat = n.toUInt64.toFloat * Float.ofBits 0x3FF0000000000000 := by
    show Float.ofScientific n false 0 = _
    unfold Float.ofScientific
    rw [dif_pos ⟨small, by decide⟩]
    rfl
  obtain ⟨p, here, rounds⟩ := place_mul (at_of_place_whole small converted) one
  rw [rounds.exact rep (by ring)] at here
  rw [unfolded]
  exact at_of_place_whole small here

theorem place_half (hx : At x a) : ∃ p, place (x / 2) = some p ∧ Rounds a 2 p := by
  have pos : 0 < unit := unit_pos
  have atTwo : At 2 ((2 : Nat) * unit) := at_toFloat (n := 2) (by decide)
  obtain ⟨p, here, rounds⟩ := place_div hx atTwo (by omega)
  have two : ((2 : Nat) * unit : Int).toNat = 2 * unit := by omega
  rw [two] at rounds
  exact ⟨p, here, rounds.cancel pos⟩

theorem place_neg (x : Float) : place (-x) = (place x).map fun a => -a := by
  have opposite := packed_neg (packed x)
  calc place (-x) = (placeOf x.toModel.unpack.neg).map clip := place_ofModel opposite.inForm
    _ = placeOf x.toModel.unpack.neg := clip_placeOf opposite
    _ = (place x).map fun a => -a := by rw [placeOf_neg, place_eq]

theorem At.neg (h : At x a) : At (-x) (-a) := by
  have lower := h.lower
  have upper := h.upper
  exact ⟨by rw [place_neg, h.place]; rfl, by omega, by omega⟩

/-- A double with a place is finite or an infinity. -/
theorem at_or_infinite (h : place x = some a) :
    At x a ∨ ∃ s, x.toModel.unpack = .infinity s ∧ a = Value.signed (isNegative s) Value.horizon := by
  rw [place_eq] at h
  cases hx : x.toModel.unpack with
  | notANumber =>
    rw [hx] at h
    cases h
  | infinity s =>
    rw [hx] at h
    cases h
    exact .inr ⟨s, rfl, rfl⟩
  | zero s =>
    have finite := (placeOf_bounds (packed x) h).mp (by rw [hx]; rfl)
    exact .inl ⟨by rw [place_eq, h], finite.1, finite.2⟩
  | finite s m e pos =>
    have finite := (placeOf_bounds (packed x) h).mp (by rw [hx]; rfl)
    exact .inl ⟨by rw [place_eq, h], finite.1, finite.2⟩

theorem At.representable (h : At x a) : Representable a.natAbs := by
  have here := h.place
  rw [place_eq] at here
  have finite := h.isFinite
  have canonical := packed x
  cases hx : x.toModel.unpack with
  | notANumber =>
    rw [hx] at finite
    cases finite
  | infinity s =>
    rw [hx] at finite
    cases finite
  | zero s =>
    rw [hx, placeOf_zero] at here
    cases here
    exact representable_zero
  | finite s m e pos =>
    rw [hx] at here canonical
    cases here
    refine ⟨m, (e - minExponent).toNat, canonical.1.digits, ?_, ?_⟩
    · have := canonical.2
      unfold minExponent
      omega
    · have magnitude : (m : Int) * 2 ^ (e - minExponent).toNat = (m * 2 ^ (e - minExponent).toNat : Nat) := by
        push_cast
        rfl
      rw [magnitude]
      cases isNegative s
      · exact Int.natAbs_natCast _
      · exact (Int.natAbs_neg _).trans (Int.natAbs_natCast _)

theorem place_infinity (s : Sign) :
    place (Float.ofModel (Float.Model.pack (.infinity s))) = some (Value.signed (isNegative s) Value.horizon) := by
  rw [place_ofModel (u := .infinity s) trivial]
  have far := Value.horizon_pos
  show some (clip (Value.signed _ Value.horizon)) = _
  rw [clip_signed _ (Int.le_of_lt far), Int.min_self]

/-- What a finite double is added to keeps a place; an infinity stays where it is. -/
theorem place_add_of_at (hx : place x = some a) (hy : At y b) :
    ∃ p, place (x + y) = some p ∧ (¬At x a → p = a) := by
  rcases at_or_infinite hx with finite | ⟨s, infinite, far⟩
  · obtain ⟨p, here, _⟩ := place_add finite hy
    exact ⟨p, here, fun h => absurd finite h⟩
  · refine ⟨a, ?_, fun _ => rfl⟩
    show place (Float.ofModel (Float.Model.pack (UnpackedFloat.add _ x.toModel.unpack y.toModel.unpack))) = _
    rw [infinite, add_infinity s hy.isFinite, place_infinity, far]

theorem place_sub_of_at (hx : place x = some a) (hy : At y b) :
    ∃ p, place (x - y) = some p ∧ (¬At x a → p = a) := by
  rcases at_or_infinite hx with finite | ⟨s, infinite, far⟩
  · obtain ⟨p, here, _⟩ := place_sub finite hy
    exact ⟨p, here, fun h => absurd finite h⟩
  · refine ⟨a, ?_, fun _ => rfl⟩
    show place (Float.ofModel (Float.Model.pack (UnpackedFloat.sub _ x.toModel.unpack y.toModel.unpack))) = _
    rw [infinite, sub_eq_add, add_infinity s (isFinite_neg hy.isFinite), place_infinity, far]

/-- The positive infinity. -/
theorem unpack_horizon (h : place x = some Value.horizon) : x.toModel.unpack = .infinity .positive := by
  have far := Value.horizon_pos
  rcases at_or_infinite h with finite | ⟨s, infinite, positive⟩
  · exact absurd finite.upper (Int.lt_irrefl _)
  · cases s with
    | negative =>
      change Value.horizon = -Value.horizon at positive
      omega
    | positive => exact infinite

/-- A sum with the positive infinity is this infinity, if it is anything. -/
theorem place_add_horizon (hy : place y = some Value.horizon) (hp : place (x + y) = some a) : a = Value.horizon := by
  change place (Float.ofModel (Float.Model.pack (UnpackedFloat.add _ x.toModel.unpack y.toModel.unpack))) = _ at hp
  rw [unpack_horizon hy] at hp
  have sum : ∀ u : UnpackedFloat, UnpackedFloat.add Format.binary64 u (.infinity .positive) = .infinity .positive ∨
      UnpackedFloat.add Format.binary64 u (.infinity .positive) = .notANumber := by
    intro u
    cases u with
    | notANumber => exact .inr rfl
    | infinity s => cases s <;> first | exact .inl rfl | exact .inr rfl
    | zero s => exact .inl rfl
    | finite s m e pos => exact .inl rfl
  rcases sum x.toModel.unpack with h | h
  · rw [h, place_infinity] at hp
    exact (Option.some.inj hp).symm
  · rw [h] at hp
    cases hp

/-- All doubles at the positive infinity are added alike. -/
theorem add_horizon {z : Float} (hy : place y = some Value.horizon) (hz : place z = some Value.horizon) :
    x + y = x + z := by
  show Float.ofModel (Float.Model.pack (UnpackedFloat.add _ x.toModel.unpack y.toModel.unpack)) =
    Float.ofModel (Float.Model.pack (UnpackedFloat.add _ x.toModel.unpack z.toModel.unpack))
  rw [unpack_horizon hy, unpack_horizon hz]

theorem half_infinite (h : ¬At x a) (hx : place x = some a) : place (x / 2) = some a := by
  obtain ⟨s, infinite, far⟩ := (at_or_infinite hx).resolve_left h
  obtain ⟨pos, two⟩ := unpack_two
  show place (Float.ofModel (Float.Model.pack (UnpackedFloat.div _ x.toModel.unpack (2 : Float).toModel.unpack))) = _
  rw [infinite, two]
  have quotient : UnpackedFloat.div Format.binary64 (.infinity s) (.finite .positive (2 ^ 52) (-51) pos) =
      .infinity s := by cases s <;> rfl
  rw [quotient, place_infinity, far]

theorem mul_horizon (hx : place x = some Value.horizon) (hy : At y b) (pos : 0 < b) :
    place (x * y) = some Value.horizon := by
  show place (Float.ofModel (Float.Model.pack (UnpackedFloat.mul _ x.toModel.unpack y.toModel.unpack))) = _
  rw [unpack_horizon hx]
  have here := hy.place
  rw [place_eq] at here
  have finite := hy.isFinite
  cases h : y.toModel.unpack with
  | notANumber =>
    rw [h] at finite
    cases finite
  | infinity s =>
    rw [h] at finite
    cases finite
  | zero s =>
    rw [h, placeOf_zero] at here
    cases here
    omega
  | finite s m e positive =>
    rw [h] at here
    cases here
    cases s with
    | negative =>
      change 0 < -((m : Int) * 2 ^ _) at pos
      have := scaled_pos positive (e - minExponent).toNat
      omega
    | positive => exact place_infinity .positive

end Operations

/-! ## Signs -/

/-- Half of what is not negative. -/
theorem half_nonneg {x : Float} {a : Int} (hx : place x = some a) (nonneg : 0 ≤ a) :
    ∃ p, place (x / 2) = some p ∧ 0 ≤ p ∧ p ≤ a := by
  by_cases finite : At x a
  · obtain ⟨p, here, rounds⟩ := place_half finite
    exact ⟨p, here, rounds.nonneg nonneg, rounds.above finite.representable (by omega)⟩
  · exact ⟨a, half_infinite finite hx, nonneg, Int.le_refl a⟩

/-- Half the way to the infinities. -/
def halfway : Nat := 2 ^ 52 * 2 ^ 2045

theorem horizon_eq : Value.horizon = 2 * halfway := by
  rw [halfway, Nat.cast_mul, Nat.cast_pow, Nat.cast_pow, Nat.cast_ofNat, ← pow_add, ← pow_succ']
  rfl

theorem representable_halfway : Representable halfway := ⟨2 ^ 52, 2045, by decide, by decide, by rw [halfway]⟩

theorem half_at {x : Float} {a : Int} (hx : At x a) (nonneg : 0 ≤ a) :
    ∃ p, At (x / 2) p ∧ 0 ≤ p ∧ p ≤ halfway ∧ Rounds a 2 p := by
  obtain ⟨p, here, rounds⟩ := place_half hx
  have upper := hx.upper
  have far := Value.horizon_pos
  have lower : 0 ≤ p := rounds.nonneg (by omega)
  have near : p ≤ halfway := by
    apply rounds.above (by rw [Int.natAbs_natCast]; exact representable_halfway)
    rw [horizon_eq] at upper
    omega
  exact ⟨p, ⟨here, by omega, by rw [horizon_eq] at *; omega⟩, lower, near, rounds⟩

theorem positive_at {x : Float} (finite : x.isFinite = true) (positive : ¬x ≤ 0) : ∃ a, At x a ∧ 0 < a := by
  obtain ⟨a, ha⟩ := isFinite_iff.mp finite
  refine ⟨a, ha, ?_⟩
  by_contra h
  exact positive ((le_iff_places ha.place place_zero).mpr (by omega))

theorem not_le_of_lt {x : Float} (h : 0 < x) : ¬x ≤ 0 := by
  obtain ⟨a, b, ha, hb, less⟩ := lt_iff.mp h
  intro le
  have upper := (le_iff_places hb ha).mp le
  omega

theorem mul_nonneg_place {x y : Float} {a b : Int} (hx : At x a) (hy : At y b) (ha : 0 < a) (hb : 0 < b) :
    ∃ p, place (x * y) = some p ∧ 0 ≤ p := by
  obtain ⟨p, here, rounds⟩ := place_mul hx hy
  exact ⟨p, here, rounds.nonneg (Int.le_of_lt (Int.mul_pos ha hb))⟩

theorem horizon_not_at {x : Float} : ¬At x Value.horizon := fun h => absurd h.upper (Int.lt_irrefl _)

end ClickGrant.Decimal
