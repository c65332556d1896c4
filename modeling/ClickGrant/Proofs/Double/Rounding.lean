import ClickGrant.Proofs.Double.Order

/-!
# Rounding to a double

Of rounding only this is needed: no finite double that lay on one side of the exact number lies on the
other side of the rounded one (`Rounds`). A number that is a double is thereby not changed, and a bound
that is a double stays a bound. It holds of whatever takes one of the two neighbours at the exponent aimed
at (`Neighbour`), which is how sums, products, quotients and roots are all rounded.
-/
set_option autoImplicit false

namespace ClickGrant.Decimal

open Float.Model (Format UnpackedFloat totalExponent)
open Float.Model.UnpackedFloat

/-! ## Neighbours -/

/-- The place of a finite double, its sign apart. -/
def Representable (u : Nat) : Prop := ∃ m k : Nat, m < 2 ^ 53 ∧ k ≤ 2045 ∧ u = m * 2 ^ k

theorem representable_zero : Representable 0 := ⟨0, 0, by decide, by decide, rfl⟩

/-- The exponent that a double close to `m · 2 ^ e` has. -/
def target (m : Nat) (e : Int) : Int := max (m.log2 + 1 + e - 53) minExponent

/-- `r` is `m / 2 ^ d` rounded to a neighbouring whole number. What is rounded may be a bit more than `m`,
unless it is exact. -/
structure Neighbour (m d r : Nat) (exact : Prop) : Prop where
  floor : m / 2 ^ d ≤ r
  ceil : r ≤ m / 2 ^ d + 1
  whole : exact → 2 ^ d ∣ m → r = m / 2 ^ d

section Target

variable {m d T i j r : Nat} {e : Int} {exact : Prop}

/-- At the target the floor has at most 53 digits, and as many unless the exponent is the least one. -/
theorem floor_bounds (live : 0 < m ∨ target m e = minExponent) (h : e + d = target m e) :
    m / 2 ^ d < 2 ^ 53 ∧ (target m e = minExponent ∨ 2 ^ 52 ≤ m / 2 ^ d) := by
  unfold target at h
  constructor
  · rw [Nat.div_lt_iff_lt_mul (Nat.two_pow_pos d), ← Nat.pow_add]
    calc m < 2 ^ (m.log2 + 1) := Nat.lt_log2_self
      _ ≤ 2 ^ (53 + d) := Nat.pow_le_pow_right (by decide) (by omega)
  · by_cases least : target m e = minExponent
    · exact .inl least
    · right
      have pos : 0 < m := live.resolve_right least
      unfold target at least
      rw [Nat.le_div_iff_mul_le (Nat.two_pow_pos d), ← Nat.pow_add]
      calc 2 ^ (52 + d) = 2 ^ m.log2 := by congr 1; omega
        _ ≤ m := Nat.log2_self_le (by omega)

/-- A representable number that is not beyond the exact one is not beyond the rounded one. One digit of it
is worth `2 ^ i / 2 ^ j`. -/
theorem Neighbour.keeps_below (n : Neighbour m d r exact) (live : 0 < m ∨ target m e = minExponent)
    (h : e + d = target m e) (top : target m e = T + minExponent) (units : T + j = d + i) {u : Nat} (rep : Representable u)
    (below : u * 2 ^ j < (m + 1) * 2 ^ i) : u ≤ r * 2 ^ T := by
  obtain ⟨a, k, digits, -, rfl⟩ := rep
  -- either it is on the grid of the rounded number, or it has a smaller exponent and is too small
  by_cases coarse : T ≤ k
  · have split : a * 2 ^ k = a * 2 ^ (k - T) * 2 ^ T := by
      rw [Nat.mul_assoc, ← Nat.pow_add, Nat.sub_add_cancel coarse]
    rw [split] at below ⊢
    generalize a * 2 ^ (k - T) = b at *
    have scaled : b * 2 ^ d < m + 1 := by
      apply Nat.lt_of_mul_lt_mul_right (a := 2 ^ i)
      calc b * 2 ^ d * 2 ^ i = b * 2 ^ T * 2 ^ j := by
            rw [Nat.mul_assoc, ← Nat.pow_add, ← units, Nat.pow_add, Nat.mul_assoc]
        _ < (m + 1) * 2 ^ i := below
    have whole : b ≤ m / 2 ^ d := (Nat.le_div_iff_mul_le (Nat.two_pow_pos d)).mpr (by omega)
    exact Nat.mul_le_mul_right _ (Nat.le_trans whole n.floor)
  · have leading : 2 ^ 52 ≤ m / 2 ^ d := (floor_bounds live h).2.resolve_left (by omega)
    calc a * 2 ^ k ≤ 2 ^ 53 * 2 ^ k := Nat.mul_le_mul_right _ (Nat.le_of_lt digits)
      _ = 2 ^ 52 * 2 ^ (k + 1) := by ring
      _ ≤ 2 ^ 52 * 2 ^ T := Nat.mul_le_mul_left _ (Nat.pow_le_pow_right (by decide) (by omega))
      _ ≤ r * 2 ^ T := Nat.mul_le_mul_right _ (Nat.le_trans leading n.floor)

theorem Neighbour.keeps_above (n : Neighbour m d r exact) (live : 0 < m ∨ target m e = minExponent)
    (h : e + d = target m e) (top : target m e = T + minExponent) (units : T + j = d + i) {u : Nat} (rep : Representable u)
    (above : m * 2 ^ i ≤ u * 2 ^ j) (strict : ¬exact → m * 2 ^ i < u * 2 ^ j) : r * 2 ^ T ≤ u := by
  obtain ⟨a, k, digits, -, rfl⟩ := rep
  have below_m : m / 2 ^ d * 2 ^ d ≤ m := Nat.div_mul_le_self _ _
  by_cases coarse : T ≤ k
  · have split : a * 2 ^ k * 2 ^ j = a * 2 ^ (k - T) * 2 ^ d * 2 ^ i := by
      rw [Nat.mul_assoc, Nat.mul_assoc, Nat.mul_assoc, ← Nat.pow_add, ← Nat.pow_add, ← Nat.pow_add]
      congr 2
      omega
    have target : a * 2 ^ k = a * 2 ^ (k - T) * 2 ^ T := by
      rw [Nat.mul_assoc, ← Nat.pow_add, Nat.sub_add_cancel coarse]
    rw [split] at above strict
    rw [target]
    generalize a * 2 ^ (k - T) = b at *
    have least : m ≤ b * 2 ^ d := Nat.le_of_mul_le_mul_right above (Nat.two_pow_pos i)
    apply Nat.mul_le_mul_right
    by_cases whole : exact ∧ 2 ^ d ∣ m
    · rw [n.whole whole.1 whole.2]
      exact Nat.div_le_of_le_mul (by rwa [Nat.mul_comm])
    · have more : m / 2 ^ d * 2 ^ d < b * 2 ^ d := by
        by_cases h : exact
        · have : ¬ m / 2 ^ d * 2 ^ d = m := fun same => whole ⟨h, Dvd.intro_left _ same⟩
          omega
        · have := Nat.lt_of_mul_lt_mul_right (strict h)
          omega
      exact Nat.le_trans n.ceil (Nat.lt_of_mul_lt_mul_right more)
  · exfalso
    have leading : 2 ^ 52 ≤ m / 2 ^ d := (floor_bounds live h).2.resolve_left (by omega)
    have small : a * 2 ^ k < m / 2 ^ d * 2 ^ T :=
      calc a * 2 ^ k < 2 ^ 53 * 2 ^ k := Nat.mul_lt_mul_of_pos_right digits (Nat.two_pow_pos k)
        _ = 2 ^ 52 * 2 ^ (k + 1) := by ring
        _ ≤ 2 ^ 52 * 2 ^ T := Nat.mul_le_mul_left _ (Nat.pow_le_pow_right (by decide) (by omega))
        _ ≤ m / 2 ^ d * 2 ^ T := Nat.mul_le_mul_right _ leading
    have : a * 2 ^ k * 2 ^ j < m * 2 ^ i :=
      calc a * 2 ^ k * 2 ^ j < m / 2 ^ d * 2 ^ T * 2 ^ j := Nat.mul_lt_mul_of_pos_right small (Nat.two_pow_pos j)
        _ = m / 2 ^ d * 2 ^ d * 2 ^ i := by rw [Nat.mul_assoc, ← Nat.pow_add, units, Nat.pow_add, Nat.mul_assoc]
        _ ≤ m * 2 ^ i := Nat.mul_le_mul_right _ below_m
    omega

end Target

/-! ## Digits dropped from a mantissa -/

theorem mantissa_shift (em : ExtendedMantissa) (n : Nat) : (em >>> n).mantissa = em.mantissa / 2 ^ n := by
  show (n.repeat ExtendedMantissa.shiftRightOne em).mantissa = _
  induction n with
  | zero => rw [Nat.pow_zero, Nat.div_one]; rfl
  | succ n ih =>
    show (n.repeat ExtendedMantissa.shiftRightOne em).mantissa / 2 = _
    rw [ih, Nat.div_div_eq_div_mul, Nat.pow_succ]

/-- Nothing is dropped from a multiple of the new unit. -/
theorem residue_shift {em : ExtendedMantissa} (exact : em.roundBit = false ∧ em.stickyBit = false) (n : Nat)
    (whole : 2 ^ n ∣ em.mantissa) : (em >>> n).roundBit = false ∧ (em >>> n).stickyBit = false := by
  have shifted := mantissa_shift em
  change (n.repeat ExtendedMantissa.shiftRightOne em).roundBit = false ∧
    (n.repeat ExtendedMantissa.shiftRightOne em).stickyBit = false
  induction n with
  | zero => exact exact
  | succ n ih =>
    obtain ⟨round, sticky⟩ := ih (Nat.pow_dvd_of_le_of_pow_dvd (Nat.le_succ n) whole)
    have mantissa : (n.repeat ExtendedMantissa.shiftRightOne em).mantissa = em.mantissa / 2 ^ n := shifted n
    have even : em.mantissa / 2 ^ n % 2 = 0 := by
      obtain ⟨c, h⟩ := whole
      rw [h, Nat.pow_succ, Nat.mul_assoc, Nat.mul_div_cancel_left _ (Nat.two_pow_pos n), Nat.mul_mod_right]
    constructor
    · show ((n.repeat ExtendedMantissa.shiftRightOne em).mantissa % 2 != 0) = false
      rw [mantissa, even]
      rfl
    · show ((n.repeat ExtendedMantissa.shiftRightOne em).roundBit ||
        (n.repeat ExtendedMantissa.shiftRightOne em).stickyBit) = false
      rw [round, sticky]
      rfl

/-- Rounding goes to one of the two neighbours. -/
theorem neighbour_rounded (m d : Nat) (acc : Accuracy) :
    Neighbour m d (ExtendedMantissa.ofMantissaAndAccuracy m acc >>> d).roundedMantissa (acc = .exact) := by
  have floor : (ExtendedMantissa.ofMantissaAndAccuracy m acc >>> d).mantissa = m / 2 ^ d := by
    rw [mantissa_shift]
    cases acc with
    | exact => rfl
    | inexact o => cases o <;> rfl
  have residue : acc = .exact → 2 ^ d ∣ m →
      (ExtendedMantissa.ofMantissaAndAccuracy m acc >>> d).roundBit = false ∧
        (ExtendedMantissa.ofMantissaAndAccuracy m acc >>> d).stickyBit = false := by
    intro exact whole
    subst exact
    exact residue_shift ⟨rfl, rfl⟩ d whole
  generalize ExtendedMantissa.ofMantissaAndAccuracy m acc >>> d = em at *
  obtain ⟨mantissa, round, sticky⟩ := em
  change mantissa = m / 2 ^ d at floor
  subst floor
  constructor
  · cases round <;> cases sticky <;>
      simp [ExtendedMantissa.roundedMantissa, ExtendedMantissa.accuracy, Accuracy.roundToNearestEven]
  · cases round <;> cases sticky <;>
      simp [ExtendedMantissa.roundedMantissa, ExtendedMantissa.accuracy, Accuracy.roundToNearestEven]
    omega
  · intro exact whole
    obtain ⟨rfl, rfl⟩ := residue exact whole
    rfl

theorem shiftToTargetExponent_eq (m : Nat) (e : Int) (acc : Accuracy) :
    shiftToTargetExponent Format.binary64 m e acc =
      (ExtendedMantissa.ofMantissaAndAccuracy m acc >>> (target m e - e).toNat, e + (target m e - e).toNat) :=
  rfl

/-- Rounding may bring a carry into a digit before the leading one; no other mantissa moves again. -/
theorem target_rounded {r : Nat} {t : Int} (least : minExponent ≤ t) (digits : r ≤ 2 ^ 53) :
    (target r t - t).toNat = if r = 2 ^ 53 then 1 else 0 := by
  unfold target
  by_cases carry : r = 2 ^ 53
  · rw [if_pos carry, carry, Nat.log2_two_pow]
    omega
  · have short : r.log2 ≤ 52 := by
      by_cases zero : r = 0
      · rw [zero]
        decide
      · have : r.log2 < 53 := (Nat.log2_lt zero).mpr (by omega)
        omega
    rw [if_neg carry]
    omega

theorem roundWithAccuracy_eq (s : Sign) (m : Nat) (e : Int) (acc : Accuracy) :
    roundWithAccuracy Format.binary64 s m e acc =
      let d := (target m e - e).toNat
      let r := (ExtendedMantissa.ofMantissaAndAccuracy m acc >>> d).roundedMantissa
      let c := (target r (e + d) - (e + d)).toNat
      if h : r / 2 ^ c = 0 then .zero s else .finite s (r / 2 ^ c) (e + d + c) (Nat.pos_of_ne_zero h) := by
  unfold roundWithAccuracy
  simp only [shiftToTargetExponent_eq, mantissa_shift]
  rfl

/-- What rounding gives: a neighbour, on the exponent aimed at. -/
theorem round_spec (s : Sign) {m : Nat} {e : Int} (acc : Accuracy) (live : 0 < m ∨ target m e = minExponent)
    (short : e ≤ target m e) :
    ∃ r d T : Nat, e + d = target m e ∧ target m e = T + minExponent ∧ Neighbour m d r (acc = .exact) ∧
      InForm (roundWithAccuracy Format.binary64 s m e acc) ∧
      placeOf (roundWithAccuracy Format.binary64 s m e acc) = some (Value.signed (isNegative s) (r * 2 ^ T)) := by
  have least : minExponent ≤ target m e := Int.le_max_right _ _
  rw [roundWithAccuracy_eq]
  dsimp only
  have aimed : e + ((target m e - e).toNat : Int) = target m e := by omega
  have neighbour := neighbour_rounded m (target m e - e).toNat acc
  generalize (ExtendedMantissa.ofMantissaAndAccuracy m acc >>> (target m e - e).toNat).roundedMantissa = r at *
  obtain ⟨upper, lower⟩ := floor_bounds live aimed
  have digits : r ≤ 2 ^ 53 := Nat.le_trans neighbour.ceil upper
  refine ⟨r, (target m e - e).toNat, (target m e - minExponent).toNat, aimed, by omega, neighbour, ?_⟩
  have floor := neighbour.floor
  rw [aimed, target_rounded least digits]
  by_cases carry : r = 2 ^ 53
  · subst carry
    rw [if_pos rfl, dif_neg (by decide)]
    have canonical : Value.Canonical (2 ^ 53 / 2 ^ 1) (target m e + 1) := ⟨by decide, by omega, .inl (by decide)⟩
    refine ⟨canonical, ?_⟩
    have further : (target m e + 1 - minExponent).toNat = (target m e - minExponent).toNat + 1 := by omega
    rw [placeOf_finite]
    show some (Value.signed _ ((2 ^ 52 : Nat) * 2 ^ (target m e + 1 - minExponent).toNat)) = _
    rw [further, pow_succ]
    push_cast
    congr 2
    ring
  · simp only [if_neg carry, Nat.pow_zero, Nat.div_one, Int.natCast_zero, Int.add_zero]
    by_cases zero : r = 0
    · subst zero
      rw [dif_pos rfl]
      refine ⟨trivial, ?_⟩
      rw [placeOf_zero, Int.natCast_zero, Int.zero_mul]
      cases s <;> rfl
    · rw [dif_neg zero]
      exact ⟨⟨by omega, least, by omega⟩, rfl⟩

/-! ## Rounding a quotient -/

/-- `p` is `num / den`, rounded: every finite double that is not beyond the quotient is not beyond `p`
either. So a quotient that is itself a double is not changed. -/
structure Rounds (num : Int) (den : Nat) (p : Int) : Prop where
  below : ∀ {u : Int}, Representable u.natAbs → u * den ≤ num → u ≤ p
  above : ∀ {u : Int}, Representable u.natAbs → num ≤ u * den → p ≤ u

namespace Rounds

variable {num p : Int} {den : Nat}

theorem whole (n : Int) : Rounds n 1 n where
  below _ h := by omega
  above _ h := by omega

theorem neg (h : Rounds num den p) : Rounds (-num) den (-p) where
  below rep le := by
    have := h.above (by rwa [Int.natAbs_neg]) (by rw [Int.neg_mul]; omega)
    omega
  above rep le := by
    have := h.below (by rwa [Int.natAbs_neg]) (by rw [Int.neg_mul]; omega)
    omega

theorem exact (h : Rounds num den p) {u : Int} (rep : Representable u.natAbs) (same : u * den = num) : p = u :=
  Int.le_antisymm (h.above rep (by omega)) (h.below rep (by omega))

theorem nonneg (h : Rounds num den p) (le : 0 ≤ num) : 0 ≤ p :=
  h.below representable_zero (by omega)

/-- A factor that is common to both parts of the quotient. -/
theorem cancel {k : Nat} (h : Rounds (num * k) (den * k) p) (pos : 0 < k) : Rounds num den p where
  below {u} rep le := by
    apply h.below rep
    push_cast
    rw [← Int.mul_assoc]
    exact Int.mul_le_mul_of_nonneg_right le (by omega)
  above {u} rep le := by
    apply h.above rep
    push_cast
    rw [← Int.mul_assoc]
    exact Int.mul_le_mul_of_nonneg_right le (by omega)

/-- No rounded number lies farther from zero than a double that the exact one does not pass. -/
theorem natAbs_le (h : Rounds num den p) {u : Nat} (rep : Representable u) (le : num.natAbs ≤ u * den) :
    p.natAbs ≤ u := by
  have bound : (num.natAbs : Int) ≤ u * den := by exact_mod_cast le
  have above := h.above (u := u) (by rwa [Int.natAbs_natCast]) (by omega)
  have below := h.below (u := -u) (by rwa [Int.natAbs_neg, Int.natAbs_natCast]) (by rw [Int.neg_mul]; omega)
  omega

theorem representable_lt {u : Nat} (rep : Representable u) : (u : Int) < Value.horizon := by
  obtain ⟨m, k, digits, short, rfl⟩ := rep
  push_cast
  exact Value.scaled_lt_horizon digits short

theorem clip (h : Rounds num den p) : Rounds num den (clip p) where
  below rep le := by
    have := representable_lt rep
    have := h.below rep le
    unfold Decimal.clip
    omega
  above rep le := by
    have := representable_lt rep
    have := h.above rep le
    unfold Decimal.clip
    omega

/-- On either side of zero, from the absolute values. -/
theorem of_natAbs {N D P : Nat} (pos : 0 < D)
    (below : ∀ {u : Nat}, Representable u → u * D ≤ N → u ≤ P)
    (above : ∀ {u : Nat}, Representable u → N ≤ u * D → P ≤ u) (negative : Bool) :
    Rounds (Value.signed negative N) D (Value.signed negative P) := by
  have positive : Rounds N D P := by
    constructor
    · intro u rep le
      obtain ⟨n, rfl | rfl⟩ := Int.eq_nat_or_neg u
      · rw [Int.natAbs_natCast] at rep
        exact_mod_cast below rep (by exact_mod_cast le)
      · omega
    · intro u rep le
      obtain ⟨n, rfl | rfl⟩ := Int.eq_nat_or_neg u
      · rw [Int.natAbs_natCast] at rep
        exact_mod_cast above rep (by exact_mod_cast le)
      · have zero : N = 0 ∧ n = 0 := by
          rw [Int.neg_mul] at le
          have : (0 : Int) ≤ n * D := Int.mul_nonneg (by omega) (by omega)
          have : (n : Int) * D = 0 := by omega
          rcases Int.mul_eq_zero.mp this with h | h <;> omega
        have := above (u := 0) representable_zero (by omega)
        omega
  cases negative with
  | false => exact positive
  | true => exact positive.neg

end Rounds

/-- A result of an operation on doubles: it can be packed, and it is the quotient, rounded. -/
def Correct (u : UnpackedFloat) (num : Int) (den : Nat) : Prop :=
  InForm u ∧ ∃ p, placeOf u = some p ∧ Rounds num den p

theorem roundWithAccuracy_correct (s : Sign) {m N D i j : Nat} {e : Int} {acc : Accuracy}
    (live : 0 < m ∨ target m e = minExponent) (den : 0 < D) (short : e ≤ target m e) (units : e - minExponent = (i : Int) - j)
    (lower : m * 2 ^ i * D ≤ N * 2 ^ j) (strict : acc ≠ .exact → m * 2 ^ i * D < N * 2 ^ j)
    (upper : N * 2 ^ j < (m + 1) * 2 ^ i * D) :
    Correct (roundWithAccuracy Format.binary64 s m e acc) (Value.signed (isNegative s) N) D := by
  obtain ⟨r, d, T, aimed, top, neighbour, form, place⟩ := round_spec s acc live short
  refine ⟨form, _, place, ?_⟩
  have scaled : T + j = d + i := by omega
  have rounds : Rounds (Value.signed (isNegative s) N) D (Value.signed (isNegative s) (r * 2 ^ T : Nat)) := by
    apply Rounds.of_natAbs den
    · intro u rep le
      apply neighbour.keeps_below live aimed top scaled rep
      apply Nat.lt_of_mul_lt_mul_right (a := D)
      calc u * 2 ^ j * D = u * D * 2 ^ j := by ring
        _ ≤ N * 2 ^ j := Nat.mul_le_mul_right _ le
        _ < (m + 1) * 2 ^ i * D := upper
    · intro u rep le
      have above : N * 2 ^ j ≤ u * 2 ^ j * D :=
        calc N * 2 ^ j ≤ u * D * 2 ^ j := Nat.mul_le_mul_right _ le
          _ = u * 2 ^ j * D := by ring
      apply neighbour.keeps_above live aimed top scaled rep
      · exact Nat.le_of_mul_le_mul_right (Nat.le_trans lower above) den
      · intro inexact
        exact Nat.lt_of_mul_lt_mul_right (Nat.lt_of_lt_of_le (strict inexact) above)
  exact_mod_cast rounds

/-- Zeros appended to a mantissa. -/
theorem target_append {m : Nat} (pos : 0 < m) (k : Nat) (e : Int) : target (m * 2 ^ k) (e - k) = target m e := by
  obtain ⟨lower, upper⟩ := (Nat.log2_eq_iff pos.ne').mp rfl
  have digits : (m * 2 ^ k).log2 = m.log2 + k := by
    rw [Nat.log2_eq_iff (Nat.mul_pos pos (Nat.two_pow_pos k)).ne', Nat.add_right_comm, Nat.pow_add, Nat.pow_add]
    exact ⟨Nat.mul_le_mul_right _ lower, Nat.mul_lt_mul_of_pos_right upper (Nat.two_pow_pos k)⟩
  unfold target
  omega

theorem round_correct (s : Sign) {m i : Nat} {e : Int} (pos : 0 < m) (units : e = i + minExponent) :
    Correct (round Format.binary64 s m e) (Value.signed (isNegative s) (m * 2 ^ i : Nat)) 1 := by
  have unfolded : round Format.binary64 s m e =
      roundWithAccuracy Format.binary64 s (m * 2 ^ (e - target m e).toNat) (e - (e - target m e).toNat) .exact := by
    rw [← Nat.shiftLeft_eq]
    rfl
  have least : minExponent ≤ target m e := Int.le_max_right _ _
  rw [unfolded]
  generalize zeros : (e - target m e).toNat = k
  obtain ⟨l, rfl⟩ : ∃ l, i = l + k := ⟨i - k, by omega⟩
  have same : m * 2 ^ k * 2 ^ l = m * 2 ^ (l + k) := by ring
  apply roundWithAccuracy_correct (i := l) (j := 0) s (.inl (Nat.mul_pos pos (Nat.two_pow_pos k))) Nat.one_pos
  · rw [target_append pos]
    omega
  · omega
  · omega
  · intro inexact
    exact absurd rfl inexact
  · rw [Nat.add_mul, same]
    have := Nat.two_pow_pos l
    omega

theorem normalize_correct (m : Int) {e : Int} {i : Nat} (zeroSign : Sign) (units : e = i + minExponent) :
    Correct (UnpackedFloat.normalize Format.binary64 m e zeroSign) (m * 2 ^ i) 1 := by
  unfold UnpackedFloat.normalize
  rcases lt_trichotomy m 0 with less | zero | more
  · rw [compare_lt_iff_lt.mpr less]
    have rounded := round_correct .negative (m := (-m).toNat) (by omega) units
    have number : Value.signed (isNegative .negative) ((-m).toNat * 2 ^ i : Nat) = m * 2 ^ i := by
      show -(((-m).toNat * 2 ^ i : Nat) : Int) = _
      push_cast
      rw [Int.toNat_of_nonneg (by omega), Int.neg_mul, Int.neg_neg]
    rwa [number] at rounded
  · rw [compare_eq_iff_eq.mpr zero, zero, Int.zero_mul]
    exact ⟨trivial, 0, placeOf_zero _, .whole 0⟩
  · rw [compare_gt_iff_gt.mpr more]
    have rounded := round_correct .positive (m := m.toNat) (by omega) units
    have number : Value.signed (isNegative .positive) (m.toNat * 2 ^ i : Nat) = m * 2 ^ i := by
      show ((m.toNat * 2 ^ i : Nat) : Int) = _
      push_cast
      rw [Int.toNat_of_nonneg (by omega)]
    rwa [number] at rounded

end ClickGrant.Decimal
