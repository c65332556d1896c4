import ClickGrant.Proofs.Digits
import ClickGrant.Toml.Printer
import ClickGrant.Toml.Reader

/-!
# A printed scalar reads back

A printed number or truth value is a word of its own (`value_word`): it cannot be taken for a date or
a time, which need a colon or a dash behind the first character. A whole number that the format can
hold reads back as it is (`value_natural`). A float has a point, or is the name of an infinity or of
no number, so it is never taken for a whole number (`plainScalar_float`); whether the very same float
is found is then left to the reading of its decimal text (`value_float`).
-/
set_option autoImplicit false

namespace ClickGrant.Toml

open Decimal (isDigit digitsOf digitsOf_cases isDigit_of_mem_digitsOf toNat_of_isDigit)

variable {c : Char} {cs word rest : List Char}

/-! ## Words -/

/-- No character follows that belongs to a scalar. -/
def Stops (rest : List Char) : Prop := ∀ c, rest.head? = some c → isWord c = false

theorem calendarDate_none (dash : '-' ∉ word.tail) : calendarDate word = none := by
  have fifth : word[4]? ≠ some '-' := by
    intro at4
    obtain _ | ⟨c, cs⟩ := word
    · cases at4
    · exact dash (List.mem_of_getElem? (i := 3) at4)
  unfold calendarDate
  simp [fifth]

theorem timeOfDay_none (colon : ':' ∉ word) : timeOfDay word = none := by
  have third : word[2]? ≠ some ':' := fun at2 => colon (List.mem_of_getElem? at2)
  unfold timeOfDay
  simp [third]

/-- A word that cannot be a date. -/
theorem scalar_word (letters : ∀ c ∈ word, isWord c = true) (colon : ':' ∉ word) (dash : '-' ∉ word.tail)
    (stops : Stops rest) : scalar (word ++ rest) = (plainScalar word).map fun d => (d, rest) := by
  have moment : isMoment word = false := by rw [isMoment, calendarDate_none dash]
  have time : isTime false word = false := by rw [isTime, timeOfDay_none colon]
  unfold scalar
  rw [span_append letters stops]
  simp [moment, time, calendarDate_none dash]

/-- A character of a scalar starts no other value. -/
theorem value_eq_scalar (letter : isWord c = true) (levels : Nat) (cs : List Char) :
    value levels (c :: cs) = scalar (c :: cs) := by
  rw [value.eq_def]
  dsimp only
  split <;> rename_i whole
  · cases whole; exact absurd letter (by decide)
  · cases whole; exact absurd letter (by decide)
  · cases whole; exact absurd letter (by decide)
  · cases whole; exact absurd letter (by decide)
  · rfl

theorem value_word (levels : Nat) (word : List Char) (letters : ∀ c ∈ word, isWord c = true)
    (colon : ':' ∉ word)
    (dash : '-' ∉ word.tail) (stops : Stops rest) (some_word : word ≠ []) :
    value levels (word ++ rest) = (plainScalar word).map fun d => (d, rest) := by
  rw [← scalar_word letters colon dash stops]
  obtain _ | ⟨c, cs⟩ := word
  · exact absurd rfl some_word
  · exact value_eq_scalar (letters c List.mem_cons_self) levels (cs ++ rest)

theorem isWord_of_isDigit (digit : isDigit c = true) : isWord c = true := by
  have range : '0' ≤ c ∧ c ≤ '9' := by simpa [isDigit] using digit
  have alphanumeric : c.isAlphanum = true := by
    simp only [Char.isAlphanum, Char.isDigit, Bool.or_eq_true, Bool.and_eq_true, decide_eq_true_eq]
    exact .inr range
  simp [isWord, alphanumeric]

theorem ne_of_isDigit {d : Char} (digit : isDigit c = true) (other : isDigit d = false) : c ≠ d := by
  rintro rfl
  rw [digit] at other
  cases other

/-! ## Truth values -/

theorem value_bool (levels : Nat) (b : Bool) (stops : Stops rest) :
    value levels (bool b ++ rest) = some (.flag b, rest) := by
  cases b
  · exact value_word levels "false".toList (List.all_eq_true.mp rfl) (by decide) (by decide) stops (by decide)
  · exact value_word levels "true".toList (List.all_eq_true.mp rfl) (by decide) (by decide) stops (by decide)

/-! ## Whole numbers -/

theorem digitRun_all (after : Bool) :
    ∀ ds : List Char, (∀ c ∈ ds, isDigit c = true) → ds ≠ [] ∨ after = true →
    digitRun isDigit after ds = some (ds, [])
  | [], _, some_digit => by
    rcases some_digit with none | rfl
    · exact absurd rfl none
    · rfl
  | c :: ds, all, _ => by
    have ih := digitRun_all true ds (fun d member => all d (List.mem_cons_of_mem c member)) (.inr rfl)
    rw [digitRun, if_pos (all c List.mem_cons_self), ih]
    rfl

theorem wholeDigits_digitsOf (n : Nat) : wholeDigits (digitsOf n) = some (digitsOf n, []) := by
  obtain ⟨c, ds, eq, first⟩ := digitsOf_cases n
  have all : ∀ d ∈ digitsOf n, isDigit d = true := fun d => isDigit_of_mem_digitsOf
  rw [eq] at all ⊢
  by_cases zero : c = '0'
  · obtain ⟨-, rfl⟩ := first zero
    rw [zero]
    rfl
  · rw [wholeDigits.eq_def]
    split
    next whole => exact absurd (List.cons.inj whole).1 zero
    · exact digitRun_all false (c :: ds) all (.inl (List.cons_ne_nil c ds))

/-- A sign starts no digits, and a mark of another base does not follow a first zero. -/
theorem integer?_digitsOf (n : Nat) : integer? (digitsOf n) = fit false n := by
  obtain ⟨c, ds, eq, first⟩ := digitsOf_cases n
  have digit : isDigit c = true := isDigit_of_mem_digitsOf (by rw [eq]; exact List.mem_cons_self)
  have unsigned : signOf (digitsOf n) = (none, digitsOf n) := by
    rw [eq, signOf.eq_def]
    split
    next whole => exact absurd (List.cons.inj whole).1 (ne_of_isDigit digit (by decide))
    next whole => exact absurd (List.cons.inj whole).1 (ne_of_isDigit digit (by decide))
    · rfl
  have unmarked (base : Char) (more : List Char) : digitsOf n ≠ '0' :: base :: more := by
    rw [eq]
    intro whole
    obtain ⟨zero, tail⟩ := List.cons.inj whole
    exact List.cons_ne_nil base more (tail.symm.trans (first zero).2)
  rw [integer?.eq_def]
  split
  next whole => exact absurd whole (unmarked 'x' _)
  next whole => exact absurd whole (unmarked 'o' _)
  next whole => exact absurd whole (unmarked 'b' _)
  · rw [unsigned]
    dsimp only
    rw [wholeDigits_digitsOf]
    exact congrArg (fit false) (Decimal.ofDigits_digitsOf n)

theorem plainScalar_natural {n : Nat} (small : n < Nat.pow 2 63) :
    plainScalar (natural n) = some (.int n) := by
  obtain ⟨c, ds, eq, -⟩ := digitsOf_cases n
  have digit : isDigit c = true := isDigit_of_mem_digitsOf (by rw [eq]; exact List.mem_cons_self)
  have named (d : Char) (other : isDigit d = false) (cs : List Char) : natural n ≠ d :: cs := by
    show digitsOf n ≠ _
    rw [eq]
    exact fun same => ne_of_isDigit digit other (List.cons.inj same).1
  have read : integer? (natural n) = some (n : Int) := by
    show integer? (digitsOf n) = _
    rw [integer?_digitsOf, fit, if_neg Bool.false_ne_true, if_pos small]
  have not_true : natural n ≠ "true".toList := named 't' (by decide) _
  have not_false : natural n ≠ "false".toList := named 'f' (by decide) _
  rw [plainScalar, if_neg not_true, if_neg not_false, read]

theorem value_natural (levels : Nat) {n : Nat} (small : n < Nat.pow 2 63) (stops : Stops rest) :
    value levels (natural n ++ rest) = some (.int n, rest) := by
  have digits : ∀ c ∈ natural n, isDigit c = true := fun c => isDigit_of_mem_digitsOf
  rw [value_word levels (natural n) _ _ _ stops (Decimal.digitsOf_ne_nil n), plainScalar_natural small]
  · rfl
  · exact fun c member => isWord_of_isDigit (digits c member)
  · exact fun colon => absurd (digits ':' colon) (by decide)
  · exact fun dash => absurd (digits '-' (List.mem_of_mem_tail dash)) (by decide)

/-! ## Floats -/

theorem digitRun_used {p : Char → Bool} : ∀ {cs : List Char} {after : Bool} {ds more : List Char},
    digitRun p after cs = some (ds, more) → ∃ used, cs = used ++ more ∧ ∀ c ∈ used, p c = true ∨ c = '_'
  | [], after, ds, more, h => by
    unfold digitRun at h
    split at h <;> cases h
    exact ⟨[], rfl, nofun⟩
  | c :: cs, after, ds, more, h => by
    unfold digitRun at h
    split at h
    next digit =>
      obtain ⟨⟨ds', more'⟩, later, eq⟩ := Option.map_eq_some_iff.mp h
      cases eq
      obtain ⟨used, rfl, all⟩ := digitRun_used later
      exact ⟨c :: used, rfl, List.forall_mem_cons.mpr ⟨.inl digit, all⟩⟩
    split at h
    next underscore =>
      split at h
      · obtain ⟨used, rfl, all⟩ := digitRun_used h
        exact ⟨c :: used, rfl, List.forall_mem_cons.mpr ⟨.inr underscore, all⟩⟩
      · cases h
    next =>
      split at h <;> cases h
      exact ⟨[], rfl, nofun⟩

/-- Digits all the way hold no point. -/
theorem point_of_digitRun {p : Char → Bool} {after : Bool} {ds : List Char} (point : p '.' = false)
    (h : digitRun p after cs = some (ds, [])) : '.' ∉ cs := by
  obtain ⟨used, rfl, all⟩ := digitRun_used h
  rw [List.append_nil]
  intro member
  rcases all '.' member with digit | underscore
  · rw [point] at digit
    cases digit
  · cases underscore

theorem based_of_point (base : Nat) (point : '.' ∈ cs) : based base cs = none := by
  unfold based
  split
  next run => exact absurd point (point_of_digitRun (by simp [isDigitOf]) run)
  · rfl

theorem point_of_wholeDigits {ds : List Char} (h : wholeDigits cs = some (ds, [])) : '.' ∉ cs := by
  unfold wholeDigits at h
  split at h
  · cases h
    decide
  · exact point_of_digitRun (by decide) h

theorem mem_signOf (point : '.' ∈ cs) : '.' ∈ (signOf cs).2 := by
  unfold signOf
  split
  · exact (List.mem_cons.mp point).resolve_left (by decide)
  · exact (List.mem_cons.mp point).resolve_left (by decide)
  · exact point

/-- A whole number is written without a point. -/
theorem integer?_of_point (point : '.' ∈ word) : integer? word = none := by
  unfold integer?
  split
  · exact based_of_point 16 (by simpa using point)
  · exact based_of_point 8 (by simpa using point)
  · exact based_of_point 2 (by simpa using point)
  · split
    next sign body signed =>
    have inside : '.' ∈ body := by
      have inside := mem_signOf point
      rwa [signed] at inside
    split
    next run => exact absurd inside (point_of_wholeDigits run)
    · rfl

/-! The text of a float: a number with a point, or a name. -/

open Decimal (Scaled Style pointed)

/-- A character of a number without a sign. -/
def IsNumeral (c : Char) : Prop := isDigit c = true ∨ c = '.'

theorem pointed_numerals {ds : List Char} (digits : ∀ c ∈ ds, isDigit c = true) (places : Nat) :
    (∀ c ∈ pointed ds places, IsNumeral c) ∧ '.' ∈ pointed ds places := by
  unfold pointed
  dsimp only
  have padded : ∀ c ∈ List.replicate (places + 1 - ds.length) '0' ++ ds, isDigit c = true := by
    intro c member
    rcases List.mem_append.mp member with zero | digit
    · rw [List.eq_of_mem_replicate zero]
      decide
    · exact digits c digit
  refine ⟨fun c member => ?_, List.mem_append_right _ List.mem_cons_self⟩
  rcases List.mem_append.mp member with before | after
  · exact .inl (padded c (List.mem_of_mem_take before))
  · rcases List.mem_cons.mp after with point | after
    · exact .inr point
    · exact .inl (padded c (List.mem_of_mem_drop after))

theorem text_numerals (d : Scaled) :
    (∀ c ∈ d.text .document, IsNumeral c) ∧ '.' ∈ d.text .document := by
  have digits : ∀ c ∈ digitsOf d.digits, isDigit c = true := fun c => isDigit_of_mem_digitsOf
  unfold Scaled.text
  split
  next =>
    refine ⟨fun c member => ?_, List.mem_append_right _ (by decide)⟩
    rcases List.mem_append.mp member with number | whole
    · rcases List.mem_append.mp number with digit | zero
      · exact .inl (digits c digit)
      · split at zero
        · cases zero
        · rw [List.eq_of_mem_replicate zero]
          exact .inl (by decide)
    · have shown : Style.document.whole.toList = ['.', '0'] := by decide
      rw [shown] at whole
      rcases List.mem_cons.mp whole with point | zero
      · exact .inr point
      · rw [List.mem_singleton.mp zero]
        exact .inl (by decide)
  next => exact pointed_numerals digits _

/-- What is printed for a float: a name, or a number with a point after a sign if it has one. -/
theorem float_cases (x : Float) :
    float x = "nan".toList ∨ float x = "inf".toList ∨ float x = "-inf".toList ∨
    ∃ number, (float x = number ∨ float x = '-' :: number) ∧ (∀ c ∈ number, IsNumeral c) ∧ '.' ∈ number := by
  unfold float Decimal.plain
  split
  · exact .inl rfl
  next negative _ =>
    cases negative
    · exact .inr (.inl rfl)
    · exact .inr (.inr (.inl rfl))
  next negative mantissa exponent _ =>
    refine .inr (.inr (.inr ⟨(Decimal.shortest mantissa exponent).text .document, ?_, text_numerals _⟩))
    cases negative
    · exact .inl String.toList_ofList
    · exact .inr String.toList_ofList

theorem plainScalar_of_no_integer (not_true : word ≠ "true".toList) (not_false : word ≠ "false".toList)
    (none : integer? word = none) : plainScalar word = (float? word).map .real := by
  rw [plainScalar, if_neg not_true, if_neg not_false, none]

/-- Nothing that is printed for a float is taken for a whole number. -/
theorem plainScalar_float (x : Float) : plainScalar (float x) = (float? (float x)).map .real := by
  rcases float_cases x with eq | eq | eq | ⟨number, eq, -, point⟩
  · rw [eq]
    exact plainScalar_of_no_integer (by decide) (by decide) (by decide)
  · rw [eq]
    exact plainScalar_of_no_integer (by decide) (by decide) (by decide)
  · rw [eq]
    exact plainScalar_of_no_integer (by decide) (by decide) (by decide)
  · have inside : '.' ∈ float x := by
      rcases eq with eq | eq <;> rw [eq]
      · exact point
      · exact List.mem_cons_of_mem _ point
    refine plainScalar_of_no_integer ?_ ?_ (integer?_of_point inside) <;> intro same <;> rw [same] at inside
    · exact absurd inside (by decide)
    · exact absurd inside (by decide)

/-- A printed float is a word that is no date. -/
theorem float_word (x : Float) :
    (∀ c ∈ float x, isWord c = true) ∧ ':' ∉ float x ∧ '-' ∉ (float x).tail ∧ float x ≠ [] := by
  rcases float_cases x with eq | eq | eq | ⟨number, eq, numerals, point⟩
  · rw [eq]
    exact ⟨List.all_eq_true.mp rfl, by decide, by decide, by decide⟩
  · rw [eq]
    exact ⟨List.all_eq_true.mp rfl, by decide, by decide, by decide⟩
  · rw [eq]
    exact ⟨List.all_eq_true.mp rfl, by decide, by decide, by decide⟩
  · have letters : ∀ c ∈ number, isWord c = true := by
      intro c member
      rcases numerals c member with digit | rfl
      · exact isWord_of_isDigit digit
      · decide
    have absent (c : Char) (other : isDigit c = false) (sign : c ≠ '.') : c ∉ number := by
      intro member
      rcases numerals c member with digit | same
      · exact ne_of_isDigit digit other rfl
      · exact sign same
    have colon := absent ':' (by decide) (by decide)
    have dash := absent '-' (by decide) (by decide)
    rcases eq with eq | eq <;> rw [eq]
    · exact ⟨letters, colon, fun member => dash (List.mem_of_mem_tail member), List.ne_nil_of_mem point⟩
    · refine ⟨List.forall_mem_cons.mpr ⟨by decide, letters⟩, ?_, dash, List.cons_ne_nil _ _⟩
      exact fun member => colon ((List.mem_cons.mp member).resolve_left (by decide))

/-- A float whose decimal text reads back is found again. -/
theorem value_float (levels : Nat) {x : Float} (reads : float? (float x) = some x) (stops : Stops rest) :
    value levels (float x ++ rest) = some (.real x, rest) := by
  obtain ⟨letters, colon, dash, some_word⟩ := float_word x
  rw [value_word levels (float x) letters colon dash stops some_word, plainScalar_float, reads]
  rfl

end ClickGrant.Toml
