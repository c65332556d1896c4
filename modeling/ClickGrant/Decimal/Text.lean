import ClickGrant.Decimal.Shortest

/-!
# Decimal text of doubles

Two notations, neither with an exponent: `plain` writes the shortest decimal that reads back, and
`fixed` writes a given number of places, the exact value rounded to the nearest, a half to the
even neighbour. A `Notation` says how the two special values and whole numbers look; everything
else about the text follows from the digits.
-/
set_option autoImplicit false

namespace ClickGrant.Decimal

/-- What a notation decides for itself. -/
structure Style where
  nan : String
  infinite : String
  /-- Written after a whole number. -/
  whole : String

/-- Messages and answers: whole numbers without a point. -/
def Style.message : Style := { nan := "NaN", infinite := "inf", whole := "" }

/-- Configuration files: a float always shows a point. -/
def Style.document : Style := { nan := "nan", infinite := "inf", whole := ".0" }

/-- The decimal digits of `n`. -/
def digitsOf (n : Nat) : List Char := Nat.toDigits 10 n

/-- The digits `ds` with the point `places` from the right, padded with zeros so that at least one digit
stands before it. -/
def pointed (ds : List Char) (places : Nat) : List Char :=
  let padded := List.replicate (places + 1 - ds.length) '0' ++ ds
  let split := padded.length - places
  padded.take split ++ '.' :: padded.drop split

/-- Positional text of `digits · 10 ^ exponent`. -/
def Scaled.text (style : Style) (d : Scaled) : List Char :=
  if 0 ≤ d.exponent then
    digitsOf d.digits ++ (if d.digits = 0 then [] else List.replicate d.exponent.toNat '0') ++ style.whole.toList
  else pointed (digitsOf d.digits) (-d.exponent).toNat

/-- The text of an unsigned text with its sign. -/
def signed (negative : Bool) (text : List Char) : String :=
  String.ofList (if negative then '-' :: text else text)

/-- The shortest decimal that reads back as the same double, without an exponent. -/
def plain (style : Style) (x : Float) : String :=
  match Value.ofFloat x with
  | .nan => style.nan
  | .infinite negative => signed negative style.infinite.toList
  | .finite negative mantissa exponent => signed negative ((shortest mantissa exponent).text style)

/-- `num / den` to the nearest whole number, a half to the even neighbour. -/
def roundDiv (num den : Nat) : Nat :=
  let floor := num / den
  let rest := num % den
  if den < 2 * rest ∨ (den = 2 * rest ∧ floor % 2 = 1) then floor + 1 else floor

/-- `mantissa · 2 ^ exponent` in units of `10 ^ -places`, rounded. -/
def units (places mantissa : Nat) (exponent : Int) : Nat :=
  roundDiv (mantissa * Nat.pow 2 exponent.toNat * Nat.pow 10 places) (Nat.pow 2 (-exponent).toNat)

/-- The exact value with `places` decimals. -/
def fixed (places : Nat) (x : Float) : String :=
  match Value.ofFloat x with
  | .nan => "NaN"
  | .infinite negative => signed negative "inf".toList
  | .finite negative mantissa exponent =>
    let ds := digitsOf (units places mantissa exponent)
    signed negative (if places = 0 then ds else pointed ds places)

end ClickGrant.Decimal

namespace ClickGrant

/-- A double as messages show it. -/
def showFloat (x : Float) : String := Decimal.plain Decimal.Style.message x

end ClickGrant
