import ClickGrant.Decimal.Text

/-!
# Reading decimals

A decimal literal is a sign, a whole number of digits and a power of ten. Its double is the one
closest to that number, ties to even; above the largest double it is the infinity, far below the
smallest it is zero with the literal's sign.
-/
set_option autoImplicit false

namespace ClickGrant.Decimal

/-- Whether `c` is one of the ten digits. -/
def isDigit (c : Char) : Bool := '0' ≤ c && c ≤ '9'

/-- The number written by decimal digits, most significant first. -/
def ofDigits (ds : List Char) : Nat := ds.foldl (fun n c => 10 * n + (c.toNat - 48)) 0

/-- The double closest to `± mantissa · 10 ^ exponent`. Exponents out of every double's range are
settled without computing the power. -/
def toFloat (negative : Bool) (mantissa : Nat) (exponent : Int) : Float :=
  let top := exponent + digitCount mantissa
  let magnitude : Float :=
    if mantissa = 0 ∨ top < -330 then 0
    else if 310 < top then Float.ofBits (UInt64.ofNat (2047 * Nat.pow 2 52))
    else if exponent < 0 then Float.ofScientific mantissa true (-exponent).toNat
    else Float.ofScientific mantissa false exponent.toNat
  if negative then -magnitude else magnitude

/-- A literal taken apart: the digits before and after the point, and the power of ten. -/
structure Literal where
  negative : Bool
  whole : List Char
  fraction : List Char
  exponent : Int
  deriving DecidableEq, Repr

/-- The double a literal denotes. -/
def Literal.toFloat (l : Literal) : Float :=
  Decimal.toFloat l.negative (ofDigits (l.whole ++ l.fraction)) (l.exponent - l.fraction.length)

end ClickGrant.Decimal
