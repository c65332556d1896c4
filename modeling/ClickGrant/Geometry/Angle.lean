import ClickGrant.Decimal.Binary

/-!
# Sine and cosine

Both are the double closest to the sum of their power series. An angle is a whole number of smallest
positive doubles, and the series is summed in this unit: a term is rounded down, which costs less than
one unit. Sixty-four terms leave nothing to add for angles of up to three turns. Neither function
leaves the interval from -1 to 1.

Both are defined to be as exact as a double can be. Proved is that they are finite and stay in that
interval (`Proofs.Geometry.Angle`); how close the sum comes to the series is argued here, not proved.
-/
set_option autoImplicit false

namespace ClickGrant

open Decimal (Value)

namespace Angle

/-- The number 1, in units of the smallest positive double. -/
def one : Nat := Nat.pow 2 1074

/-- An alternating power series from the given term on: a term, less what follows it. The next term has
a degree that is larger by two. -/
def alternating (square : Nat) : (terms degree term : Nat) → Int
  | 0, _, _ => 0
  | terms + 1, degree, term =>
    term - alternating square terms (degree + 2) (term * square / (one * ((degree + 1) * (degree + 2))))

/-- The double closest to a sum; beyond 1 it is 1. -/
def ofSum (sum : Int) : Float :=
  let size := Decimal.nearest (min sum.natAbs one) Decimal.minExponent
  if sum < 0 then -size else size

/-- A series at an angle, from the term that `first` gives on. -/
def series (degree : Nat) (first : Nat → Nat) (mantissa : Nat) (exponent : Int) : Float :=
  let angle := mantissa * Nat.pow 2 (exponent - Decimal.minExponent).toNat
  ofSum (alternating (angle * angle / one) 64 degree (first angle))

end Angle

/-- The sine of an angle in radians. -/
def sine (x : Float) : Float :=
  match Value.ofFloat x with
  | .finite negative mantissa exponent =>
    let value := Angle.series 1 id mantissa exponent
    if negative then -value else value
  | _ => x - x

/-- The cosine of an angle in radians. -/
def cosine (x : Float) : Float :=
  match Value.ofFloat x with
  | .finite _ mantissa exponent => Angle.series 0 (fun _ => Angle.one) mantissa exponent
  | _ => x - x

end ClickGrant
