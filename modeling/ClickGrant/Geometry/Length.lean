import ClickGrant.Decimal.Binary

/-!
# Length of a vector

`hypot x y` is the double closest to `√(x² + y²)`. The squares are summed exactly and the root is
taken in whole numbers with a few guard bits, so nothing overflows or is lost on the way: a
component of `1e300` or `1e-300` is measured as faithfully as one of 3 or 4. An infinite component
makes the length infinite whatever the other is.

Proved is that a vector is at least as long as it is wide and high (`Proofs.Geometry.Length`).
-/
set_option autoImplicit false

namespace ClickGrant

open Decimal (Value)

/-- One round of the digit-by-digit square root: `root² ≤ n < (root + Nat.pow 2 bits)²` is narrowed to
the last bit. -/
def sqrtFrom (n : Nat) : (bits : Nat) → (root : Nat) → Nat
  | 0, root => root
  | bits + 1, root =>
    let next := root + Nat.pow 2 bits
    sqrtFrom n bits (if next * next ≤ n then next else root)

/-- The whole part of `√n`. -/
def floorSqrt (n : Nat) : Nat := sqrtFrom n (Decimal.bitLength n / 2 + 1) 0

/-- The double closest to `√(n · 4 ^ exponent)`. The root is taken of `n` with at least 64 digits
behind the point; whether it came out even is kept as one more bit. -/
def nearestSqrt (n : Nat) (exponent : Int) : Float :=
  let guard : Nat := 64
  let scaled := n * Nat.pow 4 guard
  let root := floorSqrt scaled
  let sticky := if root * root = scaled then 0 else 1
  Decimal.nearest (2 * root + sticky) (exponent - guard - 1)

/-- The length of the vector `(x, y)`. -/
def hypot (x y : Float) : Float :=
  match Value.ofFloat x, Value.ofFloat y with
  | .infinite _, _ => Float.ofBits (UInt64.ofNat (2047 * Nat.pow 2 52))
  | _, .infinite _ => Float.ofBits (UInt64.ofNat (2047 * Nat.pow 2 52))
  | .finite _ m e, .finite _ n f =>
    let low := min e f
    let a := m * Nat.pow 2 (e - low).toNat
    let b := n * Nat.pow 2 (f - low).toNat
    nearestSqrt (a * a + b * b) low
  | _, _ => x + y

end ClickGrant
