import ClickGrant.Decimal.Binary

/-!
# The fewest digits that read back

The shortest decimal of a finite double is the decimal with the fewest digits that lies among the
reals which round to that double; of two such neighbours it is the nearer one. The interval of
those reals reaches half a unit to either side (a quarter below a power of two), and its ends
belong to it iff the mantissa is even. On the grid of `n` digits only the two neighbours of the
value can lie in the interval unless a shorter grid already had one, so the search tries the
grids of 1, 2, … 17 digits and takes the first hit.

That the digits read back is not proved. `Proofs.Config.RoundTrip` assumes it, float by float, of those
that a configuration holds.
-/
set_option autoImplicit false

namespace ClickGrant.Decimal

/-- `digits · 10 ^ exponent`. -/
structure Scaled where
  digits : Nat
  exponent : Int
  deriving DecidableEq, Repr

/-- A positive number with the interval of reals that round to it, all over one denominator. -/
structure Rounding where
  value : Nat
  low : Nat
  high : Nat
  den : Nat
  /-- Whether `low` and `high` themselves round to the value. -/
  closed : Bool

/-- The interval of the double `mantissa · 2 ^ exponent`. -/
def Rounding.ofBinary (mantissa : Nat) (exponent : Int) : Rounding :=
  let up := Nat.pow 2 exponent.toNat
  let below := if mantissa = Nat.pow 2 52 ∧ minExponent < exponent then 1 else 2
  { value := 4 * mantissa * up
    low := (4 * mantissa - below) * up
    high := (4 * mantissa + 2) * up
    den := 4 * Nat.pow 2 (-exponent).toNat
    closed := mantissa % 2 = 0 }

/-- Whether `c · 10 ^ e` rounds to the value. -/
def Rounding.has (r : Rounding) (c : Nat) (e : Int) : Bool :=
  let x := c * Nat.pow 10 e.toNat * r.den
  let scale := Nat.pow 10 (-e).toNat
  if r.closed then r.low * scale ≤ x && x ≤ r.high * scale
  else r.low * scale < x && x < r.high * scale

/-- The neighbour of the value on the grid `10 ^ e` that rounds to it, the nearer of two. -/
def Rounding.onGrid (r : Rounding) (e : Int) : Option Nat :=
  let num := r.value * Nat.pow 10 (-e).toNat
  let den := r.den * Nat.pow 10 e.toNat
  let floor := num / den
  match r.has floor e, r.has (floor + 1) e with
  | true, true => some (if 2 * (num % den) < den then floor else floor + 1)
  | true, false => some floor
  | false, true => some (floor + 1)
  | false, false => none

/-- Number of decimal digits of `n`; zero has one. -/
def digitCount (n : Nat) : Nat := (Nat.toDigits 10 n).length

/-- The `d` with `10 ^ (d - 1) ≤ num / den < 10 ^ d`. -/
def magnitude (num den : Nat) : Int :=
  let d := (digitCount num : Int) - digitCount den
  if num * Nat.pow 10 (-d).toNat < den * Nat.pow 10 d.toNat then d else d + 1

/-- The first grid of at least `n` digits with a hit, `fuel` grids long. -/
def Rounding.search (r : Rounding) (d : Int) : (fuel n : Nat) → Scaled
  | 0, n => { digits := r.value * Nat.pow 10 (n - d).toNat / (r.den * Nat.pow 10 (d - n).toNat), exponent := d - n }
  | fuel + 1, n =>
    match r.onGrid (d - n) with
    | some c => if c = Nat.pow 10 n then { digits := 1, exponent := d } else { digits := c, exponent := d - n }
    | none => r.search d fuel (n + 1)

/-- The shortest decimal of the double `mantissa · 2 ^ exponent`; seventeen digits always do. -/
def shortest (mantissa : Nat) (exponent : Int) : Scaled :=
  if mantissa = 0 then { digits := 0, exponent := 0 }
  else
    let r := Rounding.ofBinary mantissa exponent
    r.search (magnitude r.value r.den) 17 1

end ClickGrant.Decimal
