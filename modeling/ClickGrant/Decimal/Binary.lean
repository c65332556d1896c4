/-!
# Doubles as exact numbers

A double denotes nothing, an infinity, or `± mantissa · 2 ^ exponent`. `Value.ofFloat` reads the
three fields of the word; `nearest` goes back, from any `mantissa · 2 ^ exponent` to the double
closest to it, ties to the even mantissa. Everything that must be exact about a double (its
decimal text, the length of a vector) is computed on these numbers, in `Nat` and `Int`.

Proved is that `nearest` rounds as the operations on doubles do (`Proofs.Double.Nearest`).
-/
set_option autoImplicit false

namespace ClickGrant.Decimal

/-- What a double denotes. A finite one is `mantissa · 2 ^ exponent`, with its sign apart, so that
the two zeros stay distinct. -/
inductive Value where
  | nan
  | infinite (negative : Bool)
  | finite (negative : Bool) (mantissa : Nat) (exponent : Int)
  deriving DecidableEq, Repr

/-- Exponent of the smallest positive double. -/
def minExponent : Int := -1074

/-- The value of a 64-bit word: sign, eleven exponent bits, fifty-two fraction bits. -/
def Value.ofBits (word : Nat) : Value :=
  let negative : Bool := Nat.pow 2 63 ≤ word
  let field : Nat := word / Nat.pow 2 52 % Nat.pow 2 11
  let fraction : Nat := word % Nat.pow 2 52
  if field = 2047 then
    if fraction = 0 then .infinite negative else .nan
  else if field = 0 then .finite negative fraction minExponent
  else .finite negative (Nat.pow 2 52 + fraction) (field - 1075)

/-- The value of a double. -/
def Value.ofFloat (x : Float) : Value := .ofBits x.toBits.toNat

/-- Number of binary digits of `n`; zero has none. -/
def bitLength (n : Nat) : Nat := if n = 0 then 0 else n.log2 + 1

/-- `n / Nat.pow 2 shift`, rounded to the nearest whole number, a half to the even neighbour. -/
def shiftRound (n shift : Nat) : Nat :=
  let unit := Nat.pow 2 shift
  let floor := n / unit
  let rest := n % unit
  if unit < 2 * rest ∨ (unit = 2 * rest ∧ floor % 2 = 1) then floor + 1 else floor

/-- The word of the double closest to `mantissa · 2 ^ exponent`; beyond the largest double it is
the infinity. A carry out of the fraction moves into the exponent field by plain addition. -/
def nearestBits (mantissa : Nat) (exponent : Int) : Nat :=
  let low := max (exponent + bitLength mantissa - 53) minExponent
  let scaled :=
    if low ≤ exponent then mantissa * Nat.pow 2 (exponent - low).toNat
    else shiftRound mantissa (low - exponent).toNat
  let word := scaled + (low - minExponent).toNat * Nat.pow 2 52
  min word (2047 * Nat.pow 2 52)

/-- The double closest to `mantissa · 2 ^ exponent`. -/
def nearest (mantissa : Nat) (exponent : Int) : Float :=
  if mantissa = 0 then 0 else Float.ofBits (UInt64.ofNat (nearestBits mantissa exponent))

end ClickGrant.Decimal
