import CurrencyLedger.Rounding

/-! # Binary floating-point numbers of 64 bits

A finite number is `± significand · 2 ^ exponent`, with a significand below `2 ^ 53` and an
exponent of at least `-1074`; the significand is at least `2 ^ 52` unless the exponent is the least
one, so each number has one form. Both zeros are kept apart.

* **`ofRatio?`** — the number nearest to a quotient, ties to the even significand; `none` when the
  quotient is too large for any finite number;
* **`mul?`**, **`div?`** — the correctly rounded product and quotient. -/

namespace CurrencyLedger

/-- A finite binary floating-point number. -/
structure Binary64 where
  /-- Whether the number carries a minus sign. -/
  negative : Bool
  /-- The digits of the number. -/
  significand : Nat
  /-- The power of two that one unit of the significand stands for. -/
  exponent : Int
  deriving DecidableEq, Repr

namespace Binary64

/-- The least significand of 53 bits, `2 ^ 52`. -/
def minSignificand : Nat := 0x10000000000000

/-- The least exponent. -/
def minExponent : Int := -1074

/-- The greatest exponent. -/
def maxExponent : Int := 971

/-- Positive zero. -/
def zero : Binary64 := ⟨false, 0, minExponent⟩

/-- Zero of either sign. -/
def isZero (x : Binary64) : Bool := x.significand == 0

/-- `n / (d · 2 ^ e)` as a quotient of natural numbers. -/
def shifted (n d : Nat) (e : Int) : Nat × Nat :=
  if 0 ≤ e then (n, d * Nat.pow 2 e.toNat) else (n * Nat.pow 2 (-e).toNat, d)

/-- An exponent at which the quotient `n / d` of positive numbers has a significand of 53 bits, or
the least exponent if that one is greater. -/
def exponentFor (n d : Nat) : Int :=
  let guess : Int := (n.log2 : Int) - (d.log2 : Int) - 52
  let scaled := shifted n d guess
  let e := if scaled.1 < minSignificand * scaled.2 then guess - 1 else guess
  max e minExponent

/-- The number nearest to `n / d`, or `none` if it is not finite. -/
def ofRatio? (n d : Nat) : Option Binary64 :=
  if n = 0 then some zero
  else
    let e := exponentFor n d
    let scaled := shifted n d e
    let m := Rounding.halfEven scaled.1 scaled.2
    let carried : Nat × Int := if m = 2 * minSignificand then (minSignificand, e + 1) else (m, e)
    if maxExponent < carried.2 then none else some ⟨false, carried.1, carried.2⟩

/-- The magnitude of a number as a quotient of natural numbers. -/
def ratio (x : Binary64) : Nat × Nat :=
  if 0 ≤ x.exponent then (x.significand * Nat.pow 2 x.exponent.toNat, 1)
  else (x.significand, Nat.pow 2 (-x.exponent).toNat)

/-- A magnitude with a sign. -/
def withSign (negative : Bool) (x : Binary64) : Binary64 := { x with negative := negative }

/-- The rounded product, or `none` if it is not finite. -/
def mul? (x y : Binary64) : Option Binary64 :=
  let a := x.ratio
  let b := y.ratio
  (ofRatio? (a.1 * b.1) (a.2 * b.2)).map (withSign (x.negative != y.negative))

/-- The rounded quotient by a number other than zero, or `none` if it is not finite. -/
def div? (x y : Binary64) : Option Binary64 :=
  let a := x.ratio
  let b := y.ratio
  (ofRatio? (a.1 * b.2) (a.2 * b.1)).map (withSign (x.negative != y.negative))

end Binary64

end CurrencyLedger
