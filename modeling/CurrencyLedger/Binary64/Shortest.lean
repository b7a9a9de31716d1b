import CurrencyLedger.Binary64.Basic
import CurrencyLedger.Text.Numeral

/-! # Shortest decimal digits

The fewest decimal digits that read back as a given floating-point number. For each count of
digits the number's two neighbours on that decimal grid are tested against the interval of reals
that round to the number; the first grid with a hit is taken, and of two hits the nearer one. Which
of two equally near ones is taken is for the format to say. -/

namespace CurrencyLedger.Binary64

/-- Decimal digits and the place of the point: `0.d₁d₂… · 10 ^ point`. -/
structure DecimalForm where
  /-- The digits, as one number without a trailing zero. -/
  digits : Nat
  /-- How many digits stand before the point. -/
  point : Int
  deriving DecidableEq, Repr

/-- Which of two equally near numbers is taken. -/
inductive Tie where
  /-- The greater one. -/
  | up
  /-- The one that ends in an even digit. -/
  | even
  deriving DecidableEq, Repr

/-- A magnitude `quarters · 2 ^ exponent / 4` with the interval of reals that round to it. -/
structure Interval where
  /-- Four times the lower end, in units of the last place. -/
  low : Nat
  /-- Four times the number itself. -/
  mid : Nat
  /-- Four times the upper end. -/
  high : Nat
  /-- What one unit counts, as a numerator. -/
  num : Nat
  /-- What one unit counts, as a denominator. -/
  den : Nat
  /-- Whether the ends belong to the interval. -/
  closed : Bool

/-- The reals that round to a positive number. Just above a power of two the lower half gap is half
as wide. -/
def interval (x : Binary64) : Interval :=
  let m := x.significand
  let narrow := m = minSignificand ∧ minExponent < x.exponent
  { low := if narrow then 4 * m - 1 else 4 * m - 2
    mid := 4 * m
    high := 4 * m + 2
    num := if 0 ≤ x.exponent then Nat.pow 2 x.exponent.toNat else 1
    den := if 0 ≤ x.exponent then 4 else 4 * Nat.pow 2 (-x.exponent).toNat
    closed := m % 2 = 0 }

/-- Whether `d · 10 ^ e` lies in the interval. -/
def Interval.holds (i : Interval) (d : Nat) (e : Int) : Bool :=
  let point := if 0 ≤ e then d * Nat.pow 10 e.toNat * i.den else d * i.den
  let unit := if 0 ≤ e then i.num else i.num * Nat.pow 10 (-e).toNat
  if i.closed then i.low * unit ≤ point && point ≤ i.high * unit
  else i.low * unit < point && point < i.high * unit

/-- The number on the grid of step `10 ^ e` just below the middle of the interval, with twice the
excess over it and the step, on one scale. -/
def Interval.below (i : Interval) (e : Int) : Nat × Nat × Nat :=
  let n := if 0 ≤ e then i.mid * i.num else i.mid * i.num * Nat.pow 10 (-e).toNat
  let d := if 0 ≤ e then i.den * Nat.pow 10 e.toNat else i.den
  (n / d, 2 * (n % d), d)

/-- The place of the point: the least power of ten above the middle. -/
def Interval.point (i : Interval) : Int :=
  let above (k : Nat) : Bool :=
    let e : Int := (k : Int) - 324
    if 0 ≤ e then i.mid * i.num < i.den * Nat.pow 10 e.toNat
    else i.mid * i.num * Nat.pow 10 (-e).toNat < i.den
  (((List.range 640).find? above).getD 640 : Int) - 324

/-- The nearer of `d` and `d + 1` to a number between them, given twice its distance from `d` and the
distance between the two. -/
def Tie.nearer (tie : Tie) (d twice step : Nat) : Nat :=
  if twice < step ∨ (twice = step ∧ tie = .even ∧ d % 2 = 0) then d else d + 1

/-- The hit with `count` digits, if one of the two neighbours on that grid reads back. -/
def Interval.hit? (i : Interval) (tie : Tie) (point : Int) (count : Nat) : Option Nat :=
  let e := point - count
  let (d, excess, step) := i.below e
  match i.holds d e, i.holds (d + 1) e with
  | true, true => some (tie.nearer d excess step)
  | true, false => some d
  | false, true => some (d + 1)
  | false, false => none

/-- The shortest digits of a number other than zero. -/
def shortest (x : Binary64) (tie : Tie) : DecimalForm :=
  let i := x.interval
  let point := i.point
  let found := (List.range' 1 17).findSome? fun count =>
    (i.hit? tie point count).map fun d => (d, count)
  match found with
  | some (d, count) => if d = Nat.pow 10 count then ⟨1, point + 1⟩ else ⟨d, point⟩
  | none => ⟨0, 0⟩

/-- The text of a number in positional notation, without an exponent: no point after a whole
number, one zero before the point of a fraction, the greater of two equally near texts. -/
def positional (x : Binary64) : List Char :=
  let sign := if x.negative then ['-'] else []
  if x.isZero then sign ++ ['0']
  else
    let form := x.shortest .up
    let ds := Numeral.digits form.digits
    let count : Int := ds.length
    sign ++
      if form.point ≤ 0 then ['0', '.'] ++ List.replicate (-form.point).toNat '0' ++ ds
      else if count ≤ form.point then ds ++ List.replicate (form.point - count).toNat '0'
      else ds.take form.point.toNat ++ ['.'] ++ ds.drop form.point.toNat

end CurrencyLedger.Binary64
