import CurrencyLedger.Rounding
import CurrencyLedger.Text.Numeral

/-! # Decimal numbers

A decimal is `coefficient / 10 ^ scale`, with a coefficient of at most 96 bits and a scale of at
most 28. Equal numbers may differ in scale (`1.5` and `1.50`), and the scale is kept and shown. A
zero may carry a minus sign, which is shown and means nothing else.

* **`text`** — plain notation with exactly `scale` digits after the point;
* **`normalize`** — the same number without trailing zeros after the point;
* **`mul?`** — the product, with as many digits dropped as the limits demand;
* **`truncate`**, **`fraction`** — the whole part, toward zero, and what is left. -/

namespace CurrencyLedger

/-- The magnitudes of 96 bits are those below `2 ^ 96`. -/
def Decimal.limit : Nat := 0x1000000000000000000000000

/-- A decimal number with a scale. -/
@[ext] structure Decimal where
  /-- The digits of the number, with its sign. -/
  coefficient : Int
  /-- How many of the digits stand after the point. -/
  scale : Nat
  /-- Whether the number is a zero with a minus sign. -/
  minusZero : Bool := false
  coefficient_lt : coefficient.natAbs < Decimal.limit
  scale_le : scale ≤ 28
  coefficient_of_minusZero : minusZero = true → coefficient = 0 := by exact nofun
  deriving DecidableEq, Repr

namespace Decimal

/-- The decimal with given digits and scale, if the limits allow it. -/
def mk? (coefficient : Int) (scale : Nat) : Option Decimal :=
  if h : coefficient.natAbs < limit ∧ scale ≤ 28 then
    some { coefficient, scale, coefficient_lt := h.1, scale_le := h.2 }
  else none

/-- Zero, with no digits after the point. -/
def zero : Decimal where
  coefficient := 0
  scale := 0
  coefficient_lt := by decide
  scale_le := by decide

instance : Inhabited Decimal := ⟨zero⟩

/-- A whole number as a decimal; beyond 96 bits, the outermost decimal on its side. -/
def ofInt (z : Int) : Decimal where
  coefficient := max (1 - (limit : Int)) (min ((limit : Int) - 1) z)
  scale := 0
  coefficient_lt := by simp only [limit]; omega
  scale_le := by decide

@[simp] theorem scale_ofInt (z : Int) : (ofInt z).scale = 0 := rfl

/-- A whole number of at most 96 bits is kept. -/
theorem coefficient_ofInt {z : Int} (h : z.natAbs < limit) : (ofInt z).coefficient = z := by
  simp only [limit] at h
  simp only [ofInt, limit]
  omega

/-- Whether a decimal is greater than zero. -/
def isPositive (d : Decimal) : Bool := 0 < d.coefficient

/-! ## Plain notation -/

/-- The digits of a magnitude with a point before the last `scale` of them. -/
def magnitudeChars (magnitude scale : Nat) : List Char :=
  if scale = 0 then Numeral.digits magnitude
  else
    Numeral.digits (magnitude / Nat.pow 10 scale) ++
      '.' :: Numeral.padded scale (magnitude % Nat.pow 10 scale)

/-- A decimal in plain notation, as characters. -/
def chars (d : Decimal) : List Char :=
  (if d.coefficient < 0 ∨ d.minusZero then ['-'] else []) ++
    magnitudeChars d.coefficient.natAbs d.scale

/-- A decimal in plain notation. -/
def text (d : Decimal) : String := String.ofList d.chars

/-! ## The same number with fewer digits -/

/-- Digits and scale without the trailing zeros after the point. -/
def stripZeros (coefficient : Int) : Nat → Int × Nat
  | 0 => (coefficient, 0)
  | scale + 1 =>
    if coefficient % 10 = 0 then stripZeros (coefficient / 10) scale else (coefficient, scale + 1)

theorem natAbs_stripZeros_le (c : Int) (s : Nat) : (stripZeros c s).1.natAbs ≤ c.natAbs := by
  induction s generalizing c with
  | zero => exact Nat.le_refl _
  | succ s ih =>
    simp only [stripZeros]
    split
    · exact Nat.le_trans (ih (c / 10)) (by omega)
    · exact Nat.le_refl _

theorem scale_stripZeros_le (c : Int) (s : Nat) : (stripZeros c s).2 ≤ s := by
  induction s generalizing c with
  | zero => exact Nat.le_refl _
  | succ s ih =>
    simp only [stripZeros]
    split
    · exact Nat.le_succ_of_le (ih (c / 10))
    · exact Nat.le_refl _

/-- The same number without trailing zeros after the point. -/
def normalize (d : Decimal) : Decimal where
  coefficient := (stripZeros d.coefficient d.scale).1
  scale := (stripZeros d.coefficient d.scale).2
  coefficient_lt := Nat.lt_of_le_of_lt (natAbs_stripZeros_le _ _) d.coefficient_lt
  scale_le := Nat.le_trans (scale_stripZeros_le _ _) d.scale_le

/-- The same digits with another scale, if it is at most 28. -/
def withScale? (d : Decimal) (scale : Nat) : Option Decimal :=
  if h : scale ≤ 28 then some { d with scale, scale_le := h } else none

/-- A magnitude with a sign. -/
def signed (negative : Bool) (magnitude : Nat) : Int :=
  if negative then -(magnitude : Int) else magnitude

@[simp] theorem natAbs_signed (negative : Bool) (magnitude : Nat) :
    (signed negative magnitude).natAbs = magnitude := by
  cases negative <;> simp [signed]

/-- Drops the last digits, a half and more going away from zero. A negative number that becomes zero
keeps its sign. -/
def dropDigits (d : Decimal) (count : Nat) : Decimal where
  coefficient :=
    signed (d.coefficient < 0) (Rounding.halfUp d.coefficient.natAbs (Nat.pow 10 count))
  scale := d.scale - count
  minusZero := d.minusZero ||
    (d.coefficient < 0 && Rounding.halfUp d.coefficient.natAbs (Nat.pow 10 count) == 0)
  coefficient_lt := by
    have pos : 0 < Nat.pow 10 count := Nat.pow_pos (by decide)
    rw [natAbs_signed]
    exact Nat.lt_of_le_of_lt (Rounding.halfUp_le _ pos) d.coefficient_lt
  scale_le := Nat.le_trans (Nat.sub_le _ _) d.scale_le
  coefficient_of_minusZero h := by
    rcases (Bool.or_eq_true _ _).mp h with h | h
    · have pos : 0 < Nat.pow 10 count := Nat.pow_pos (by decide)
      rw [d.coefficient_of_minusZero h, Int.natAbs_zero, Rounding.zero_halfUp pos]
      rfl
    · rw [eq_of_beq ((Bool.and_eq_true _ _).mp h).2]
      cases decide (d.coefficient < 0) <;> rfl

/-! ## The whole part -/

/-- The whole part of a decimal, toward zero. -/
def truncate (d : Decimal) : Int := d.coefficient.tdiv (Nat.pow 10 d.scale)

/-- What is left of a decimal after its whole part, with the scale of the decimal. -/
def fraction (d : Decimal) : Decimal where
  coefficient := d.coefficient.tmod (Nat.pow 10 d.scale)
  scale := d.scale
  coefficient_lt := by
    refine Nat.lt_of_le_of_lt ?_ d.coefficient_lt
    rw [Int.natAbs_tmod]
    exact Nat.mod_le _ _
  scale_le := d.scale_le

/-- The least signed integer of 64 bits. -/
def minInt64 : Int := -0x8000000000000000

/-- The greatest signed integer of 64 bits. -/
def maxInt64 : Int := 0x7fffffffffffffff

/-- Whether an integer is a signed integer of 64 bits. -/
def isInt64 (z : Int) : Bool := minInt64 ≤ z && z ≤ maxInt64

/-- The signed integers of 64 bits are those between the least and the greatest one. -/
theorem isInt64_iff {z : Int} : isInt64 z = true ↔ minInt64 ≤ z ∧ z ≤ maxInt64 := by
  rw [isInt64, Bool.and_eq_true, decide_eq_true_eq, decide_eq_true_eq]

/-- An integer that is not negative has 64 bits unless it is greater than the greatest one. -/
theorem isInt64_of_nonneg {z : Int} (nonneg : 0 ≤ z) : isInt64 z = decide (z ≤ maxInt64) := by
  have low : minInt64 ≤ z := by
    rw [minInt64]
    omega
  rw [isInt64, decide_eq_true low, Bool.true_and]

/-- The whole part of a decimal, if it is a signed integer of 64 bits. -/
def toInt64? (d : Decimal) : Option Int :=
  if isInt64 d.truncate then some d.truncate else none

/-! ## Products -/

/-- The magnitude `n / 10 ^ scale` with the fewest digits dropped that let it meet the limits of a
decimal, rounded half to even on the dropped digits; `none` if no scale is left to drop. -/
def fit? (n scale : Nat) : Option (Nat × Nat) :=
  ((List.range (scale + 1)).find? fun drop =>
    scale - drop ≤ 28 && Rounding.halfEven n (Nat.pow 10 drop) < limit).map fun drop =>
      (Rounding.halfEven n (Nat.pow 10 drop), scale - drop)

/-- The product of two decimals; a product with zero has no digits after the point. -/
def mul? (a b : Decimal) : Option Decimal :=
  if a.coefficient = 0 ∨ b.coefficient = 0 then some zero
  else do
    let (magnitude, scale) ←
      fit? (a.coefficient.natAbs * b.coefficient.natAbs) (a.scale + b.scale)
    mk? (signed (decide (a.coefficient < 0) != decide (b.coefficient < 0)) magnitude) scale

/-- The reciprocal of a positive decimal to 28 digits after the point, rounded half to even,
without trailing zeros. -/
def reciprocal? (d : Decimal) : Option Decimal :=
  if d.isPositive then
    (mk? (Rounding.halfEven (Nat.pow 10 (28 + d.scale)) d.coefficient.natAbs) 28).map normalize
  else none

end Decimal

end CurrencyLedger
