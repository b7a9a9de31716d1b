/-! # Rounding quotients

The quotient of two natural numbers, rounded to the nearest whole number.

* **`halfEven`** — of two equally near numbers the even one;
* **`halfUp`** — of two equally near numbers the greater one. -/

namespace CurrencyLedger.Rounding

/-- The whole number nearest to `n / d`, a half going to the even neighbour. -/
def halfEven (n d : Nat) : Nat :=
  let q := n / d
  let r := n % d
  if d < 2 * r ∨ (d = 2 * r ∧ q % 2 = 1) then q + 1 else q

/-- A whole quotient is not changed. -/
theorem halfEven_mul_right (q : Nat) {d : Nat} (h : 0 < d) : halfEven (q * d) d = q := by
  simp only [halfEven, Nat.mul_mod_left, Nat.mul_div_cancel q h]
  split <;> omega

/-- Rounding by one changes nothing. -/
@[simp] theorem halfEven_one (n : Nat) : halfEven n 1 = n := by
  simpa using halfEven_mul_right n (d := 1) (by decide)

/-- The rounded quotient is at most half a unit from the exact one. -/
theorem halfEven_near (n : Nat) {d : Nat} (h : 0 < d) :
    2 * (halfEven n d * d) ≤ 2 * n + d ∧ 2 * n ≤ 2 * (halfEven n d * d) + d := by
  have key : n / d * d + n % d = n := by
    have := Nat.div_add_mod n d
    rw [Nat.mul_comm] at this
    exact this
  have lt := Nat.mod_lt n h
  simp only [halfEven]
  generalize n / d = q at *
  generalize n % d = r at *
  split
  · rw [Nat.add_mul]
    generalize q * d = p at *
    omega
  · generalize q * d = p at *
    omega

/-- Of two numbers the greater one has no smaller rounded quotient. -/
theorem halfEven_mono {n m d : Nat} (h : 0 < d) (le : n ≤ m) : halfEven n d ≤ halfEven m d := by
  rcases Nat.eq_or_lt_of_le le with rfl | less
  · exact Nat.le_refl _
  · -- Each is half a unit away at most, so only equal numbers could be rounded past each other.
    refine Nat.le_of_not_lt fun cross => ?_
    have up := (halfEven_near n h).1
    have down := (halfEven_near m h).2
    have step : (halfEven m d + 1) * d ≤ halfEven n d * d := Nat.mul_le_mul_right d cross
    rw [Nat.add_mul] at step
    omega

/-- The whole number nearest to `n / d`, a half going up. -/
def halfUp (n d : Nat) : Nat := if d ≤ 2 * (n % d) then n / d + 1 else n / d

/-- A rounded quotient by a whole number is at most the number. -/
theorem halfUp_le (n : Nat) {d : Nat} (h : 0 < d) : halfUp n d ≤ n := by
  simp only [halfUp]
  split
  · next up =>
    have key := Nat.div_add_mod n d
    have := Nat.le_mul_of_pos_left (n / d) h
    omega
  · exact Nat.div_le_self n d

/-- Zero stays zero. -/
theorem zero_halfUp {d : Nat} (h : 0 < d) : halfUp 0 d = 0 := by
  have := halfUp_le 0 h
  omega

end CurrencyLedger.Rounding
