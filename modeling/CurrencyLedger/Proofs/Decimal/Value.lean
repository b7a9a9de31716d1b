import CurrencyLedger.Decimal.Basic
import Mathlib.Data.Rat.Floor
import Mathlib.Tactic.FieldSimp
import Mathlib.Tactic.Linarith
import Mathlib.Tactic.Positivity
import Mathlib.Tactic.Ring

/-! # Decimals as rational numbers

A decimal stands for a rational number, its coefficient over a power of ten. Its whole part and what
is left are exact. A product is the decimal next to the exact product on the finest grid on which it
can be written down; it is the exact product whenever some decimal is.

* **`value`** — the number a decimal stands for;
* **`truncate_add_fraction`**, **`truncate_eq_floor`** — the whole part and what is left;
* **`Rounds`** — a decimal is a number rounded to the last of its own digits;
* **`mul?_rounds`** — a product of two numbers that are not negative is rounded;
* **`Rounds.floor_eq_or`**, **`Rounds.nine_le_scale`** — what rounding does to the whole part, and
  how many digits it leaves. -/

namespace CurrencyLedger

namespace Decimal

/-- The number a decimal stands for. -/
def value (d : Decimal) : ℚ := d.coefficient / 10 ^ d.scale

/-- A decimal with no digits after the point is its coefficient. -/
theorem value_of_scale {d : Decimal} (whole : d.scale = 0) : d.value = d.coefficient := by
  rw [value, whole, pow_zero, div_one]

@[simp] theorem value_zero : zero.value = 0 := by
  rw [value_of_scale rfl]
  exact Int.cast_zero

/-- A signed integer of 64 bits has at most 96 bits. -/
theorem natAbs_lt_limit {z : Int} (counted : isInt64 z = true) : z.natAbs < limit := by
  rw [isInt64_iff, minInt64, maxInt64] at counted
  rw [limit]
  omega

/-- A whole number of at most 96 bits keeps its value. -/
theorem value_ofInt {z : Int} (small : z.natAbs < limit) : (ofInt z).value = z := by
  rw [value_of_scale (scale_ofInt z), coefficient_ofInt small]

/-- The magnitude of a number that is not negative gives its value. -/
theorem value_eq_natAbs {d : Decimal} (h : 0 ≤ d.coefficient) :
    d.value = d.coefficient.natAbs / 10 ^ d.scale := by
  rw [value, ← Int.cast_natCast, Int.natAbs_of_nonneg h]

/-- The sign of the coefficient is the sign of the number. -/
theorem value_nonneg_iff {d : Decimal} : 0 ≤ d.value ↔ 0 ≤ d.coefficient := by
  rw [value, le_div_iff₀ (by positivity), zero_mul]
  exact_mod_cast Iff.rfl

/-- Dropping zeros after the point changes nothing about the number. -/
theorem stripZeros_value (c : Int) (s : Nat) :
    ((stripZeros c s).1 : ℚ) / 10 ^ (stripZeros c s).2 = c / 10 ^ s := by
  induction s generalizing c with
  | zero => rfl
  | succ s ih =>
    rw [stripZeros]
    split
    case isFalse => rfl
    case isTrue zero =>
      rw [ih, Int.cast_div (Int.dvd_of_emod_eq_zero zero) (by norm_num), pow_succ]
      push_cast
      rw [div_div, mul_comm]

/-- The same number without trailing zeros is the same number. -/
@[simp] theorem value_normalize (d : Decimal) : d.normalize.value = d.value :=
  stripZeros_value d.coefficient d.scale

/-! ## Whole part and fraction -/

/-- The whole part of a number that is not negative is the greatest integer below it. -/
theorem truncate_eq_floor {d : Decimal} (h : 0 ≤ d.coefficient) : d.truncate = ⌊d.value⌋ := by
  have floor := Rat.floor_intCast_div_natCast d.coefficient (Nat.pow 10 d.scale)
  rw [truncate, Int.tdiv_eq_ediv_of_nonneg h, ← floor, value]
  congr 2
  exact Nat.cast_pow 10 d.scale

/-- The whole part and what is left make up the number. -/
theorem truncate_add_fraction (d : Decimal) : (d.truncate : ℚ) + d.fraction.value = d.value := by
  have parts : (Nat.pow 10 d.scale : Int) * d.truncate + d.fraction.coefficient = d.coefficient :=
    Int.mul_tdiv_add_tmod d.coefficient (Nat.pow 10 d.scale)
  have parts' : (10 : ℚ) ^ d.scale * d.truncate + d.fraction.coefficient = d.coefficient := by
    have cast := congrArg (Int.cast (R := ℚ)) parts
    push_cast at cast
    rw [← cast]
    congr 2
    exact (Nat.cast_pow 10 d.scale).symm
  have scale : d.fraction.scale = d.scale := rfl
  rw [value, value, scale, ← parts']
  field_simp

/-- The digits of a number are fewer than those of the next whole number after its whole part. -/
theorem natAbs_coefficient_lt (d : Decimal) :
    d.coefficient.natAbs < (d.truncate.natAbs + 1) * 10 ^ d.scale := by
  have positive : 0 < 10 ^ d.scale := Nat.pow_pos (by decide)
  have whole : d.truncate.natAbs = d.coefficient.natAbs / 10 ^ d.scale := by
    rw [truncate, Int.natAbs_tdiv]
    rfl
  rw [whole]
  exact Nat.lt_mul_of_div_lt (Nat.lt_succ_self _) positive

/-- What is left of a number that is not negative is a proper fraction. -/
theorem fraction_bounds {d : Decimal} (h : 0 ≤ d.coefficient) :
    0 ≤ d.fraction.value ∧ d.fraction.value < 1 := by
  have parts := d.truncate_add_fraction
  rw [truncate_eq_floor h] at parts
  have low := Int.floor_le d.value
  have high := Int.lt_floor_add_one d.value
  exact ⟨by linarith, by linarith⟩

/-! ## Rounded products -/

/-- What fitting a magnitude gives: the fewest digits dropped. -/
theorem fit?_eq_some {n scale magnitude kept : Nat} (h : fit? n scale = some (magnitude, kept)) :
    ∃ drop ≤ scale, magnitude = Rounding.halfEven n (Nat.pow 10 drop) ∧ kept = scale - drop ∧
      kept ≤ 28 ∧ magnitude < limit ∧
      ∀ fewer < drop, scale - fewer ≤ 28 → limit ≤ Rounding.halfEven n (Nat.pow 10 fewer) := by
  obtain ⟨drop, found, eq⟩ := Option.map_eq_some_iff.mp h
  obtain ⟨rfl, rfl⟩ := Prod.mk.inj eq
  obtain ⟨fits, mem, least⟩ := List.find?_range_eq_some.mp found
  simp only [Bool.and_eq_true, decide_eq_true_eq] at fits
  refine ⟨drop, ?_, rfl, rfl, fits.1, fits.2, fun fewer less high => ?_⟩
  · have := List.mem_range.mp mem
    omega
  · have fails := least fewer less
    simp only [Bool.not_eq_true', Bool.and_eq_false_iff, decide_eq_false_iff_not] at fails
    omega

/-- Fitting keeps a magnitude to half a unit of the digit that became the last one. -/
theorem fit?_near {n scale magnitude kept : Nat} (h : fit? n scale = some (magnitude, kept)) :
    |(magnitude / 10 ^ kept - n / 10 ^ scale : ℚ)| ≤ 1 / (2 * 10 ^ kept) := by
  obtain ⟨drop, le, rounded, rfl, -⟩ := fit?_eq_some h
  obtain ⟨low, high⟩ := Rounding.halfEven_near n (d := Nat.pow 10 drop) (Nat.pow_pos (by decide))
  rw [← rounded] at low high
  have low' : (2 * (magnitude * 10 ^ drop) : ℚ) ≤ 2 * n + 10 ^ drop := by exact_mod_cast low
  have high' : (2 * n : ℚ) ≤ 2 * (magnitude * 10 ^ drop) + 10 ^ drop := by exact_mod_cast high
  have split : (10 : ℚ) ^ scale = 10 ^ (scale - drop) * 10 ^ drop := by
    rw [← pow_add, Nat.sub_add_cancel le]
  have positive : (0 : ℚ) < 10 ^ drop := by positivity
  have positive' : (0 : ℚ) < 10 ^ (scale - drop) := by positivity
  have gap : (magnitude / 10 ^ (scale - drop) - n / 10 ^ scale : ℚ) =
      (2 * (magnitude * 10 ^ drop) - 2 * n) / (2 * (10 ^ (scale - drop) * 10 ^ drop)) := by
    rw [split]
    field_simp
  have unit : (1 / (2 * 10 ^ (scale - drop)) : ℚ) =
      10 ^ drop / (2 * (10 ^ (scale - drop) * 10 ^ drop)) := by
    field_simp
  rw [gap, unit, abs_div, abs_of_pos (a := 2 * _) (by positivity)]
  exact div_le_div_of_nonneg_right (abs_le.mpr ⟨by linarith, by linarith⟩) (by positivity)

/-- Of two ways to write down a number, the one with more places has zeros in those that the other
one does not have. -/
theorem digits_cases {n c s scale : Nat} (same : n * 10 ^ s = c * 10 ^ scale) :
    s ≤ scale ∧ n = c * 10 ^ (scale - s) ∨ scale ≤ s ∧ c = n * 10 ^ (s - scale) := by
  rcases Nat.le_total s scale with fewer | more
  · refine Or.inl ⟨fewer, ?_⟩
    apply Nat.eq_of_mul_eq_mul_right (Nat.pow_pos (n := s) (show 0 < 10 by decide))
    rw [same, Nat.mul_assoc, ← Nat.pow_add, Nat.sub_add_cancel fewer]
  · refine Or.inr ⟨more, ?_⟩
    apply Nat.eq_of_mul_eq_mul_right (Nat.pow_pos (n := scale) (show 0 < 10 by decide))
    rw [← same, Nat.mul_assoc, ← Nat.pow_add, Nat.sub_add_cancel more]

/-- Fitting changes nothing about a magnitude that some digits within the limits can express. -/
theorem fit?_exact {n scale magnitude kept c s : Nat} (h : fit? n scale = some (magnitude, kept))
    (small : c < limit) (short : s ≤ 28) (same : n * 10 ^ s = c * 10 ^ scale) :
    magnitude * 10 ^ scale = n * 10 ^ kept := by
  obtain ⟨drop, le, rounded, rfl, -, -, least⟩ := fit?_eq_some h
  -- Enough that the dropped digits are zeros.
  suffices zeros : ∃ q, n = q * 10 ^ drop by
    obtain ⟨q, rfl⟩ := zeros
    have kept : magnitude = q :=
      rounded.trans (Rounding.halfEven_mul_right q (Nat.pow_pos (by decide)))
    rw [kept, Nat.mul_assoc, ← Nat.pow_add, Nat.add_sub_cancel' le]
  rcases digits_cases same with ⟨fewer, split⟩ | ⟨more, grown⟩
  · have enough : drop ≤ scale - s := by
      by_contra beyond
      have big := least (scale - s) (by omega) (by omega)
      rw [split] at big
      have whole := Rounding.halfEven_mul_right c (d := Nat.pow 10 (scale - s))
        (Nat.pow_pos (by decide))
      exact absurd (Nat.le_trans big (Nat.le_of_eq whole)) (Nat.not_le_of_lt small)
    refine ⟨c * 10 ^ (scale - s - drop), ?_⟩
    rw [Nat.mul_assoc, ← Nat.pow_add, Nat.sub_add_cancel enough, split]
  · have below : n ≤ c := by
      rw [grown]
      exact Nat.le_mul_of_pos_right n (Nat.pow_pos (by decide))
    have none : drop = 0 := by
      by_contra some
      have big := least 0 (Nat.pos_of_ne_zero some) (by omega)
      have one : Rounding.halfEven n (Nat.pow 10 0) = n := Rounding.halfEven_one n
      omega
    exact ⟨n, by rw [none, Nat.pow_zero, Nat.mul_one]⟩

/-- Where fitting drops a digit, no digit is left unused: the scale is the greatest one, or the
magnitude nearly fills the 96 bits. -/
theorem fit?_full {n scale magnitude kept : Nat} (h : fit? n scale = some (magnitude, kept))
    (dropped : kept ≠ scale) : kept = 28 ∨ limit ≤ 10 * magnitude + 5 := by
  obtain ⟨drop, le, rounded, rfl, short, -, least⟩ := fit?_eq_some h
  obtain ⟨fewer, rfl⟩ : ∃ fewer, drop = fewer + 1 := ⟨drop - 1, by omega⟩
  refine or_iff_not_imp_left.mpr fun room => ?_
  have big := least fewer (Nat.lt_succ_self _) (by omega)
  have high := (Rounding.halfEven_near n (d := Nat.pow 10 (fewer + 1)) (Nat.pow_pos (by decide))).2
  have low := (Rounding.halfEven_near n (d := Nat.pow 10 fewer) (Nat.pow_pos (by decide))).1
  rw [← rounded] at high
  have ten : Nat.pow 10 (fewer + 1) = Nat.pow 10 fewer * 10 := rfl
  have positive : 0 < Nat.pow 10 fewer := Nat.pow_pos (by decide)
  rw [ten] at high
  generalize Rounding.halfEven n (Nat.pow 10 fewer) = before at *
  generalize Nat.pow 10 fewer = p at *
  have scaled : 2 * before * p ≤ (20 * magnitude + 11) * p := by
    calc 2 * before * p ≤ 2 * n + p := by rw [Nat.mul_assoc]; exact low
      _ ≤ 2 * (magnitude * (p * 10)) + p * 10 + p := Nat.add_le_add_right high p
      _ = (20 * magnitude + 11) * p := by ring
  have := Nat.le_of_mul_le_mul_right scaled positive
  omega

/-- A decimal is a number rounded. -/
structure Rounds (d : Decimal) (x : ℚ) : Prop where
  /-- It is at most half a unit of its last digit away. -/
  near : |d.value - x| ≤ 1 / (2 * 10 ^ d.scale)
  /-- It is the number itself wherever some decimal is. -/
  exact_iff : d.value = x ↔ ∃ e : Decimal, e.value = x
  /-- Where it is not, no digit is left unused. -/
  full : d.value ≠ x → d.scale = 28 ∨ limit ≤ 10 * d.coefficient.natAbs + 5

/-- A number that is a decimal is rounded to itself. -/
theorem Rounds.refl (d : Decimal) : d.Rounds d.value :=
  ⟨by rw [sub_self, abs_zero]; positivity, iff_of_true rfl ⟨d, rfl⟩, fun h => absurd rfl h⟩

/-- A magnitude that was made to fit is rounded. -/
theorem rounds_of_fit? {n scale : Nat} {d : Decimal} (nonneg : 0 ≤ d.coefficient)
    (h : fit? n scale = some (d.coefficient.natAbs, d.scale)) : d.Rounds (n / 10 ^ scale) := by
  have value := value_eq_natAbs nonneg
  have cross (m s : ℕ) : (m / 10 ^ s : ℚ) = n / 10 ^ scale ↔ n * 10 ^ s = m * 10 ^ scale := by
    rw [div_eq_div_iff (by positivity) (by positivity), eq_comm]
    exact_mod_cast Iff.rfl
  refine ⟨value ▸ fit?_near h, ⟨fun eq => ⟨d, eq⟩, fun ⟨e, eq⟩ => ?_⟩, fun differs => ?_⟩
  · have sign : 0 ≤ e.coefficient := by
      rw [← value_nonneg_iff, eq]
      positivity
    rw [value_eq_natAbs sign, cross] at eq
    rw [value, cross]
    exact (fit?_exact h e.coefficient_lt e.scale_le eq).symm
  · refine fit?_full h fun kept => differs ?_
    obtain ⟨drop, le, rounded, eq, -⟩ := fit?_eq_some h
    obtain rfl : drop = 0 := by omega
    have same : d.coefficient.natAbs = n := rounded.trans (Rounding.halfEven_one n)
    rw [value, same, kept]

/-- A product of two numbers that are not negative is the exact product rounded. -/
theorem mul?_rounds {a b c : Decimal} (ha : 0 ≤ a.coefficient) (hb : 0 ≤ b.coefficient)
    (h : a.mul? b = some c) : 0 ≤ c.coefficient ∧ c.Rounds (a.value * b.value) := by
  unfold mul? at h
  split at h
  · next none =>
    obtain rfl := Option.some.inj h
    have zero : a.value * b.value = Decimal.zero.value := by
      rcases none with none | none <;> simp [value, none, Decimal.zero]
    rw [zero]
    exact ⟨Int.le_refl 0, Rounds.refl _⟩
  · obtain ⟨⟨magnitude, kept⟩, fitted, made⟩ := Option.bind_eq_some_iff.mp h
    have positive : (decide (a.coefficient < 0) != decide (b.coefficient < 0)) = false := by
      rw [decide_eq_false (by omega), decide_eq_false (by omega)]
      rfl
    simp only [positive, signed, mk?, Bool.false_eq_true, if_false] at made
    split at made
    · obtain rfl := Option.some.inj made
      have product : a.value * b.value = ((a.coefficient.natAbs * b.coefficient.natAbs : ℕ) : ℚ) /
          10 ^ (a.scale + b.scale) := by
        rw [value_eq_natAbs ha, value_eq_natAbs hb, Nat.cast_mul, pow_add]
        ring
      rw [product]
      exact ⟨Int.natCast_nonneg _, rounds_of_fit? (Int.natCast_nonneg _) fitted⟩
    · cases made

/-! ## Where rounding shows in the whole part -/

/-- A decimal below a whole number is below it by a unit of its last digit at least. -/
theorem value_add_unit_le {d : Decimal} {k : ℤ} (less : d.value < k) :
    d.value + 1 / 10 ^ d.scale ≤ k := by
  have positive : (0 : ℚ) < 10 ^ d.scale := by positivity
  rw [value, div_lt_iff₀ positive] at less
  rw [value, ← add_div, div_le_iff₀ positive]
  exact_mod_cast Int.add_one_le_of_lt (by exact_mod_cast less)

/-- A decimal above a whole number is above it by a unit of its last digit at least. -/
theorem add_unit_le_value {d : Decimal} {k : ℤ} (greater : k < d.value) :
    k + 1 / 10 ^ d.scale ≤ d.value := by
  have positive : (0 : ℚ) < 10 ^ d.scale := by positivity
  rw [value, lt_div_iff₀ positive] at greater
  rw [value, ← le_sub_iff_add_le, ← sub_div, le_div_iff₀ positive, le_sub_iff_add_le]
  exact_mod_cast Int.add_one_le_of_lt (by exact_mod_cast greater)

/-- The whole part of a rounded number is that of the number, or the next one, and then nothing is
left beyond it. -/
theorem Rounds.floor_eq_or {d : Decimal} {x : ℚ} (rounds : d.Rounds x) :
    ⌊d.value⌋ = ⌊x⌋ ∨ ⌊d.value⌋ = ⌊x⌋ + 1 ∧ d.value = ⌊d.value⌋ := by
  obtain ⟨low, high⟩ := abs_le.mp rounds.near
  have unit : (0 : ℚ) < 1 / 10 ^ d.scale := by positivity
  have one : (1 / 10 ^ d.scale : ℚ) ≤ 1 :=
    div_le_one_of_le₀ (one_le_pow₀ (by norm_num)) (by positivity)
  have half : (1 / (2 * 10 ^ d.scale) : ℚ) = 1 / 10 ^ d.scale / 2 := by
    field_simp
  rw [half] at low high
  rcases lt_trichotomy ⌊d.value⌋ ⌊x⌋ with below | same | above
  · have gap := value_add_unit_le (Int.floor_lt.mp below)
    have := Int.floor_le x
    linarith
  · exact Or.inl same
  · have past := Int.floor_lt.mp above
    have whole : d.value = ⌊d.value⌋ := by
      refine le_antisymm (le_of_not_gt fun more => ?_) (Int.floor_le _)
      have gap := add_unit_le_value more
      linarith
    refine Or.inr ⟨le_antisymm ?_ (Int.add_one_le_of_lt above), whole⟩
    have : ⌊d.value⌋ - 1 ≤ ⌊x⌋ := Int.le_floor.mpr (by push_cast; linarith)
    linarith

/-- A rounded number whose whole part has 64 bits keeps nine digits after the point or more, unless
it is exact. -/
theorem Rounds.nine_le_scale {d : Decimal} {x : ℚ} (rounds : d.Rounds x)
    (inside : isInt64 d.truncate = true) : d.value = x ∨ 9 ≤ d.scale := by
  refine or_iff_not_imp_left.mpr fun differs => ?_
  rcases rounds.full differs with last | full
  · omega
  · by_contra few
    have power : 10 ^ d.scale ≤ 10 ^ 8 := Nat.pow_le_pow_right (by decide) (by omega)
    have whole : d.truncate.natAbs + 1 ≤ 2 ^ 63 + 1 := by
      rw [isInt64_iff, minInt64, maxInt64] at inside
      omega
    have bound := Nat.mul_le_mul whole power
    have below := natAbs_coefficient_lt d
    rw [limit] at full
    omega

end Decimal

end CurrencyLedger
