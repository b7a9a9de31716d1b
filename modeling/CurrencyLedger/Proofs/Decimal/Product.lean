import CurrencyLedger.Proofs.Decimal.Value

/-! # Products of either sign, and their order

A factor that is turned over turns the product over and changes nothing else, so what is known of
products that are not negative is known of all of them. Which digits a product has to drop depends
on how large it is. Still a greater factor gives no smaller product: where the number of digits
changes, the product with more digits is below the limit of decimals, and the other one is not.

* **`neg`**, **`mul?_neg`**, **`rounds_of_mul?`** — a decimal turned over, and products with it;
* **`truncate_eq`**, **`truncate_mono`** — the whole part of either sign, and its order;
* **`exists_mul?_of_value`** — a product can be written down, and is exact, wherever a decimal is;
* **`fit?_mono`**, **`mul?_mono`** — a greater factor gives no smaller product;
* **`exists_mul?_of_le`** — a smaller factor gives a product wherever a greater one does. -/

namespace CurrencyLedger

namespace Decimal

variable {a b c d : Decimal}

/-! ## Numbers turned over -/

/-- The decimal as far on the other side of zero. -/
def neg (d : Decimal) : Decimal where
  coefficient := -d.coefficient
  scale := d.scale
  coefficient_lt := by
    rw [Int.natAbs_neg]
    exact d.coefficient_lt
  scale_le := d.scale_le

@[simp] theorem coefficient_neg (d : Decimal) : d.neg.coefficient = -d.coefficient := rfl

@[simp] theorem scale_neg (d : Decimal) : d.neg.scale = d.scale := rfl

@[simp] theorem value_neg (d : Decimal) : d.neg.value = -d.value := by
  rw [value, value, coefficient_neg, scale_neg, Int.cast_neg, neg_div]

@[simp] theorem truncate_neg (d : Decimal) : d.neg.truncate = -d.truncate :=
  Int.neg_tdiv d.coefficient (Nat.pow 10 d.scale)

/-- What is left of a number that is turned over is turned over. -/
@[simp] theorem value_fraction_neg (d : Decimal) :
    d.neg.fraction.value = -d.fraction.value := by
  have parts := d.truncate_add_fraction
  have turned := d.neg.truncate_add_fraction
  rw [truncate_neg, value_neg, Int.cast_neg] at turned
  linarith

/-- A number that is turned over can be written down with the same limits. -/
theorem mk?_neg (coefficient : Int) (scale : Nat) :
    mk? (-coefficient) scale = (mk? coefficient scale).map neg := by
  unfold mk?
  by_cases fits : coefficient.natAbs < limit ∧ scale ≤ 28
  · rw [dif_pos fits, dif_pos (by rwa [Int.natAbs_neg])]
    rfl
  · rw [dif_neg fits, dif_neg (by rwa [Int.natAbs_neg])]
    rfl

/-- The product with a factor turned over is the product turned over. -/
theorem mul?_neg (a b : Decimal) : a.neg.mul? b = (a.mul? b).map neg := by
  unfold mul?
  by_cases none : a.coefficient = 0 ∨ b.coefficient = 0
  · rw [if_pos none, if_pos (none.imp_left fun zero => by rw [coefficient_neg, zero]; rfl)]
    rfl
  · have other : ¬ (a.neg.coefficient = 0 ∨ b.coefficient = 0) := by
      rwa [coefficient_neg, neg_eq_zero]
    -- Only the sign that is put before the magnitude is another.
    have sign (magnitude : Nat) :
        signed (decide (a.neg.coefficient < 0) != decide (b.coefficient < 0)) magnitude =
          -signed (decide (a.coefficient < 0) != decide (b.coefficient < 0)) magnitude := by
      have turned : decide (a.neg.coefficient < 0) = !decide (a.coefficient < 0) := by
        rw [coefficient_neg, ← decide_not]
        exact decide_eq_decide.2 (by omega)
      rw [turned]
      cases decide (a.coefficient < 0) <;> cases decide (b.coefficient < 0) <;> simp [signed]
    rw [if_neg none, if_neg other, coefficient_neg, Int.natAbs_neg, scale_neg]
    cases fit? (a.coefficient.natAbs * b.coefficient.natAbs) (a.scale + b.scale) with
    | none => rfl
    | some fitted =>
      rw [← coefficient_neg]
      exact (congrArg (mk? · fitted.2) (sign fitted.1)).trans (mk?_neg _ fitted.2)

/-- A number turned over is rounded as the number is. -/
theorem Rounds.neg {x : ℚ} (rounds : d.Rounds x) : d.neg.Rounds (-x) where
  near := by
    rw [value_neg, scale_neg, ← neg_sub', abs_neg]
    exact rounds.near
  exact_iff := by
    rw [value_neg, neg_inj, rounds.exact_iff]
    constructor
    · rintro ⟨e, rfl⟩
      exact ⟨e.neg, value_neg e⟩
    · rintro ⟨e, eq⟩
      exact ⟨e.neg, by rw [value_neg, eq, neg_neg]⟩
  full differs := by
    rw [coefficient_neg, Int.natAbs_neg]
    exact rounds.full fun same => differs (by rw [value_neg, same])

/-- A number is rounded as it is when it is turned over. -/
theorem Rounds.of_neg {x : ℚ} (rounds : d.neg.Rounds (-x)) : d.Rounds x := by
  have back := rounds.neg
  rw [neg_neg] at back
  constructor
  · simpa using back.near
  · simpa using back.exact_iff
  · simpa using back.full

/-- A product with a factor that is not negative has the sign of the other factor, and it is the
exact product rounded. -/
theorem rounds_of_mul? (hb : 0 ≤ b.coefficient) (h : a.mul? b = some c) :
    c.Rounds (a.value * b.value) ∧ (0 ≤ a.coefficient ∧ 0 ≤ c.coefficient ∨
      a.coefficient < 0 ∧ c.coefficient ≤ 0) := by
  rcases lt_or_ge a.coefficient 0 with ha | ha
  · have turned : a.neg.mul? b = some c.neg := by rw [mul?_neg, h, Option.map_some]
    obtain ⟨nonneg, rounds⟩ := mul?_rounds (Int.neg_nonneg_of_nonpos ha.le) hb turned
    rw [value_neg, neg_mul] at rounds
    exact ⟨rounds.of_neg, Or.inr ⟨ha, Int.nonpos_of_neg_nonneg nonneg⟩⟩
  · obtain ⟨nonneg, rounds⟩ := mul?_rounds ha hb h
    exact ⟨rounds, Or.inl ⟨ha, nonneg⟩⟩

/-! ## Whole parts of either sign -/

/-- The whole part of a number is the nearest whole number that is not further from zero. -/
theorem truncate_eq (d : Decimal) :
    d.truncate = if 0 ≤ d.value then ⌊d.value⌋ else ⌈d.value⌉ := by
  split
  case isTrue nonneg => exact truncate_eq_floor (value_nonneg_iff.1 nonneg)
  case isFalse negative =>
    have turned : 0 ≤ d.neg.coefficient := by
      rw [value_nonneg_iff] at negative
      rw [coefficient_neg]
      omega
    have floor := truncate_eq_floor turned
    rw [truncate_neg, value_neg, Int.floor_neg] at floor
    exact neg_inj.1 floor

/-- A greater number has no smaller whole part. -/
theorem truncate_mono (h : a.value ≤ b.value) : a.truncate ≤ b.truncate := by
  rw [truncate_eq, truncate_eq]
  by_cases ha : 0 ≤ a.value
  · rw [if_pos ha, if_pos (ha.trans h)]
    exact Int.floor_le_floor h
  · rw [if_neg ha]
    by_cases hb : 0 ≤ b.value
    · rw [if_pos hb]
      -- Zero stands between the two.
      exact le_trans (Int.ceil_le.2 (by push_cast; linarith)) (Int.floor_nonneg.2 hb)
    · rw [if_neg hb]
      exact Int.ceil_le_ceil h

/-- The whole part of a number that is not negative is not negative. -/
theorem truncate_nonneg (h : 0 ≤ d.coefficient) : 0 ≤ d.truncate := by
  rw [truncate_eq_floor h]
  exact Int.floor_nonneg.2 (value_nonneg_iff.2 h)

/-- What is left of a number is a proper fraction on the same side of zero. -/
theorem fraction_cases (d : Decimal) :
    0 ≤ d.coefficient ∧ 0 ≤ d.fraction.value ∧ d.fraction.value < 1 ∨
      d.coefficient ≤ 0 ∧ -1 < d.fraction.value ∧ d.fraction.value ≤ 0 := by
  rcases Int.le_total 0 d.coefficient with h | h
  · exact Or.inl ⟨h, fraction_bounds h⟩
  · obtain ⟨low, high⟩ := fraction_bounds (d := d.neg) (Int.neg_nonneg_of_nonpos h)
    rw [value_fraction_neg] at low high
    exact Or.inr ⟨h, by linarith, by linarith⟩

/-- A rounded number that is not negative has the whole part of the number, or the next whole
number, and then nothing is left beyond it. -/
theorem Rounds.truncate_eq_or {x : ℚ} (rounds : d.Rounds x) (nonneg : 0 ≤ d.coefficient) :
    d.truncate = ⌊x⌋ ∨ d.truncate = ⌊x⌋ + 1 ∧ d.fraction.value = 0 := by
  have whole := truncate_eq_floor nonneg
  rcases rounds.floor_eq_or with same | ⟨next, reached⟩
  · exact Or.inl (whole.trans same)
  · have parts := d.truncate_add_fraction
    rw [whole, ← reached] at parts
    exact Or.inr ⟨whole.trans next, left_eq_add.1 parts.symm⟩

/-- The magnitude of the whole part of a rounded number is that of the number, cut off, or the next
whole number, and then nothing is left beyond it. -/
theorem Rounds.abs_truncate {x : ℚ} (rounds : d.Rounds x)
    (side : 0 ≤ d.coefficient ∧ 0 ≤ x ∨ d.coefficient ≤ 0 ∧ x ≤ 0) :
    |d.truncate| = ⌊|x|⌋ ∨ |d.truncate| = ⌊|x|⌋ + 1 ∧ d.fraction.value = 0 := by
  rcases side with ⟨hd, hx⟩ | ⟨hd, hx⟩
  · rw [abs_of_nonneg (truncate_nonneg hd), abs_of_nonneg hx]
    exact rounds.truncate_eq_or hd
  · have turned : 0 ≤ d.neg.coefficient := Int.neg_nonneg_of_nonpos hd
    have nonpos : d.truncate ≤ 0 := by
      rw [← Int.neg_nonneg, ← truncate_neg]
      exact truncate_nonneg turned
    have either := rounds.neg.truncate_eq_or turned
    rw [truncate_neg, value_fraction_neg, neg_eq_zero] at either
    rw [abs_of_nonpos nonpos, abs_of_nonpos hx]
    exact either

/-! ## Which products there are -/

/-- A magnitude fits if it does without some of its digits. -/
theorem exists_fit? {n scale drop : Nat} (le : drop ≤ scale) (short : scale - drop ≤ 28)
    (fits : Rounding.halfEven n (Nat.pow 10 drop) < limit) :
    ∃ fitted, fit? n scale = some fitted := by
  unfold fit?
  rw [← Option.isSome_iff_exists, Option.isSome_map, List.find?_isSome]
  refine ⟨drop, List.mem_range.2 (Nat.lt_succ_of_le le), ?_⟩
  rw [Bool.and_eq_true, decide_eq_true_eq, decide_eq_true_eq]
  exact ⟨short, fits⟩

/-- A product can be written down if its magnitude fits. -/
theorem exists_mul?_of_fit? {fitted : Nat × Nat}
    (h : fit? (a.coefficient.natAbs * b.coefficient.natAbs) (a.scale + b.scale) = some fitted) :
    ∃ c, a.mul? b = some c := by
  unfold mul?
  split
  case isTrue => exact ⟨zero, rfl⟩
  case isFalse =>
    obtain ⟨drop, -, -, -, short, small, -⟩ := fit?_eq_some h
    simp only [h, Option.bind_eq_bind, Option.bind_some, mk?, natAbs_signed]
    rw [dif_pos ⟨small, short⟩]
    exact ⟨_, rfl⟩

/-- The magnitude of a product of two numbers other than zero is what fits. -/
theorem fit?_of_mul? (h : a.mul? b = some c) (other : ¬ (a.coefficient = 0 ∨ b.coefficient = 0)) :
    fit? (a.coefficient.natAbs * b.coefficient.natAbs) (a.scale + b.scale) =
      some (c.coefficient.natAbs, c.scale) := by
  unfold mul? at h
  rw [if_neg other] at h
  obtain ⟨⟨magnitude, kept⟩, fitted, made⟩ := Option.bind_eq_some_iff.1 h
  dsimp only [mk?] at made
  split at made
  case isFalse => cases made
  case isTrue =>
    obtain rfl := Option.some.inj made
    rw [fitted, natAbs_signed]

/-- A product can be written down, and is exact, wherever some decimal is the product. -/
theorem exists_mul?_of_value (ha : 0 ≤ a.coefficient) (hb : 0 ≤ b.coefficient)
    (same : d.value = a.value * b.value) :
    ∃ c, a.mul? b = some c ∧ c.value = a.value * b.value := by
  have nonneg : 0 ≤ d.coefficient := by
    rw [← value_nonneg_iff, same]
    exact mul_nonneg (value_nonneg_iff.2 ha) (value_nonneg_iff.2 hb)
  have cross : a.coefficient.natAbs * b.coefficient.natAbs * 10 ^ d.scale =
      d.coefficient.natAbs * 10 ^ (a.scale + b.scale) := by
    rw [value_eq_natAbs nonneg, value_eq_natAbs ha, value_eq_natAbs hb, div_mul_div_comm, ← pow_add,
      div_eq_div_iff (by positivity) (by positivity)] at same
    exact_mod_cast same.symm
  obtain ⟨fitted, fits⟩ : ∃ fitted,
      fit? (a.coefficient.natAbs * b.coefficient.natAbs) (a.scale + b.scale) = some fitted := by
    generalize a.coefficient.natAbs * b.coefficient.natAbs = n at cross ⊢
    generalize a.scale + b.scale = scale at cross ⊢
    have small := d.coefficient_lt
    rcases digits_cases cross with ⟨fewer, zeros⟩ | ⟨more, grown⟩
    · -- All digits that the decimal does not have are zeros.
      refine exists_fit? (Nat.sub_le scale d.scale) ?_ ?_
      · have := d.scale_le
        omega
      · have whole := Rounding.halfEven_mul_right d.coefficient.natAbs
          (d := Nat.pow 10 (scale - d.scale)) (Nat.pow_pos (by decide))
        rw [zeros]
        exact Nat.lt_of_le_of_lt (Nat.le_of_eq whole) small
    · -- The decimal has more digits than the product, so the product fits as it is.
      refine exists_fit? (Nat.zero_le scale) (Nat.le_trans more d.scale_le) ?_
      have below : n ≤ d.coefficient.natAbs := by
        rw [grown]
        exact Nat.le_mul_of_pos_right n (Nat.pow_pos (by decide))
      exact Nat.lt_of_le_of_lt ((Nat.le_of_eq (Rounding.halfEven_one n)).trans below) small
  obtain ⟨c, product⟩ := exists_mul?_of_fit? fits
  exact ⟨c, product, (mul?_rounds ha hb product).2.exact_iff.2 ⟨d, same⟩⟩

/-- A product whose whole part has 64 bits is exact, if it is a whole number. -/
theorem truncate_of_mul? {n : Int} (ha : 0 ≤ a.coefficient)
    (hb : 0 ≤ b.coefficient) (h : a.mul? b = some c) (whole : a.value * b.value = n)
    (inside : isInt64 c.truncate = true) : c.truncate = n := by
  obtain ⟨nonneg, rounds⟩ := mul?_rounds ha hb h
  rw [whole] at rounds
  rw [truncate_eq_floor nonneg] at inside ⊢
  -- The product is near a number of 64 bits, so that it can be written down itself.
  have positive : 0 ≤ n := by
    have : (0 : ℚ) ≤ a.value * b.value :=
      mul_nonneg (value_nonneg_iff.2 ha) (value_nonneg_iff.2 hb)
    rw [whole] at this
    exact_mod_cast this
  have high : ⌊c.value⌋ ≤ maxInt64 := of_decide_eq_true (Bool.and_eq_true_iff.1 inside).2
  have near : (n : ℚ) < ⌊c.value⌋ + 2 := by
    have half : (1 / (2 * 10 ^ c.scale) : ℚ) ≤ 1 := by
      rw [div_le_one (by positivity)]
      have : (1 : ℚ) ≤ 10 ^ c.scale := one_le_pow₀ (by norm_num)
      linarith
    have below := (abs_le.1 rounds.near).1
    have next := Int.lt_floor_add_one c.value
    linarith
  have below : n < ⌊c.value⌋ + 2 := by exact_mod_cast near
  have small : n.natAbs < limit := by
    rw [maxInt64] at high
    rw [limit]
    omega
  have exact : c.value = n := rounds.exact_iff.2 ⟨ofInt n, value_ofInt small⟩
  rw [exact, Int.floor_intCast]

/-! ## The order of products -/

/-- Of two magnitudes with one scale the greater one fits as a number that is no smaller. -/
theorem fit?_mono {n m scale p k q l : Nat} (le : n ≤ m) (hn : fit? n scale = some (p, k))
    (hm : fit? m scale = some (q, l)) : p * 10 ^ l ≤ q * 10 ^ k := by
  obtain ⟨drop, less, rfl, rfl, short, small, least⟩ := fit?_eq_some hn
  obtain ⟨drop', less', rounded, rfl, short', small', -⟩ := fit?_eq_some hm
  have mono (drop : Nat) :
      Rounding.halfEven n (Nat.pow 10 drop) ≤ Rounding.halfEven m (Nat.pow 10 drop) :=
    Rounding.halfEven_mono (Nat.pow_pos (by decide)) le
  rcases Nat.lt_trichotomy drop drop' with fewer | rfl | more
  · -- The greater one drops more digits, so what it keeps nearly fills the 96 bits.
    have full : limit ≤ 10 * q := by
      rcases fit?_full hm (by omega) with last | full
      · omega
      · rw [limit] at full ⊢
        omega
    calc Rounding.halfEven n (Nat.pow 10 drop) * 10 ^ (scale - drop')
        ≤ q * 10 * 10 ^ (scale - drop') := Nat.mul_le_mul_right _ (by omega)
      _ = q * 10 ^ (scale - drop' + 1) := by rw [Nat.pow_succ']; ring
      _ ≤ q * 10 ^ (scale - drop) :=
        Nat.mul_le_mul_left q (Nat.pow_le_pow_right (by decide) (by omega))
  · rw [rounded]
    exact Nat.mul_le_mul_right _ (mono drop)
  · -- The greater one cannot do with fewer digits dropped than the smaller one.
    have big := least drop' more short'
    have := mono drop'
    omega

/-- A magnitude fits if a greater one does. -/
theorem exists_fit?_of_le {n m scale : Nat} {fitted : Nat × Nat} (le : n ≤ m)
    (h : fit? m scale = some fitted) : ∃ fitted, fit? n scale = some fitted := by
  obtain ⟨drop, less, rounded, kept, short, small, -⟩ := fit?_eq_some h
  rw [kept] at short
  rw [rounded] at small
  refine exists_fit? less short (Nat.lt_of_le_of_lt ?_ small)
  exact Rounding.halfEven_mono (Nat.pow_pos (by decide)) le

variable {e f : Decimal}

/-- Of two factors with one scale that are not negative the greater one gives no smaller product. -/
theorem mul?_mono_of_nonneg (ha : 0 ≤ a.coefficient) (hb : 0 ≤ b.coefficient)
    (scale : a.scale = e.scale) (le : a.coefficient ≤ e.coefficient) (h : a.mul? b = some c)
    (h' : e.mul? b = some f) : c.value ≤ f.value := by
  have nonneg := (mul?_rounds ha hb h).1
  have nonneg' := (mul?_rounds (ha.trans le) hb h').1
  by_cases none : a.coefficient = 0 ∨ b.coefficient = 0
  · unfold mul? at h
    rw [if_pos none] at h
    obtain rfl := Option.some.inj h
    rw [value_zero]
    exact value_nonneg_iff.2 nonneg'
  · have other : ¬ (e.coefficient = 0 ∨ b.coefficient = 0) := by omega
    have fits := fit?_of_mul? h none
    have fits' := fit?_of_mul? h' other
    rw [← scale] at fits'
    have cross := fit?_mono (Nat.mul_le_mul_right _ (by omega)) fits fits'
    rw [value_eq_natAbs nonneg, value_eq_natAbs nonneg',
      div_le_div_iff₀ (by positivity) (by positivity)]
    exact_mod_cast cross

/-- Of two factors with one scale the greater one gives no smaller product with a number that is not
negative. -/
theorem mul?_mono (hb : 0 ≤ b.coefficient) (scale : a.scale = e.scale)
    (le : a.coefficient ≤ e.coefficient) (h : a.mul? b = some c) (h' : e.mul? b = some f) :
    c.value ≤ f.value := by
  rcases lt_or_ge a.coefficient 0 with ha | ha
  · rcases lt_or_ge e.coefficient 0 with he | he
    · -- Turned over, the first factor is the greater one.
      have turned : a.neg.mul? b = some c.neg := by rw [mul?_neg, h, Option.map_some]
      have turned' : e.neg.mul? b = some f.neg := by rw [mul?_neg, h', Option.map_some]
      have mono := mul?_mono_of_nonneg (a := e.neg) (e := a.neg)
        (Int.neg_nonneg_of_nonpos he.le) hb scale.symm (Int.neg_le_neg le) turned' turned
      rw [value_neg, value_neg] at mono
      exact neg_le_neg_iff.1 mono
    · -- Zero stands between the products.
      have nonpos : 0 ≤ c.neg.coefficient := by
        rcases (rounds_of_mul? hb h).2 with ⟨nonneg, -⟩ | ⟨-, nonpos⟩
        · omega
        · exact Int.neg_nonneg_of_nonpos nonpos
      rw [← value_nonneg_iff, value_neg] at nonpos
      have nonneg := value_nonneg_iff.2 (mul?_rounds he hb h').1
      linarith
  · exact mul?_mono_of_nonneg ha hb scale le h h'

/-- A factor that is not negative gives a product if a greater one with its scale does. -/
theorem exists_mul?_of_le (ha : 0 ≤ a.coefficient) (scale : a.scale = e.scale)
    (le : a.coefficient ≤ e.coefficient) (h : e.mul? b = some f) : ∃ c, a.mul? b = some c := by
  by_cases none : a.coefficient = 0 ∨ b.coefficient = 0
  · unfold mul?
    rw [if_pos none]
    exact ⟨zero, rfl⟩
  · have other : ¬ (e.coefficient = 0 ∨ b.coefficient = 0) := by omega
    have less : a.coefficient.natAbs ≤ e.coefficient.natAbs := by omega
    have fits := fit?_of_mul? h other
    rw [← scale] at fits
    obtain ⟨fitted, fits⟩ := exists_fit?_of_le (Nat.mul_le_mul_right _ less) fits
    exact exists_mul?_of_fit? fits

end Decimal

end CurrencyLedger
