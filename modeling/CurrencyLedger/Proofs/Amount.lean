import CurrencyLedger.Amount
import CurrencyLedger.Proofs.Decimal.Product

/-! # Amounts in major units

A decimal in major units is an amount if it is a whole number of minor units within the limits. It
is multiplied to count them, which may drop digits; but a product that is a whole number has nothing
but zeros to drop, so the amount is the number itself or there is none.

* **`Decimal.isLeast_scale_normalize`** — how many places a number has;
* **`Amount.ofMajor_of_whole`** — a whole number of minor units is what is counted;
* **`Amount.Refused`** — why a number is no amount;
* **`Amount.ofMajor_inverts`** — an amount is read back from its major units, every number of minor
  units within the limits is one, and any other number is refused. -/

namespace CurrencyLedger

namespace Decimal

variable {d : Decimal}

/-- The sign of the coefficient is the sign of the number. -/
theorem value_pos_iff : 0 < d.value ↔ 0 < d.coefficient := by
  rw [value, lt_div_iff₀ (by positivity), zero_mul]
  exact_mod_cast Iff.rfl

/-- Without trailing zeros a number has no places, or its last digit is not zero. -/
theorem stripZeros_cases (c : Int) (s : Nat) :
    (stripZeros c s).2 = 0 ∨ (stripZeros c s).1 % 10 ≠ 0 := by
  induction s generalizing c with
  | zero => exact Or.inl rfl
  | succ s ih =>
    rw [stripZeros]
    split
    case isTrue => exact ih (c / 10)
    case isFalse other => exact Or.inr other

/-- Without trailing zeros a number has the fewest places with which it can be written down. -/
theorem isLeast_scale_normalize (d : Decimal) :
    IsLeast {places : Nat | ∃ z : ℤ, d.value * 10 ^ places = z} d.normalize.scale := by
  have digits : d.value * 10 ^ d.normalize.scale = d.normalize.coefficient := by
    rw [← value_normalize, value, div_mul_cancel₀ _ (by positivity)]
  refine ⟨⟨d.normalize.coefficient, digits⟩, ?_⟩
  rintro places ⟨z, whole⟩
  by_contra fewer
  obtain ⟨more, scale⟩ : ∃ more, d.normalize.scale = places + (more + 1) :=
    ⟨d.normalize.scale - places - 1, by omega⟩
  -- With a place more than it needs, the number would end with a zero.
  have zeros : d.normalize.coefficient = z * 10 ^ more * 10 := by
    have : (d.normalize.coefficient : ℚ) = z * 10 ^ more * 10 := by
      rw [← digits, ← whole, scale]
      ring
    exact_mod_cast this
  rcases stripZeros_cases d.coefficient d.scale with none | other
  · have : d.normalize.scale = 0 := none
    omega
  · have : d.normalize.coefficient % 10 ≠ 0 := other
    omega

/-- A number is a whole number of parts iff it has no more places than they have. -/
theorem scale_normalize_le_iff {scale : Nat} :
    d.normalize.scale ≤ scale ↔ ∃ z : ℤ, d.value * 10 ^ scale = z := by
  obtain ⟨⟨z, whole⟩, least⟩ := d.isLeast_scale_normalize
  constructor
  · intro enough
    obtain ⟨more, rfl⟩ := Nat.exists_eq_add_of_le enough
    refine ⟨z * 10 ^ more, ?_⟩
    rw [pow_add, ← mul_assoc, whole]
    push_cast
    rfl
  · exact fun whole => least whole

end Decimal

namespace Amount

variable {value : Decimal} {scale : Nat} {n : Int} {a : Amount}

/-! ## Counting minor units -/

/-- The minor units of an amount are a number of 64 bits. -/
theorem isInt64_minor (a : Amount) : Decimal.isInt64 a.minor = true := by
  have positive := a.positive
  have le_max := a.le_max
  rw [maxAmount] at le_max
  rw [Decimal.isInt64_iff, Decimal.minInt64, Decimal.maxInt64]
  omega

/-- An amount of minor units has that many. -/
theorem ofMinor_minor (a : Amount) : ofMinor a.minor = .ok a := by
  have low : ¬ a.minor ≤ 0 := Int.not_le.2 a.positive
  have high : ¬ maxAmount < a.minor := Int.not_lt.2 a.le_max
  rw [ofMinor, dif_neg low, dif_neg high]

/-- Too many minor units are no amount. -/
theorem ofMinor_of_large (large : maxAmount < n) : ofMinor n = .error .overflow := by
  have low : ¬ n ≤ 0 := by
    rw [maxAmount] at large
    omega
  rw [ofMinor, dif_neg low, dif_pos large]

/-- A number that is not positive is no amount. -/
theorem ofMajor_of_nonpos (low : value.value ≤ 0) :
    ofMajor value scale = .error (.notPositive value) := by
  have negative : value.isPositive = false :=
    decide_eq_false fun positive => absurd (Decimal.value_pos_iff.2 positive) (not_lt.2 low)
  rw [ofMajor, negative, if_neg Bool.false_ne_true]

/-- A number with more places than minor units have is no amount. -/
theorem ofMajor_of_places (positive : 0 < value.value) (more : scale < value.normalize.scale) :
    ofMajor value scale = .error (.tooManyDecimals scale value.normalize.scale) := by
  have sign : value.isPositive = true := decide_eq_true (Decimal.value_pos_iff.1 positive)
  rw [ofMajor, if_pos sign]
  exact if_pos more

/-- Minor units with too many places are not supported. -/
theorem ofMajor_of_scale (positive : 0 < value.value) (enough : value.normalize.scale ≤ scale)
    (many : maxPlaces < scale) : ofMajor value scale = .error (.invalidScale scale) := by
  have sign : value.isPositive = true := decide_eq_true (Decimal.value_pos_iff.1 positive)
  rw [ofMajor, if_pos sign, factor, if_pos many]
  exact if_neg (Nat.not_lt.2 enough)

/-- How many minor units make a major unit. -/
theorem value_factor (few : scale ≤ maxPlaces) :
    (Decimal.ofInt (Nat.pow 10 scale)).value = 10 ^ scale := by
  have small : (Nat.pow 10 scale : ℤ).natAbs < Decimal.limit :=
    Nat.lt_of_le_of_lt (Nat.pow_le_pow_right (by decide) few) (by decide)
  rw [Decimal.value_ofInt small]
  exact_mod_cast rfl

/-- Any other number is counted, if its product with a major unit can be. -/
theorem ofMajor_eq (positive : 0 < value.value) (enough : value.normalize.scale ≤ scale)
    (few : scale ≤ maxPlaces) :
    ofMajor value scale =
      ((value.normalize.mul? (.ofInt (Nat.pow 10 scale))).bind Decimal.toInt64?).elim
        (.error .overflow) ofMinor := by
  have sign : value.isPositive = true := decide_eq_true (Decimal.value_pos_iff.1 positive)
  simp only [ofMajor, sign, if_true, if_neg (Nat.not_lt.2 enough), factor,
    if_neg (Nat.not_lt.2 few), bind, Except.bind]
  cases (value.normalize.mul? (.ofInt (Nat.pow 10 scale))).bind Decimal.toInt64? with
  | none => rfl
  | some minor => rfl

/-- A positive whole number of minor units is what is counted. -/
theorem ofMajor_of_whole (few : scale ≤ maxPlaces) (positive : 0 < n)
    (whole : value.value * 10 ^ scale = n) : ofMajor value scale = ofMinor n := by
  have above : 0 < value.value := by
    have : 0 < value.value * 10 ^ scale := by
      rw [whole]
      exact_mod_cast positive
    exact pos_of_mul_pos_left this (by positivity)
  have enough : value.normalize.scale ≤ scale := Decimal.scale_normalize_le_iff.2 ⟨n, whole⟩
  have nonneg : 0 ≤ value.normalize.coefficient := by
    rw [← Decimal.value_nonneg_iff, Decimal.value_normalize]
    exact above.le
  have unit : 0 ≤ (Decimal.ofInt (Nat.pow 10 scale)).coefficient := by
    rw [← Decimal.value_nonneg_iff, value_factor few]
    positivity
  have product : value.normalize.value * (Decimal.ofInt (Nat.pow 10 scale)).value = n := by
    rw [Decimal.value_normalize, value_factor few, whole]
  rw [ofMajor_eq above enough few]
  rcases lt_or_ge maxAmount n with large | small
  · -- Whatever the product is, there is no amount of so many.
    rw [ofMinor_of_large large]
    cases counted : (value.normalize.mul? (.ofInt (Nat.pow 10 scale))).bind Decimal.toInt64? with
    | none => rfl
    | some minor =>
      obtain ⟨c, times, reached⟩ := Option.bind_eq_some_iff.1 counted
      rw [Decimal.toInt64?] at reached
      split at reached
      case isFalse => cases reached
      case isTrue inside =>
        rw [← Option.some.inj reached, Decimal.truncate_of_mul? nonneg unit times product inside]
        exact ofMinor_of_large large
  · -- So many can be written down, so the product has nothing but zeros to drop.
    have inside : Decimal.isInt64 n = true := isInt64_minor ⟨n, positive, small⟩
    obtain ⟨c, times, exact⟩ := Decimal.exists_mul?_of_value nonneg unit
      (product ▸ Decimal.value_ofInt (Decimal.natAbs_lt_limit inside))
    have reached : c.truncate = n := by
      rw [Decimal.truncate_eq_floor (Decimal.mul?_rounds nonneg unit times).1, exact, product,
        Int.floor_intCast]
    rw [times, Option.bind_some, Decimal.toInt64?, reached, if_pos inside, Option.elim_some]

/-! ## Which numbers are amounts -/

/-- Why a number of major units is no amount. Each constructor says that nothing before it
applies. -/
inductive Refused (value : Decimal) (scale : Nat) : AmountError → Prop where
  /-- The number is not positive. -/
  | notPositive (low : value.value ≤ 0) : Refused value scale (.notPositive value)
  /-- It has more places than minor units have. -/
  | tooManyDecimals (places : Nat) (positive : 0 < value.value)
      (least : IsLeast {k : Nat | ∃ z : ℤ, value.value * 10 ^ k = z} places)
      (more : scale < places) : Refused value scale (.tooManyDecimals scale places)
  /-- It is a whole number of minor units, but these have more places than are supported. -/
  | invalidScale (positive : 0 < value.value) (whole : ∃ z : ℤ, value.value * 10 ^ scale = z)
      (many : maxPlaces < scale) : Refused value scale (.invalidScale scale)
  /-- It is more minor units than an amount may have. -/
  | overflow (n : ℤ) (few : scale ≤ maxPlaces) (whole : value.value * 10 ^ scale = n)
      (large : maxAmount < n) : Refused value scale .overflow

/-- A number that is refused is no amount, for the reason for which it is refused. -/
theorem Refused.ofMajor_eq {error : AmountError} (refused : Refused value scale error) :
    ofMajor value scale = .error error := by
  cases refused with
  | notPositive low => exact ofMajor_of_nonpos low
  | tooManyDecimals places positive least more =>
    obtain rfl := value.isLeast_scale_normalize.unique least
    exact ofMajor_of_places positive more
  | invalidScale positive whole many =>
    exact ofMajor_of_scale positive (Decimal.scale_normalize_le_iff.2 whole) many
  | overflow n few whole large =>
    have positive : 0 < n := by
      rw [maxAmount] at large
      omega
    rw [ofMajor_of_whole few positive whole, ofMinor_of_large large]

/-- A number is refused, or it is a number of minor units and gives as many. -/
theorem ofMajor_cases (value : Decimal) (scale : Nat) :
    (∃ error, Refused value scale error) ∨
      ∃ a, scale ≤ maxPlaces ∧ value.value * 10 ^ scale = a.minor ∧
        ofMajor value scale = .ok a := by
  rcases le_or_gt value.value 0 with low | positive
  · exact Or.inl ⟨_, .notPositive low⟩
  rcases Nat.lt_or_ge scale value.normalize.scale with more | enough
  · exact Or.inl ⟨_, .tooManyDecimals _ positive value.isLeast_scale_normalize more⟩
  obtain ⟨n, whole⟩ := Decimal.scale_normalize_le_iff.1 enough
  rcases Nat.lt_or_ge maxPlaces scale with many | few
  · exact Or.inl ⟨_, .invalidScale positive ⟨n, whole⟩ many⟩
  rcases lt_or_ge maxAmount n with large | small
  · exact Or.inl ⟨_, .overflow n few whole large⟩
  have above : 0 < n := by
    have : (0 : ℚ) < n := whole ▸ mul_pos positive (by positivity)
    exact_mod_cast this
  refine Or.inr ⟨⟨n, above, small⟩, few, whole, ?_⟩
  exact (ofMajor_of_whole few above whole).trans (ofMinor_minor ⟨n, above, small⟩)

/-- The amount of a number of major units is the whole number of minor units that it stands for. -/
theorem minor_of_ofMajor (h : ofMajor value scale = .ok a) :
    scale ≤ maxPlaces ∧ value.value * 10 ^ scale = a.minor := by
  rcases ofMajor_cases value scale with ⟨error, refused⟩ | ⟨b, few, whole, counted⟩
  · cases h.symm.trans refused.ofMajor_eq
  · cases h.symm.trans counted
    exact ⟨few, whole⟩

/-- Amounts of numbers of major units are equal iff the numbers are. -/
theorem ofMajor_inj {other : Decimal} {b : Amount} (ha : ofMajor value scale = .ok a)
    (hb : ofMajor other scale = .ok b) : a = b ↔ value.value = other.value := by
  have first := (minor_of_ofMajor ha).2
  have second := (minor_of_ofMajor hb).2
  constructor
  · rintro rfl
    exact mul_right_cancel₀ (pow_ne_zero scale (by norm_num)) (first.trans second.symm)
  · intro same
    rw [same, second] at first
    exact Amount.ext (by exact_mod_cast first.symm)

/-- An amount in major units has the value of its minor units. -/
theorem value_toMajor (a : Amount) (few : scale ≤ maxPlaces) :
    (a.toMajor scale).value = a.minor / 10 ^ scale := by
  have places : (a.toMajor scale).scale = scale := Nat.min_eq_left few
  have digits : (a.toMajor scale).coefficient = a.minor :=
    Decimal.coefficient_ofInt (Decimal.natAbs_lt_limit a.isInt64_minor)
  rw [Decimal.value, places, digits]

/-- A number of major units is an amount iff it is a number of minor units between one and the
greatest amount, with no more places than are supported; the amount in major units is the number
again, and any amount in major units gives that amount. Every other number is refused, for the first
reason that applies. -/
theorem ofMajor_inverts (value : Decimal) (scale : Nat) :
    (∀ n : Int, (∃ a, ofMajor value scale = .ok a ∧ a.minor = n) ↔
      scale ≤ maxPlaces ∧ 1 ≤ n ∧ n ≤ maxAmount ∧ value.value = n / 10 ^ scale) ∧
    (∀ a, ofMajor value scale = .ok a → (a.toMajor scale).value = value.value) ∧
    (∀ a : Amount, scale ≤ maxPlaces → ofMajor (a.toMajor scale) scale = .ok a) ∧
    ∀ error, ofMajor value scale = .error error ↔ Refused value scale error := by
  have ten : (10 : ℚ) ^ scale ≠ 0 := by positivity
  refine ⟨fun n => ⟨?_, ?_⟩, fun a counted => ?_, fun a few => ?_, fun error => ⟨?_, ?_⟩⟩
  · rintro ⟨a, counted, rfl⟩
    obtain ⟨few, whole⟩ := minor_of_ofMajor counted
    exact ⟨few, a.positive, a.le_max, eq_div_of_mul_eq ten whole⟩
  · rintro ⟨few, positive, small, same⟩
    have whole : value.value * 10 ^ scale = n := by rw [same, div_mul_cancel₀ _ ten]
    refine ⟨⟨n, positive, small⟩, ?_, rfl⟩
    exact (ofMajor_of_whole few positive whole).trans (ofMinor_minor ⟨n, positive, small⟩)
  · obtain ⟨few, whole⟩ := minor_of_ofMajor counted
    rw [value_toMajor a few, ← whole, mul_div_cancel_right₀ _ ten]
  · have whole : (a.toMajor scale).value * 10 ^ scale = a.minor := by
      rw [value_toMajor a few, div_mul_cancel₀ _ ten]
    rw [ofMajor_of_whole few a.positive whole, ofMinor_minor]
  · intro failed
    rcases ofMajor_cases value scale with ⟨other, refused⟩ | ⟨a, -, -, counted⟩
    · cases failed.symm.trans refused.ofMajor_eq
      exact refused
    · cases failed.symm.trans counted
  · exact fun refused => refused.ofMajor_eq

end Amount

end CurrencyLedger
