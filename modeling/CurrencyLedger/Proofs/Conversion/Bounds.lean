import CurrencyLedger.Proofs.Conversion
import CurrencyLedger.Proofs.Decimal.Product

/-! # Conversions of any amount

What holds of every conversion by a rate, also of amounts below zero. The product that is reported
has lost digits only if the exact one has more than fit, and then the ninth digit after the point is
still right. How many digits are lost depends on the amount, but a greater amount never converts to
less, and an amount can be converted wherever a greater one can.

* **`Conversion.Rounds`** — how the parts of a conversion relate to amount and rate;
* **`Rates.exists_convert`** — an amount can be converted if its product can be counted;
* **`Rates.convert_bounds`** — what holds of every conversion, and of every two. -/

namespace CurrencyLedger

/-- The parts of a conversion are those of the exact product, rounded. -/
structure Conversion.Rounds (c : Conversion) (amount : Int) (rate : Decimal) : Prop where
  /-- What is converted to is the whole part of the product, toward zero. -/
  whole : c.converted = if 0 ≤ c.exact.value then ⌊c.exact.value⌋ else ⌈c.exact.value⌉
  /-- What is converted to and what is left make up the product. -/
  parts : c.converted + c.remainder.value = c.exact.value
  /-- What is left is a proper fraction. -/
  proper : |c.remainder.value| < 1
  /-- It is not on the other side of zero than the amount. -/
  side : 0 ≤ c.remainder.value * amount
  /-- The product is exact if amount and rate together have digits of less than 96 bits. -/
  exact : amount.natAbs * rate.coefficient.natAbs < Decimal.limit →
    c.exact.value = amount * rate.value
  /-- It is right to nine digits after the point. -/
  near : |c.exact.value - amount * rate.value| ≤ 1 / 10 ^ 9
  /-- What is converted to is the whole part of the exact product, or the next whole number further
  from zero, and nothing is left then. -/
  next : |c.converted| = ⌊|amount * rate.value|⌋ ∨
    |c.converted| = ⌊|amount * rate.value|⌋ + 1 ∧ c.remainder.value = 0

namespace Rates

variable {rates : Rates} {amount other : Int} {source target : Currency} {rate exact : Decimal}
  {c c' : Conversion}

/-- A signed integer of 64 bits is kept as a decimal. -/
theorem coefficient_ofInt_of_isInt64 (counted : Decimal.isInt64 amount = true) :
    (Decimal.ofInt amount).coefficient = amount :=
  Decimal.coefficient_ofInt (Decimal.natAbs_lt_limit counted)

/-- An amount can be converted if the whole part of its product with the rate can be counted. -/
theorem exists_convert (stored : rates.rate? ⟨source, target⟩ = some rate)
    (product : (Decimal.ofInt amount).mul? rate = some exact)
    (inside : Decimal.isInt64 exact.truncate = true) :
    ∃ c, rates.convert amount source target = .ok c := by
  simp only [convert, if_neg (rate?_spec stored).1, stored, product, Decimal.toInt64?, inside,
    if_true]
  exact ⟨_, rfl⟩

/-- The parts of a conversion are those of the exact product, rounded. -/
theorem rounds_convert (counted : Decimal.isInt64 amount = true)
    (stored : rates.rate? ⟨source, target⟩ = some rate)
    (converted : rates.convert amount source target = .ok c) : c.Rounds amount rate := by
  obtain ⟨exact, product, inside, rfl⟩ := convert_eq_ok stored converted
  have kept := coefficient_ofInt_of_isInt64 counted
  have value : (Decimal.ofInt amount).value = amount := by
    rw [Decimal.value_of_scale (Decimal.scale_ofInt amount), kept]
  have positive := (rate?_spec stored).2
  have worth : 0 ≤ rate.value := Decimal.value_nonneg_iff.2 (le_of_lt positive)
  obtain ⟨rounds, sides⟩ := Decimal.rounds_of_mul? (le_of_lt positive) product
  rw [value] at rounds
  rw [kept] at sides
  refine ⟨exact.truncate_eq, exact.truncate_add_fraction, ?_, ?_, fun small => ?_, ?_, ?_⟩
  · rcases exact.fraction_cases with ⟨-, low, high⟩ | ⟨-, low, high⟩
    · exact abs_lt.2 ⟨by linarith, high⟩
    · exact abs_lt.2 ⟨low, by linarith⟩
  · rcases sides with ⟨nonneg, above⟩ | ⟨negative, below⟩
    · exact mul_nonneg (Decimal.fraction_bounds above).1 (by exact_mod_cast nonneg)
    · have turned := (Decimal.fraction_bounds (d := exact.neg) (Int.neg_nonneg_of_nonpos below)).1
      rw [Decimal.value_fraction_neg, neg_nonneg] at turned
      exact mul_nonneg_of_nonpos_of_nonpos turned (by exact_mod_cast negative.le)
  · -- Amount and rate have as many digits after the point as the rate has, so their product fits.
    refine rounds.exact_iff.2 ⟨⟨amount * rate.coefficient, rate.scale, false, ?_, rate.scale_le,
      fun minus => absurd minus Bool.false_ne_true⟩, ?_⟩
    · rwa [Int.natAbs_mul]
    · rw [Decimal.value, Decimal.value, Int.cast_mul, mul_div_assoc]
  · rcases rounds.nine_le_scale inside with same | nine
    · rw [same, sub_self, abs_zero]
      positivity
    · refine rounds.near.trans (one_div_le_one_div_of_le (by positivity) ?_)
      calc (10 : ℚ) ^ 9 ≤ 10 ^ exact.scale := pow_le_pow_right₀ (by norm_num) nine
        _ ≤ 2 * 10 ^ exact.scale := le_mul_of_one_le_left (by positivity) (by norm_num)
  · refine rounds.abs_truncate ?_
    rcases sides with ⟨nonneg, above⟩ | ⟨negative, below⟩
    · exact Or.inl ⟨above, mul_nonneg (by exact_mod_cast nonneg) worth⟩
    · exact Or.inr ⟨below, mul_nonpos_of_nonpos_of_nonneg (by exact_mod_cast negative.le) worth⟩

/-- Whatever the rates, a conversion by a rate rounds the exact product. A greater amount does not
convert to less, and where an amount can be converted that is not negative, every amount from zero
to it can be. -/
theorem convert_bounds (stored : rates.rate? ⟨source, target⟩ = some rate) :
    (∀ amount c, Decimal.isInt64 amount = true →
      rates.convert amount source target = .ok c → c.Rounds amount rate) ∧
    (∀ a b c d, Decimal.isInt64 a = true → Decimal.isInt64 b = true → a ≤ b →
      rates.convert a source target = .ok c → rates.convert b source target = .ok d →
        c.exact.value ≤ d.exact.value ∧ c.converted ≤ d.converted) ∧
    ∀ a b d, 0 ≤ a → a ≤ b → Decimal.isInt64 b = true → rates.convert b source target = .ok d →
      ∃ c, rates.convert a source target = .ok c := by
  have positive := (rate?_spec stored).2
  refine ⟨fun amount c counted converted => rounds_convert counted stored converted, ?_, ?_⟩
  · intro a b c d ha hb le first second
    obtain ⟨exact, product, -, rfl⟩ := convert_eq_ok stored first
    obtain ⟨exact', product', -, rfl⟩ := convert_eq_ok stored second
    rw [← coefficient_ofInt_of_isInt64 ha, ← coefficient_ofInt_of_isInt64 hb] at le
    have scale : (Decimal.ofInt a).scale = (Decimal.ofInt b).scale := rfl
    have mono := Decimal.mul?_mono (le_of_lt positive) scale le product product'
    exact ⟨mono, Decimal.truncate_mono mono⟩
  · intro a b d nonneg le hb converts
    obtain ⟨exact', product', inside, rfl⟩ := convert_eq_ok stored converts
    have ha : Decimal.isInt64 a = true := by
      rw [Decimal.isInt64_of_nonneg nonneg, decide_eq_true_eq]
      exact le.trans (Decimal.isInt64_iff.1 hb).2
    rw [← coefficient_ofInt_of_isInt64 ha, ← coefficient_ofInt_of_isInt64 hb] at le
    rw [← coefficient_ofInt_of_isInt64 ha] at nonneg
    have scale : (Decimal.ofInt a).scale = (Decimal.ofInt b).scale := rfl
    obtain ⟨exact, product⟩ := Decimal.exists_mul?_of_le nonneg scale le product'
    refine exists_convert stored product ?_
    -- The whole part stands between zero and one that can be counted.
    have low := Decimal.truncate_nonneg (Decimal.mul?_rounds nonneg (le_of_lt positive) product).1
    have high := Decimal.truncate_mono
      (Decimal.mul?_mono (le_of_lt positive) scale le product product')
    rw [Decimal.isInt64_of_nonneg low, decide_eq_true_eq]
    exact high.trans (Decimal.isInt64_iff.1 inside).2

/-- Three times a third of a thousand million is rounded away from zero on either side of it, and
four times as much stays further away. Two can be converted as three can. -/
theorem convert_bounds_thirds :
    (∃ c d, Sample.thirds.convert (-4) ⟨"USD", by decide⟩ ⟨"JPY", by decide⟩ = .ok c ∧
      Sample.thirds.convert (-3) ⟨"USD", by decide⟩ ⟨"JPY", by decide⟩ = .ok d ∧
      c.Rounds (-4) Sample.third ∧ d.Rounds (-3) Sample.third ∧
      c.converted ≤ d.converted ∧ d.converted = -1000000000) ∧
    ∃ e, Sample.thirds.convert 2 ⟨"USD", by decide⟩ ⟨"JPY", by decide⟩ = .ok e := by
  have stored : Sample.thirds.rate? ⟨⟨"USD", by decide⟩, ⟨"JPY", by decide⟩⟩ =
      some Sample.third := by decide +kernel
  obtain ⟨rounds, mono, smaller⟩ := convert_bounds stored
  obtain ⟨c, first⟩ : ∃ c,
      Sample.thirds.convert (-4) ⟨"USD", by decide⟩ ⟨"JPY", by decide⟩ = .ok c := ⟨_, rfl⟩
  obtain ⟨d, second, amount⟩ : ∃ d,
      Sample.thirds.convert (-3) ⟨"USD", by decide⟩ ⟨"JPY", by decide⟩ = .ok d ∧
        d.converted = -1000000000 := ⟨_, rfl, by decide +kernel⟩
  obtain ⟨f, third⟩ : ∃ f,
      Sample.thirds.convert 3 ⟨"USD", by decide⟩ ⟨"JPY", by decide⟩ = .ok f := ⟨_, rfl⟩
  refine ⟨⟨c, d, first, second, rounds _ _ (by decide) first, rounds _ _ (by decide) second, ?_,
    amount⟩, smaller 2 3 f (by decide) (by decide) (by decide) third⟩
  exact (mono _ _ _ _ (by decide) (by decide) (by decide) first second).2

end Rates

end CurrencyLedger
