import CurrencyLedger.Amount
import CurrencyLedger.Conversion
import CurrencyLedger.Proofs.Decimal.Value
import CurrencyLedger.Proofs.Table

/-! # What a conversion conserves

Whole part and remainder make up the product a conversion reports, to the last digit. That product
is the exact one rounded to a decimal: it is exact wherever a decimal can be, and otherwise so close
that at most a product just below a whole number is taken for that number.

* **`Rates.rate?_spec`** — a rate is positive and between different currencies;
* **`Rates.convert_eq_ok`** — the parts of a conversion;
* **`Rates.convert_conserves`** — how they relate to amount and rate. -/

namespace CurrencyLedger

namespace Rates

variable {rates : Rates} {amount : Int} {source target : Currency} {rate : Decimal}
  {c : Conversion}

/-- A pair with a rate has two currencies, and its rate is positive. -/
theorem rate?_spec (h : rates.rate? ⟨source, target⟩ = some rate) :
    source ≠ target ∧ 0 < rate.coefficient := by
  obtain ⟨stored, found, rfl⟩ := Option.map_eq_some_iff.mp h
  have row := Table.mem_rows_iff.mpr found
  exact ⟨rates.distinct _ row, of_decide_eq_true stored.positive⟩

/-- The parts of a conversion by a rate. -/
theorem convert_eq_ok (h : rates.rate? ⟨source, target⟩ = some rate)
    (converted : rates.convert amount source target = .ok c) :
    ∃ exact, (Decimal.ofInt amount).mul? rate = some exact ∧
      Decimal.isInt64 exact.truncate = true ∧
      c = ⟨source, target, amount, some rate, exact, exact.truncate, exact.fraction⟩ := by
  simp only [convert, if_neg (rate?_spec h).1, h] at converted
  split at converted
  · cases converted
  · next exact product =>
    split at converted
    · cases converted
    · next whole fits =>
      unfold Decimal.toInt64? at fits
      split at fits
      · next inside =>
        obtain rfl := Option.some.inj fits
        exact ⟨exact, product, inside, (Except.ok.inj converted).symm⟩
      · cases fits

/-- An amount that is not negative converts to one that is not. -/
theorem converted_nonneg (nonneg : 0 ≤ amount) (small : amount ≤ Decimal.maxInt64)
    (converted : rates.convert amount source target = .ok c) : 0 ≤ c.converted := by
  by_cases same : source = target
  · rw [convert, if_pos same] at converted
    cases converted
    exact nonneg
  · cases stored : rates.rate? ⟨source, target⟩ with
    | none =>
      simp only [convert, if_neg same, stored] at converted
      cases converted
    | some rate =>
      obtain ⟨exact, product, -, rfl⟩ := convert_eq_ok stored converted
      have fits : amount.natAbs < Decimal.limit := by
        simp only [Decimal.maxInt64, Decimal.limit] at *
        omega
      have sign : 0 ≤ exact.coefficient := (Decimal.mul?_rounds
        ((Decimal.coefficient_ofInt fits).symm ▸ nonneg) (le_of_lt (rate?_spec stored).2) product).1
      show 0 ≤ exact.truncate
      rw [Decimal.truncate_eq_floor sign]
      exact Int.floor_nonneg.2 (Decimal.value_nonneg_iff.2 sign)

/-- A conversion by a rate conserves value as far as a decimal has digits for it. What it converts
to and what it leaves make up the product it reports. That product is the exact one wherever a
decimal is; otherwise it is half a unit of its last digit away at most, with nine digits after the
point or more. So the amount converted to is the whole part of the exact product, or the next whole
number, to which the product was rounded, and nothing is left then. -/
theorem convert_conserves (nonneg : 0 ≤ amount) (small : amount ≤ Decimal.maxInt64)
    (stored : rates.rate? ⟨source, target⟩ = some rate)
    (converted : rates.convert amount source target = .ok c) :
    c.amount = amount ∧ c.rate = some rate ∧ c.converted = ⌊c.exact.value⌋ ∧
      (c.converted : ℚ) + c.remainder.value = c.exact.value ∧
      0 ≤ c.remainder.value ∧ c.remainder.value < 1 ∧
      (c.exact.value = amount * rate.value ↔ ∃ d : Decimal, d.value = amount * rate.value) ∧
      |c.exact.value - amount * rate.value| ≤ 1 / (2 * 10 ^ c.exact.scale) ∧
      (c.exact.value = amount * rate.value ∨ 9 ≤ c.exact.scale) ∧
      (c.converted = ⌊amount * rate.value⌋ ∨
        c.converted = ⌊amount * rate.value⌋ + 1 ∧ c.remainder.value = 0) := by
  obtain ⟨exact, product, inside, rfl⟩ := convert_eq_ok stored converted
  have fits : amount.natAbs < Decimal.limit := by
    simp only [Decimal.maxInt64, Decimal.limit] at *
    omega
  have kept := Decimal.coefficient_ofInt fits
  obtain ⟨sign, rounds⟩ := Decimal.mul?_rounds (kept.symm ▸ nonneg)
    (le_of_lt (rate?_spec stored).2) product
  rw [Decimal.value_ofInt fits] at rounds
  have whole := Decimal.truncate_eq_floor sign
  have parts := exact.truncate_add_fraction
  obtain ⟨low, high⟩ := Decimal.fraction_bounds sign
  refine ⟨rfl, rfl, whole, parts, low, high, rounds.exact_iff, rounds.near,
    rounds.nine_le_scale inside, ?_⟩
  rcases rounds.floor_eq_or with same | ⟨next, reached⟩
  · exact Or.inl (whole.trans same)
  · refine Or.inr ⟨whole.trans next, ?_⟩
    rw [whole, ← reached] at parts
    exact left_eq_add.mp parts.symm

/-! ## A product that is rounded up to a whole number -/

/-- A third of a thousand million, with as many digits as a decimal can have. -/
def Sample.third : Decimal where
  coefficient := 33333333333333333333333333333
  scale := 20
  coefficient_lt := by decide
  scale_le := by decide

/-- Rates by which three dollars are just not worth a thousand million yen. -/
def Sample.thirds : Rates := Rates.empty.add "USD" "JPY" (some Sample.third)

/-- Three times a third is not a decimal: it is rounded to the whole number above it, so more is
converted to than amount and rate are worth. -/
theorem convert_conserves_thirds : ∃ c,
    Sample.thirds.convert 3 ⟨"USD", by decide⟩ ⟨"JPY", by decide⟩ = .ok c ∧
      c.converted = ⌊3 * Sample.third.value⌋ + 1 ∧ c.remainder.value = 0 ∧
      3 * Sample.third.value < c.converted := by
  have stored : Sample.thirds.rate? ⟨⟨"USD", by decide⟩, ⟨"JPY", by decide⟩⟩ =
      some Sample.third := by decide +kernel
  obtain ⟨c, converted, amount⟩ : ∃ c,
      Sample.thirds.convert 3 ⟨"USD", by decide⟩ ⟨"JPY", by decide⟩ = .ok c ∧
        c.converted = 1000000000 := ⟨_, rfl, by decide +kernel⟩
  have less : 3 * Sample.third.value < c.converted := by
    rw [amount, Decimal.value]
    norm_num [Sample.third]
  obtain ⟨-, -, -, -, -, -, -, -, -, whole⟩ :=
    convert_conserves (by decide) (by decide) stored converted
  push_cast at whole
  rcases whole with same | ⟨next, none⟩
  · exact absurd (same ▸ Int.floor_le _) (not_le_of_gt less)
  · exact ⟨c, converted, next, none, less⟩

end Rates

end CurrencyLedger
