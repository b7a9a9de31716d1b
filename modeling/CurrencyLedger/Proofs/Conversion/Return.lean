import CurrencyLedger.Proofs.Conversion.Bounds

/-! # Conversions there and back

An amount that is converted to another currency and back has been rounded twice, and the rate of the
way back may itself be rounded, even up. What comes back is a whole number, so nothing is gained
unless all of this together makes up a whole unit.

* **`Rates.returned_le`** — how much comes back at most;
* **`Rates.Reciprocal`**, **`Rates.no_gain`** — two rates whose product is hardly more than one gain
  nothing, whatever the amount;
* **`Rates.reference_no_gain`** — so it is with the rates that hold unless others are given. -/

namespace CurrencyLedger.Rates

variable {rates : Rates} {amount : Int} {source target : Currency} {rate back : Decimal}
  {c d : Conversion}

/-- An amount that is not negative converts to at most a billionth more than it is worth. -/
theorem converted_le (nonneg : 0 ≤ amount) (counted : Decimal.isInt64 amount = true)
    (stored : rates.rate? ⟨source, target⟩ = some rate)
    (converted : rates.convert amount source target = .ok c) :
    (c.converted : ℚ) ≤ amount * rate.value + 1 / 10 ^ 9 := by
  have rounds := rounds_convert counted stored converted
  have whole := rounds.whole
  split at whole
  · -- Cutting off adds nothing, so the whole difference comes from rounding the product.
    have floor : (c.converted : ℚ) ≤ c.exact.value := whole ▸ Int.floor_le _
    have near := (abs_le.1 rounds.near).2
    linarith
  · next negative =>
    have none : (c.converted : ℚ) ≤ 0 := by
      rw [whole]
      exact_mod_cast Int.ceil_nonpos.2 (not_le.1 negative).le
    have worth : 0 ≤ rate.value := Decimal.value_nonneg_iff.2 (le_of_lt (rate?_spec stored).2)
    have product : 0 ≤ amount * rate.value := mul_nonneg (by exact_mod_cast nonneg) worth
    have unit : (0 : ℚ) ≤ 1 / 10 ^ 9 := by positivity
    linarith

/-- An amount that is converted there and back comes back as at most the product of both rates makes
of it, but for what rounding adds on either way. -/
theorem returned_le (nonneg : 0 ≤ amount) (small : amount ≤ Decimal.maxInt64)
    (stored : rates.rate? ⟨source, target⟩ = some rate)
    (stored' : rates.rate? ⟨target, source⟩ = some back)
    (there : rates.convert amount source target = .ok c)
    (again : rates.convert c.converted target source = .ok d) :
    (d.converted : ℚ) ≤ amount * (rate.value * back.value) + (back.value + 1) / 10 ^ 9 := by
  have counted : Decimal.isInt64 amount = true := by
    rw [Decimal.isInt64_of_nonneg nonneg, decide_eq_true_eq]
    exact small
  have counted' : Decimal.isInt64 c.converted = true := by
    obtain ⟨exact, -, inside, rfl⟩ := convert_eq_ok stored there
    exact inside
  have worth : 0 ≤ back.value := Decimal.value_nonneg_iff.2 (le_of_lt (rate?_spec stored').2)
  have first := converted_le nonneg counted stored there
  have second := converted_le (converted_nonneg nonneg small there) counted' stored' again
  calc (d.converted : ℚ) ≤ c.converted * back.value + 1 / 10 ^ 9 := second
    _ ≤ (amount * rate.value + 1 / 10 ^ 9) * back.value + 1 / 10 ^ 9 := by gcongr
    _ = amount * (rate.value * back.value) + (back.value + 1) / 10 ^ 9 := by ring

/-- Whether two rates are as good as reciprocal: their product is hardly more than one, and the
second one is not so great that it would carry a rounding into the whole units. -/
def Reciprocal (rate back : Decimal) : Prop :=
  rate.coefficient * back.coefficient * 10 ^ 20 ≤ (10 ^ 20 + 1) * 10 ^ (rate.scale + back.scale) ∧
    back.coefficient ≤ 10 ^ 8 * 10 ^ back.scale

instance (rate back : Decimal) : Decidable (Reciprocal rate back) :=
  inferInstanceAs (Decidable (_ ∧ _))

/-- What rates that are as good as reciprocal are worth. -/
theorem Reciprocal.value_le (reciprocal : Reciprocal rate back) :
    rate.value * back.value ≤ 1 + 1 / 10 ^ 20 ∧ back.value ≤ 10 ^ 8 := by
  obtain ⟨product, low⟩ := reciprocal
  have product' : (rate.coefficient * back.coefficient * 10 ^ 20 : ℚ) ≤
      (10 ^ 20 + 1) * 10 ^ (rate.scale + back.scale) := by exact_mod_cast product
  have low' : (back.coefficient : ℚ) ≤ 10 ^ 8 * 10 ^ back.scale := by exact_mod_cast low
  constructor
  · rw [Decimal.value, Decimal.value, div_mul_div_comm, ← pow_add, div_le_iff₀ (by positivity)]
    linarith
  · rw [Decimal.value, div_le_iff₀ (by positivity)]
    exact low'

/-- Between currencies whose rates are as good as reciprocal, no amount comes back as more than it
was. -/
theorem no_gain (nonneg : 0 ≤ amount) (small : amount ≤ Decimal.maxInt64)
    (stored : rates.rate? ⟨source, target⟩ = some rate)
    (stored' : rates.rate? ⟨target, source⟩ = some back) (reciprocal : Reciprocal rate back)
    (there : rates.convert amount source target = .ok c)
    (again : rates.convert c.converted target source = .ok d) : d.converted ≤ amount := by
  obtain ⟨product, low⟩ := reciprocal.value_le
  have returned := returned_le nonneg small stored stored' there again
  have nonneg' : (0 : ℚ) ≤ amount := by exact_mod_cast nonneg
  have small' : (amount : ℚ) ≤ 10 ^ 19 := by
    rw [Decimal.maxInt64] at small
    exact_mod_cast small.trans (by decide)
  -- The product of the rates and the roundings together add less than a unit.
  have gap : (d.converted : ℚ) < amount + 1 := by
    calc (d.converted : ℚ) ≤ amount * (rate.value * back.value) + (back.value + 1) / 10 ^ 9 :=
          returned
      _ ≤ amount * (1 + 1 / 10 ^ 20) + (10 ^ 8 + 1) / 10 ^ 9 := by gcongr
      _ < amount + 1 := by linarith
  exact Int.lt_add_one_iff.1 (by exact_mod_cast gap)

/-! ## The rates that hold unless others are given -/

/-- All rates there and back are as good as reciprocal. -/
theorem reciprocal_of_mem_reference : ∀ row ∈ reference.table.rows,
    ∀ other ∈ reference.table.rows, row.1.source = other.1.target → row.1.target = other.1.source →
      Reciprocal row.2.value other.2.value := by
  decide +kernel

/-- By the rates that hold unless others are given no amount gains by being converted there and
back, though some of the rates are rounded up. -/
theorem reference_no_gain (source target : Currency) (rate back : Decimal)
    (stored : reference.rate? ⟨source, target⟩ = some rate)
    (stored' : reference.rate? ⟨target, source⟩ = some back) (amount : Int)
    (nonneg : 0 ≤ amount) (small : amount ≤ Decimal.maxInt64) (c d : Conversion)
    (there : reference.convert amount source target = .ok c)
    (again : reference.convert c.converted target source = .ok d) : d.converted ≤ amount := by
  obtain ⟨forth, found, rfl⟩ := Option.map_eq_some_iff.1 stored
  obtain ⟨homeward, found', rfl⟩ := Option.map_eq_some_iff.1 stored'
  have reciprocal : Reciprocal forth.value homeward.value := reciprocal_of_mem_reference
    (⟨source, target⟩, forth) (Table.mem_rows_iff.2 found)
    (⟨target, source⟩, homeward) (Table.mem_rows_iff.2 found') rfl rfl
  exact no_gain nonneg small stored stored' reciprocal there again

namespace Sample

/-- The letters of the euro. -/
theorem isCurrencyCode_eur : isCurrencyCode "EUR".toList = true := by
  decide

/-- The letters of the yen. -/
theorem isCurrencyCode_jpy : isCurrencyCode "JPY".toList = true := by
  decide

/-- The euro. -/
def euro : Currency := ⟨"EUR", isCurrencyCode_eur⟩

/-- The yen. -/
def yen : Currency := ⟨"JPY", isCurrencyCode_jpy⟩

end Sample

/-- The rate from yen to euros is rounded up, so that both rates together are worth more than one.
Of an amount that makes nearly as many yen as can be counted, all comes back, and no more. -/
theorem reference_no_gain_euros : ∃ back c d,
    reference.rate? ⟨Sample.euro, Sample.yen⟩ = some (.ofInt 165) ∧
    reference.rate? ⟨Sample.yen, Sample.euro⟩ = some back ∧
    1 < (Decimal.ofInt 165).value * back.value ∧
    reference.convert 55000000000000000 Sample.euro Sample.yen = .ok c ∧
    reference.convert c.converted Sample.yen Sample.euro = .ok d ∧
    55000000000000000 < d.exact.value ∧ d.converted ≤ 55000000000000000 := by
  have stored : reference.rate? ⟨Sample.euro, Sample.yen⟩ = some (.ofInt 165) := by
    decide +kernel
  obtain ⟨back, stored', up⟩ : ∃ back,
      reference.rate? ⟨Sample.yen, Sample.euro⟩ = some back ∧
        10 ^ back.scale < 165 * back.coefficient := ⟨_, rfl, by decide +kernel⟩
  obtain ⟨c, there, whole⟩ : ∃ c,
      reference.convert 55000000000000000 Sample.euro Sample.yen = .ok c ∧
        c.converted = 9075000000000000000 := ⟨_, rfl, by decide +kernel⟩
  obtain ⟨d, again, more⟩ : ∃ d,
      reference.convert 9075000000000000000 Sample.yen Sample.euro = .ok d ∧
        55000000000000000 * 10 ^ d.exact.scale < d.exact.coefficient :=
    ⟨_, rfl, by decide +kernel⟩
  rw [← whole] at again
  refine ⟨back, c, d, stored, stored', ?_, there, again, ?_,
    reference_no_gain _ _ _ _ stored stored' _ (by decide) (by decide) c d there again⟩
  · rw [Decimal.value_ofInt (by decide), Decimal.value, ← mul_div_assoc,
      lt_div_iff₀ (by positivity), one_mul]
    exact_mod_cast up
  · rw [Decimal.value, lt_div_iff₀ (by positivity)]
    exact_mod_cast more

end CurrencyLedger.Rates
