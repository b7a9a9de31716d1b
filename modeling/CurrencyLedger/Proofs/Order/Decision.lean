import CurrencyLedger.Proofs.Order.Stages

/-! # What amounts and rates make of a transfer

A transfer whose accounts are locked is decided by what they hold and by the rates. The source is
looked at first, then the rate, then the amount that is converted to, and the target comes last. As
long as what the accounts hold can be counted, nothing else can be in its way.

* **`Rates.convert_eq_error`** — why an amount cannot be converted;
* **`Transfer.Weighed`**, **`Transfer.weighed`** — what a transfer comes to, with a constructor for
  each thing that may be in its way. -/

namespace CurrencyLedger

/-- An amount cannot be converted if its pair has no rate, or by the rate that it has. -/
theorem Rates.convert_eq_error {rates : Rates} {amount : Int} {source target : Currency}
    {error : ConversionError} (h : rates.convert amount source target = .error error) :
    source ≠ target ∧
      (rates.rate? ⟨source, target⟩ = none ∧ error = .unsupported source target ∨
        (∃ rate, rates.rate? ⟨source, target⟩ = some rate) ∧ error = .overflow source target) := by
  rw [convert] at h
  split at h
  case isTrue => cases h
  case isFalse foreign =>
    refine ⟨foreign, ?_⟩
    split at h
    case h_1 unrated => exact Or.inl ⟨unrated, (Except.error.inj h).symm⟩
    case h_2 rate rated =>
      refine Or.inr ⟨⟨rate, rated⟩, ?_⟩
      split at h
      case h_1 => exact (Except.error.inj h).symm
      case h_2 =>
        split at h
        case h_1 => exact (Except.error.inj h).symm
        case h_2 => cases h

namespace Transfer

variable {order : Transfer} {rates : Rates} {amounts : Account → Int}

/-- What amounts and rates make of a transfer. Each constructor says that nothing before it
applies. -/
inductive Weighed (order : Transfer) (rates : Rates) (amounts : Account → Int) :
    Except LedgerError Receipt → Prop where
  /-- The source does not hold enough. -/
  | short (missing : amounts order.source < order.amount.minor) :
      Weighed order rates amounts (.error
        (.insufficientFunds order.source order.amount.minor (amounts order.source)))
  /-- No rate leads from one currency to the other. -/
  | unrated (covered : order.amount.minor ≤ amounts order.source)
      (foreign : order.source.currency ≠ order.target.currency)
      (unrated : rates.rate? ⟨order.source.currency, order.target.currency⟩ = none) :
      Weighed order rates amounts (.error
        (.unsupportedConversion order.source.currency order.target.currency))
  /-- There is a rate, but the amount that is converted to cannot be counted. -/
  | uncounted (rate : Decimal) (covered : order.amount.minor ≤ amounts order.source)
      (rated : rates.rate? ⟨order.source.currency, order.target.currency⟩ = some rate)
      (overflows : rates.convert order.amount.minor order.source.currency order.target.currency =
        .error (.overflow order.source.currency order.target.currency)) :
      Weighed order rates amounts (.error (.invalidAmount
        (ConversionError.overflow order.source.currency order.target.currency).message))
  /-- The amount converts to nothing. -/
  | vanishing (conversion : Conversion) (covered : order.amount.minor ≤ amounts order.source)
      (converts : rates.convert order.amount.minor order.source.currency order.target.currency =
        .ok conversion) (nothing : conversion.converted = 0) :
      Weighed order rates amounts (.error (.invalidAmount
        (Numeral.text order.amount.minor ++ " " ++ order.source.currency.code ++
          " converts to zero " ++ order.target.currency.code)))
  /-- The target would hold more than can be counted. -/
  | exceeding (conversion : Conversion) (covered : order.amount.minor ≤ amounts order.source)
      (converts : rates.convert order.amount.minor order.source.currency order.target.currency =
        .ok conversion) (something : 0 < conversion.converted)
      (exceeds : Decimal.maxInt64 < amounts order.target + conversion.converted) :
      Weighed order rates amounts (.error (.invalidAmount
        ("balance " ++ order.target.text ++ " would overflow")))
  /-- Nothing is in its way. -/
  | allowed (conversion : Conversion) (covered : order.amount.minor ≤ amounts order.source)
      (converts : rates.convert order.amount.minor order.source.currency order.target.currency =
        .ok conversion) (something : 0 < conversion.converted)
      (fits : amounts order.target + conversion.converted ≤ Decimal.maxInt64) :
      Weighed order rates amounts (.ok
        ⟨order.reference, order.source.wallet, order.target.wallet, conversion,
          amounts order.source - order.amount.minor, amounts order.target + conversion.converted⟩)

/-- A transfer whose amount can be converted is decided by what it converts to. -/
theorem weighed_of_converts {conversion : Conversion} (nonneg : ∀ account, 0 ≤ amounts account)
    (le_max : ∀ account, amounts account ≤ Decimal.maxInt64)
    (covered : order.amount.minor ≤ amounts order.source)
    (converts : rates.convert order.amount.minor order.source.currency order.target.currency =
      .ok conversion) : order.Weighed rates amounts (order.evaluate rates amounts) := by
  have funds : order.checkFunds (amounts order.source) = .ok () := by
    rw [checkFunds_eq (nonneg _), if_pos covered]
  -- The debit cannot fail: the source holds the amount, and holds no more than can be counted.
  have debit := Store.moved_sub order.source order.amount.positive covered (le_max order.source)
  by_cases nothing : conversion.converted = 0
  · have evaluated : order.evaluate rates amounts = .error (.invalidAmount
        (Numeral.text order.amount.minor ++ " " ++ order.source.currency.code ++
          " converts to zero " ++ order.target.currency.code)) := by
      simp only [evaluate, funds, debit, convert, converts, if_pos nothing, Except.mapError, bind,
        Except.bind]
      rfl
    rw [evaluated]
    exact .vanishing conversion covered converts nothing
  · have quoted : order.convert rates = .ok conversion := by
      simp only [convert, converts, if_neg nothing, Except.mapError, bind, Except.bind]
      rfl
    have something := converted_pos quoted
    have credit := Store.moved_add order.target (nonneg order.target) something
    by_cases fits : amounts order.target + conversion.converted ≤ Decimal.maxInt64
    · have evaluated : order.evaluate rates amounts = .ok
          ⟨order.reference, order.source.wallet, order.target.wallet, conversion,
            amounts order.source - order.amount.minor,
            amounts order.target + conversion.converted⟩ := by
        simp only [evaluate, funds, debit, quoted, credit, if_pos fits, Except.mapError, bind,
          Except.bind]
        rfl
      rw [evaluated]
      exact .allowed conversion covered converts something fits
    · have evaluated : order.evaluate rates amounts = .error (.invalidAmount
          ("balance " ++ order.target.text ++ " would overflow")) := by
        simp only [evaluate, funds, debit, quoted, credit, if_neg fits, Except.mapError, bind,
          Except.bind]
        rfl
      rw [evaluated]
      exact .exceeding conversion covered converts something (Int.not_le.1 fits)

/-- If what its accounts hold can be counted, a transfer is weighed. -/
theorem weighed (nonneg : ∀ account, 0 ≤ amounts account)
    (le_max : ∀ account, amounts account ≤ Decimal.maxInt64) :
    order.Weighed rates amounts (order.evaluate rates amounts) := by
  by_cases covered : order.amount.minor ≤ amounts order.source
  · cases converts : rates.convert order.amount.minor order.source.currency
      order.target.currency with
    | ok conversion => exact weighed_of_converts nonneg le_max covered converts
    | error error =>
      have funds : order.checkFunds (amounts order.source) = .ok () := by
        rw [checkFunds_eq (nonneg _), if_pos covered]
      have debit := Store.moved_sub order.source order.amount.positive covered (le_max order.source)
      -- The rates are asked before the target is looked at, so nothing can come before their error.
      have evaluated : order.evaluate rates amounts = .error (.ofConversion error) := by
        simp only [evaluate, funds, debit, convert, converts, Except.mapError, bind, Except.bind]
      rw [evaluated]
      obtain ⟨foreign, ⟨unrated, rfl⟩ | ⟨⟨rate, rated⟩, rfl⟩⟩ := Rates.convert_eq_error converts
      · exact .unrated covered foreign unrated
      · exact .uncounted rate covered rated converts
  · have short : order.evaluate rates amounts = .error
        (.insufficientFunds order.source order.amount.minor (amounts order.source)) := by
      simp only [evaluate, checkFunds_eq (nonneg _), if_neg covered, bind, Except.bind]
    rw [short]
    exact .short (Int.not_le.1 covered)

end Transfer

end CurrencyLedger
