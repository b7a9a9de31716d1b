import CurrencyLedger.Rates.Basic

/-! # Conversions

An amount of one currency in another. The exact product of amount and rate is cut off toward zero,
and what is cut off is reported, so nothing is lost unseen. An amount of the same currency needs no
rate and stays what it is. -/

namespace CurrencyLedger

/-- The outcome of converting an amount. -/
structure Conversion where
  /-- What is converted from. -/
  source : Currency
  /-- What is converted to. -/
  target : Currency
  /-- How much of the source. -/
  amount : Int
  /-- The rate, unless both currencies are the same. -/
  rate : Option Decimal
  /-- The product of amount and rate. -/
  exact : Decimal
  /-- How much of the target: the whole part of the product. -/
  converted : Int
  /-- What the product has beyond its whole part. -/
  remainder : Decimal
  deriving DecidableEq, Repr

/-- Why an amount cannot be converted. -/
inductive ConversionError where
  /-- The pair has no rate. -/
  | unsupported (source target : Currency)
  /-- The product cannot be counted. -/
  | overflow (source target : Currency)
  deriving DecidableEq, Repr

/-- What hinders the conversion. -/
def ConversionError.message : ConversionError → String
  | .unsupported source target =>
    "Unsupported currency conversion " ++ source.code ++ " -> " ++ target.code
  | .overflow source target =>
    "Converted amount overflows for " ++ source.code ++ " -> " ++ target.code

namespace Conversion

/-- Whether both currencies are the same, so that no rate was needed. -/
def isIdentity (c : Conversion) : Bool := c.rate.isNone

/-- A conversion as a JSON value. -/
def toJson (c : Conversion) : Json :=
  .obj [("from", c.source.toJson), ("to", c.target.toJson), ("amount", .int c.amount),
    ("rate", Json.ofOption Json.ofDecimal c.rate), ("exact", Json.ofDecimal c.exact),
    ("converted", .int c.converted), ("remainder", Json.ofDecimal c.remainder)]

/-- The names of the members of a conversion. -/
def names : List String := ["from", "to", "amount", "rate", "exact", "converted", "remainder"]

/-- Reads a conversion from a JSON value. -/
def ofJson? (j : Json) : Option Conversion := do
  match ← j.fields? names with
  | [source, target, amount, rate, exact, converted, remainder] =>
    pure
      { source := ← Json.required? Currency.ofJson? source
        target := ← Json.required? Currency.ofJson? target
        amount := ← Json.required? Json.int64? amount
        rate := ← Json.optional? Json.decimal? rate
        exact := ← Json.required? Json.decimal? exact
        converted := ← Json.required? Json.int64? converted
        remainder := ← Json.required? Json.decimal? remainder }
  | _ => none

end Conversion

/-- Converts an amount from one currency to another, toward zero. -/
def Rates.convert (rates : Rates) (amount : Int) (source target : Currency) :
    Except ConversionError Conversion :=
  if source = target then
    .ok ⟨source, target, amount, none, .ofInt amount, amount, .zero⟩
  else
    match rates.rate? ⟨source, target⟩ with
    | none => .error (.unsupported source target)
    | some rate =>
      match (Decimal.ofInt amount).mul? rate with
      | none => .error (.overflow source target)
      | some exact =>
        match exact.toInt64? with
        | none => .error (.overflow source target)
        | some converted =>
          .ok ⟨source, target, amount, some rate, exact, converted, exact.fraction⟩

end CurrencyLedger
