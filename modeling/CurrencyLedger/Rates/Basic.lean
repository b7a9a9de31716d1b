import CurrencyLedger.Amount
import CurrencyLedger.Currency
import CurrencyLedger.Table

/-! # Exchange rates

A table of rates for ordered pairs of different currencies. A rate counts for its own direction
only: what one unit of the source is worth in units of the target. Every rate is positive.

* **`Rates.insert`** — adds or replaces one rate;
* **`Rates.rate?`** — the rate of a pair;
* **`Rates.reference`** — the rates that hold unless others are given. -/

namespace CurrencyLedger

/-- A source and a target currency. -/
@[ext] structure Pair where
  /-- What is given. -/
  source : Currency
  /-- What is received. -/
  target : Currency
  deriving DecidableEq, Repr

namespace Pair

/-- Pairs are ordered by source, those of one source by target. -/
instance : Ord Pair := ⟨compareLex (compareOn source) (compareOn target)⟩

instance : Std.TransOrd Pair :=
  inferInstanceAs (Std.TransCmp (compareLex (compareOn (fun p : Pair => p.source))
    (compareOn (fun p : Pair => p.target))))

/-- Two pairs compare as their sources do and, for one source, as their targets do. -/
theorem compare_def (a b : Pair) :
    compare a b = (compare a.source b.source).then (compare a.target b.target) := rfl

instance : Std.LawfulEqOrd Pair where
  eq_of_compare {a b} h := by
    rw [compare_def, Ordering.then_eq_eq] at h
    exact Pair.ext (Std.LawfulEqCmp.eq_of_compare h.1) (Std.LawfulEqCmp.eq_of_compare h.2)

/-- The two codes with a colon between them. -/
def text (p : Pair) : String := p.source.code ++ ":" ++ p.target.code

/-- A pair as a JSON value. -/
def toJson (p : Pair) : Json := .obj [("from", p.source.toJson), ("to", p.target.toJson)]

/-- Reads a pair from a JSON value. -/
def ofJson? (j : Json) : Option Pair := do
  match ← j.fields? ["from", "to"] with
  | [source, target] =>
    pure
      { source := ← Json.required? Currency.ofJson? source
        target := ← Json.required? Currency.ofJson? target }
  | _ => none

end Pair

/-- A positive decimal. -/
structure Rate where
  /-- What one unit of the source is worth. -/
  value : Decimal
  positive : value.isPositive = true
  deriving DecidableEq, Repr

/-- Why a rate cannot be taken into a table. -/
inductive RateError where
  /-- The rate is zero or negative. -/
  | notPositive (pair : Pair) (rate : Decimal)
  /-- The pair has one currency twice. -/
  | identityPair (pair : Pair)
  /-- A text is not of the form of an entry. -/
  | malformed (entry : String)
  /-- A text names no currency. -/
  | currency (error : CurrencyError)
  deriving DecidableEq, Repr

/-- What is wrong with the rate. -/
def RateError.message : RateError → String
  | .notPositive pair rate =>
    "Rate for " ++ pair.text ++ " must be positive (got " ++ rate.text ++ ")"
  | .identityPair pair => "Rate for " ++ pair.text ++ " maps a currency onto itself"
  | .malformed entry =>
    "Malformed rate entry: " ++ Text.quote entry ++ " (expected FROM:TO=RATE)"
  | .currency error => error.message

/-- Rates of ordered pairs of different currencies. -/
structure Rates where
  /-- The rates by pair. -/
  table : Table Pair Rate
  distinct : ∀ row ∈ table.rows, row.1.source ≠ row.1.target
  deriving DecidableEq

namespace Rates

/-- No rates at all. -/
def empty : Rates := ⟨Table.empty, by simp [Table.empty]⟩

instance : Inhabited Rates := ⟨empty⟩

/-- Adds the rate of a pair, or replaces it. A pair of one currency is refused before the rate is
looked at. -/
def insert (rates : Rates) (pair : Pair) (value : Decimal) : Except RateError Rates :=
  if different : pair.source ≠ pair.target then
    if positive : value.isPositive = true then
      .ok
        { table := rates.table.insert pair ⟨value, positive⟩
          distinct := fun row mem => by
            rcases Table.mem_insertRow mem with rfl | mem
            · exact different
            · exact rates.distinct row mem }
    else .error (.notPositive pair value)
  else .error (.identityPair pair)

/-- The rate of a pair. -/
def rate? (rates : Rates) (pair : Pair) : Option Decimal := (rates.table.get? pair).map Rate.value

/-- The pairs with their rates in the order of the table. -/
def toList (rates : Rates) : List (Pair × Decimal) :=
  rates.table.rows.map fun row => (row.1, row.2.value)

/-- How many pairs have a rate. -/
def size (rates : Rates) : Nat := rates.table.size

/-- Adds a rate given by codes, where it is a rate. -/
def add (rates : Rates) (source target : String) (value : Option Decimal) : Rates :=
  let added : Option Rates := do
    let pair : Pair := ⟨← Currency.ofCode? source, ← Currency.ofCode? target⟩
    (rates.insert pair (← value)).toOption
  added.getD rates

/-- The rates that hold unless others are given: five as they are, and the reciprocals of three
rates for the opposite directions. -/
def reference : Rates :=
  let decimal (text : String) : Option Decimal := Decimal.ofText? text
  empty
    |>.add "USD" "IDR" (decimal "16000")
    |>.add "USD" "EUR" (decimal "0.9")
    |>.add "EUR" "USD" (decimal "1.111")
    |>.add "USD" "JPY" (decimal "147.49")
    |>.add "EUR" "JPY" (decimal "165")
    |>.add "IDR" "USD" ((decimal "16000").bind Decimal.reciprocal?)
    |>.add "JPY" "USD" ((decimal "147.49").bind Decimal.reciprocal?)
    |>.add "JPY" "EUR" ((decimal "165").bind Decimal.reciprocal?)

end Rates

end CurrencyLedger
