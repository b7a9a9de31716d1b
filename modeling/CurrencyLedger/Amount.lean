import CurrencyLedger.Json.Fields

/-! # Amounts and balances

Money is counted in whole minor units.

* **`Amount`** — what one operation moves: more than nothing and at most `10 ^ 18`;
* **`Amount.ofMajor`** — the amount of a decimal in major units, which has to be a whole number of
  minor units;
* **`Balance`** — what an account holds, with the arithmetic of credits and debits. -/

namespace CurrencyLedger

/-- The greatest amount of one operation. -/
def maxAmount : Int := 1000000000000000000

/-- The greatest number of decimal places between major and minor units. -/
def maxPlaces : Nat := 8

/-- A quantity of minor units that one operation moves. -/
@[ext] structure Amount where
  /-- How many minor units. -/
  minor : Int
  positive : 0 < minor
  le_max : minor ≤ maxAmount
  deriving DecidableEq, Repr

/-- Why a number is no amount. -/
inductive AmountError where
  /-- Nothing or less than nothing. -/
  | notPositive (value : Decimal)
  /-- More digits after the point than minor units have. -/
  | tooManyDecimals (max got : Nat)
  /-- More than the greatest amount, or more than can be counted. -/
  | overflow
  /-- More decimal places between major and minor units than are supported. -/
  | invalidScale (scale : Nat)
  deriving DecidableEq, Repr

/-- What is wrong with the number. -/
def AmountError.message : AmountError → String
  | .notPositive value => "Amount must be positive (got " ++ value.text ++ ")"
  | .tooManyDecimals max got =>
    "Amount has too many decimal places (max " ++ Numeral.text max ++ ", got " ++
      Numeral.text got ++ ")"
  | .overflow =>
    "Amount exceeds maximum allowed value (" ++ Numeral.text maxAmount ++ " minor units)"
  | .invalidScale scale => "Unsupported minor unit scale: " ++ Numeral.text scale

/-- A quantity of minor units as a decimal in major units, with at most `maxPlaces` places. -/
def majorUnits (minor : Int) (scale : Nat) : Decimal where
  coefficient := (Decimal.ofInt minor).coefficient
  scale := min scale maxPlaces
  coefficient_lt := (Decimal.ofInt minor).coefficient_lt
  scale_le := Nat.le_trans (Nat.min_le_right _ _) (by decide)

namespace Amount

/-- The amount of a number of minor units. -/
def ofMinor (minor : Int) : Except AmountError Amount :=
  if low : minor ≤ 0 then .error (.notPositive (.ofInt minor))
  else if high : maxAmount < minor then .error .overflow
  else .ok ⟨minor, by omega, by omega⟩

/-- How many minor units make a major unit, as a decimal. -/
def factor (scale : Nat) : Except AmountError Decimal :=
  if maxPlaces < scale then .error (.invalidScale scale) else .ok (.ofInt (Nat.pow 10 scale))

/-- The amount of a decimal in major units. Digits beyond the minor units are refused, not
rounded. -/
def ofMajor (value : Decimal) (scale : Nat) : Except AmountError Amount :=
  if value.isPositive then
    let plain := value.normalize
    if scale < plain.scale then .error (.tooManyDecimals scale plain.scale)
    else do
      let unit ← factor scale
      match (plain.mul? unit).bind Decimal.toInt64? with
      | some minor => ofMinor minor
      | none => .error .overflow
  else .error (.notPositive value)

/-- The amount in major units. -/
def toMajor (a : Amount) (scale : Nat) : Decimal := majorUnits a.minor scale

/-- An amount as a JSON value. -/
def toJson (a : Amount) : Json := .int a.minor

/-- Reads an amount from a JSON value. -/
def ofJson? (j : Json) : Option Amount := do
  let minor ← j.int64?
  (ofMinor minor).toOption

end Amount

/-- What an account holds, in minor units. -/
structure Balance where
  /-- How many minor units. -/
  minor : Int
  deriving DecidableEq, Repr

namespace Balance

/-- The balance of a number of minor units that is not negative. -/
def ofMinor (minor : Int) : Except AmountError Balance :=
  if minor < 0 then .error (.notPositive (.ofInt minor)) else .ok ⟨minor⟩

/-- The empty balance. -/
def zero : Balance := ⟨0⟩

/-- Whether a debit of the amount leaves nothing missing. -/
def covers (b : Balance) (a : Amount) : Bool := a.minor ≤ b.minor

/-- The balance with the amount added, if it can be counted. -/
def credit (b : Balance) (a : Amount) : Except AmountError Balance :=
  if Decimal.isInt64 (b.minor + a.minor) then ofMinor (b.minor + a.minor) else .error .overflow

/-- The balance with the amount taken away. -/
def debit (b : Balance) (a : Amount) : Except AmountError Balance := ofMinor (b.minor - a.minor)

/-- A balance as a JSON value. -/
def toJson (b : Balance) : Json := .int b.minor

/-- Reads a balance from a JSON value: any integer of 64 bits. -/
def ofJson? (j : Json) : Option Balance := j.int64?.map Balance.mk

end Balance

end CurrencyLedger
