import CurrencyLedger.LedgerError
import CurrencyLedger.Reference

/-! # Adjustments

Money that comes into or goes out of one account.

* **`Adjustment.Request`** — what a caller asks for, in major units and unchecked texts;
* **`Adjustment`** — the checked order, in minor units;
* **`Adjustment.Receipt`** — what a caller gets;
* **`Processed`** — a receipt, and whether it is that of an earlier attempt. -/

namespace CurrencyLedger

/-- A receipt, and whether an earlier attempt earned it. -/
structure Processed (α : Type) where
  /-- The receipt. -/
  receipt : α
  /-- Whether it is that of an earlier attempt. -/
  replayed : Bool
  deriving DecidableEq, Repr

namespace Processed

/-- A processed receipt as a JSON value: the members of the receipt and one more. -/
def toJson (members : α → List (String × Json)) (p : Processed α) : Json :=
  .obj (members p.receipt ++ [("replayed", .bool p.replayed)])

/-- Reads a processed receipt from a JSON value: an object without anything unreadable. -/
def ofJson? (names : List String) (ofFields? : List (Option Json) → Option α) (j : Json) :
    Option (Processed α) := do
  guard j.isReadable
  let fields ← j.members? names
  match ← j.members? ["replayed"] with
  | [replayed] =>
    pure { receipt := ← ofFields? fields, replayed := ← Json.required? Json.asBool? replayed }
  | _ => none

end Processed

/-- The reference, if it is one. -/
def checkReference (reference : String) : Except LedgerError Unit :=
  match Reference.fault? reference with
  | some fault => .error (.invalidReference fault.message)
  | none => .ok ()

/-- In which direction an adjustment moves its account. -/
inductive Direction where
  /-- Money comes in. -/
  | deposit
  /-- Money goes out. -/
  | withdraw
  deriving DecidableEq, Repr

namespace Direction

/-- The kind of operation. -/
def operation : Direction → OperationKind
  | .deposit => .deposit
  | .withdraw => .withdraw

/-- The kind of entry. -/
def entry : Direction → EntryKind
  | .deposit => .deposit
  | .withdraw => .withdraw

end Direction

/-- An order to move one account. -/
structure Adjustment where
  /-- The account. -/
  account : Account
  /-- By how much. -/
  amount : Amount
  /-- The caller's name for the order. -/
  reference : String
  deriving DecidableEq, Repr

namespace Adjustment

/-- The order for a checked reference. -/
def make (account : Account) (amount : Amount) (reference : String) :
    Except LedgerError Adjustment := do
  checkReference reference
  pure ⟨account, amount, reference⟩

/-- An order as a JSON value. -/
def toJson (a : Adjustment) : Json :=
  .obj [("wallet_id", a.account.wallet.toJson), ("currency", a.account.currency.toJson),
    ("amount", a.amount.toJson), ("reference", .str a.reference)]

/-- The names of the members of a request and of an order. -/
def names : List String := ["wallet_id", "currency", "amount", "reference"]

/-- Reads an order from a JSON value; the reference is not checked. -/
def ofJson? (j : Json) : Option Adjustment := do
  match ← j.fields? names with
  | [wallet, currency, amount, reference] =>
    pure
      { account :=
          { wallet := ← Json.required? WalletId.ofJson? wallet
            currency := ← Json.required? Currency.ofJson? currency }
        amount := ← Json.required? Amount.ofJson? amount
        reference := ← Json.required? Json.asString? reference }
  | _ => none

/-- What the request of the order is recognised by. -/
def fingerprint (a : Adjustment) : Fingerprint := .ofJson a.toJson

/-- What a caller asks for. -/
structure Request where
  /-- The number of the wallet. -/
  wallet : Int
  /-- The code of the currency. -/
  currency : String
  /-- The amount in major units. -/
  amount : Decimal
  /-- The caller's name for the request. -/
  reference : String
  deriving DecidableEq, Repr

namespace Request

/-- A request as a JSON value. -/
def toJson (r : Request) : Json :=
  .obj [("wallet_id", .int r.wallet), ("currency", .str r.currency),
    ("amount", Json.ofDecimal r.amount), ("reference", .str r.reference)]

/-- Reads a request from a JSON value. -/
def ofJson? (j : Json) : Option Request := do
  match ← j.fields? names with
  | [wallet, currency, amount, reference] =>
    pure
      { wallet := ← Json.required? Json.int64? wallet
        currency := ← Json.required? Json.asString? currency
        amount := ← Json.required? Json.decimal? amount
        reference := ← Json.required? Json.asString? reference }
  | _ => none

/-- The order that a request asks for. Its parts are checked in their order. -/
def toOrder (r : Request) (scale : Nat) : Except LedgerError Adjustment := do
  let currency ← (Currency.ofText r.currency).mapError LedgerError.ofCurrency
  let amount ← (Amount.ofMajor r.amount scale).mapError LedgerError.ofAmount
  make ⟨⟨r.wallet⟩, currency⟩ amount r.reference

end Request

/-- What a caller gets. -/
structure Receipt where
  /-- The caller's name for the order. -/
  reference : String
  /-- The account. -/
  account : Account
  /-- By how much it was moved. -/
  amount : Int
  /-- What it holds now. -/
  balance : Int
  deriving DecidableEq, Repr

namespace Receipt

/-- The members of a receipt. -/
def members (r : Receipt) : List (String × Json) :=
  [("reference", .str r.reference), ("wallet_id", r.account.wallet.toJson),
    ("currency", r.account.currency.toJson), ("amount", .int r.amount),
    ("new_amount", .int r.balance)]

/-- A receipt as a JSON value. -/
def toJson (r : Receipt) : Json := .obj r.members

/-- The names of the members of a receipt. -/
def names : List String := ["reference", "wallet_id", "currency", "amount", "new_amount"]

/-- A receipt from its fields. -/
def ofFields? : List (Option Json) → Option Receipt
  | [reference, wallet, currency, amount, balance] => do
    pure
      { reference := ← Json.required? Json.asString? reference
        account :=
          { wallet := ← Json.required? WalletId.ofJson? wallet
            currency := ← Json.required? Currency.ofJson? currency }
        amount := ← Json.required? Json.int64? amount
        balance := ← Json.required? Json.int64? balance }
  | _ => none

/-- Reads a receipt from a JSON value. -/
def ofJson? (j : Json) : Option Receipt := do
  let fields ← j.fields? names
  ofFields? fields

end Receipt

end Adjustment

end CurrencyLedger
