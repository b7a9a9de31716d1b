import CurrencyLedger.Adjustment

/-! # Transfers

Money that moves from one account to another, converted if the currencies differ.

* **`Transfer.Request`** — what a caller asks for, in major units and unchecked texts;
* **`Transfer`** — the checked order, in minor units of the source;
* **`Transfer.Receipt`** — what a caller gets;
* **`Transfer.Stage`** — how far an attempt has come. -/

namespace CurrencyLedger

/-- An order to move money between two accounts. -/
structure Transfer where
  /-- The account that gives. -/
  source : Account
  /-- The account that receives. -/
  target : Account
  /-- How much the source gives. -/
  amount : Amount
  /-- The caller's name for the order. -/
  reference : String
  deriving DecidableEq, Repr

namespace Transfer

/-- The order for a checked reference and two different accounts. -/
def make (source target : Account) (amount : Amount) (reference : String) :
    Except LedgerError Transfer := do
  checkReference reference
  if source = target then throw .invalidTarget
  pure ⟨source, target, amount, reference⟩

/-- An order as a JSON value. -/
def toJson (t : Transfer) : Json :=
  .obj [("from_wallet_id", t.source.wallet.toJson), ("to_wallet_id", t.target.wallet.toJson),
    ("from_currency", t.source.currency.toJson), ("to_currency", t.target.currency.toJson),
    ("amount", t.amount.toJson), ("reference", .str t.reference)]

/-- The names of the members of a request and of an order. -/
def names : List String :=
  ["from_wallet_id", "to_wallet_id", "from_currency", "to_currency", "amount", "reference"]

/-- Reads an order from a JSON value; neither the reference nor the accounts are checked. -/
def ofJson? (j : Json) : Option Transfer := do
  match ← j.fields? names with
  | [sourceWallet, targetWallet, sourceCurrency, targetCurrency, amount, reference] =>
    pure
      { source :=
          { wallet := ← Json.required? WalletId.ofJson? sourceWallet
            currency := ← Json.required? Currency.ofJson? sourceCurrency }
        target :=
          { wallet := ← Json.required? WalletId.ofJson? targetWallet
            currency := ← Json.required? Currency.ofJson? targetCurrency }
        amount := ← Json.required? Amount.ofJson? amount
        reference := ← Json.required? Json.asString? reference }
  | _ => none

/-- What the request of the order is recognised by. -/
def fingerprint (t : Transfer) : Fingerprint := .ofJson t.toJson

/-- The reference of the side that gives. -/
def outgoing (t : Transfer) : String := Reference.outgoing t.reference

/-- The reference of the side that receives. -/
def incoming (t : Transfer) : String := Reference.incoming t.reference

/-- What a caller asks for. -/
structure Request where
  /-- The number of the wallet that gives. -/
  sourceWallet : Int
  /-- The number of the wallet that receives. -/
  targetWallet : Int
  /-- The code of the currency that is given. -/
  sourceCurrency : String
  /-- The code of the currency that is received. -/
  targetCurrency : String
  /-- The amount in major units of the source. -/
  amount : Decimal
  /-- The caller's name for the request. -/
  reference : String
  deriving DecidableEq, Repr

namespace Request

/-- A request as a JSON value. -/
def toJson (r : Request) : Json :=
  .obj [("from_wallet_id", .int r.sourceWallet), ("to_wallet_id", .int r.targetWallet),
    ("from_currency", .str r.sourceCurrency), ("to_currency", .str r.targetCurrency),
    ("amount", Json.ofDecimal r.amount), ("reference", .str r.reference)]

/-- Reads a request from a JSON value. -/
def ofJson? (j : Json) : Option Request := do
  match ← j.fields? names with
  | [sourceWallet, targetWallet, sourceCurrency, targetCurrency, amount, reference] =>
    pure
      { sourceWallet := ← Json.required? Json.int64? sourceWallet
        targetWallet := ← Json.required? Json.int64? targetWallet
        sourceCurrency := ← Json.required? Json.asString? sourceCurrency
        targetCurrency := ← Json.required? Json.asString? targetCurrency
        amount := ← Json.required? Json.decimal? amount
        reference := ← Json.required? Json.asString? reference }
  | _ => none

/-- The order that a request asks for. Its parts are checked in their order. -/
def toOrder (r : Request) (scale : Nat) : Except LedgerError Transfer := do
  let source ← (Currency.ofText r.sourceCurrency).mapError LedgerError.ofCurrency
  let target ← (Currency.ofText r.targetCurrency).mapError LedgerError.ofCurrency
  let amount ← (Amount.ofMajor r.amount scale).mapError LedgerError.ofAmount
  make ⟨⟨r.sourceWallet⟩, source⟩ ⟨⟨r.targetWallet⟩, target⟩ amount r.reference

end Request

/-- What a caller gets for a completed transfer. -/
structure Receipt where
  /-- The caller's name for the order. -/
  reference : String
  /-- The wallet that gave. -/
  source : WalletId
  /-- The wallet that received. -/
  target : WalletId
  /-- What became of the amount. -/
  conversion : Conversion
  /-- What the source holds now. -/
  sourceBalance : Int
  /-- What the target holds now. -/
  targetBalance : Int
  deriving DecidableEq, Repr

namespace Receipt

/-- How much the source gave. -/
def debited (r : Receipt) : Int := r.conversion.amount

/-- How much the target received. -/
def credited (r : Receipt) : Int := r.conversion.converted

/-- The members of a receipt. -/
def members (r : Receipt) : List (String × Json) :=
  [("status", .str "completed"), ("reference", .str r.reference),
    ("from_wallet_id", r.source.toJson), ("to_wallet_id", r.target.toJson),
    ("conversion", r.conversion.toJson), ("from_balance", .int r.sourceBalance),
    ("to_balance", .int r.targetBalance)]

/-- A receipt as a JSON value. -/
def toJson (r : Receipt) : Json := .obj r.members

/-- The names of the members of a receipt. -/
def names : List String :=
  ["status", "reference", "from_wallet_id", "to_wallet_id", "conversion", "from_balance",
    "to_balance"]

/-- The status of a completed transfer, which is the only one. -/
def status? (j : Json) : Option Unit := do
  let name ← j.caseName?
  guard (name == "completed")

/-- A receipt from its fields. -/
def ofFields? : List (Option Json) → Option Receipt
  | [status, reference, source, target, conversion, sourceBalance, targetBalance] => do
    Json.required? status? status
    pure
      { reference := ← Json.required? Json.asString? reference
        source := ← Json.required? WalletId.ofJson? source
        target := ← Json.required? WalletId.ofJson? target
        conversion := ← Json.required? Conversion.ofJson? conversion
        sourceBalance := ← Json.required? Json.int64? sourceBalance
        targetBalance := ← Json.required? Json.int64? targetBalance }
  | _ => none

/-- Reads a receipt from a JSON value. -/
def ofJson? (j : Json) : Option Receipt := do
  let fields ← j.fields? names
  ofFields? fields

end Receipt

/-- How far an attempt of a transfer has come. -/
inductive Stage where
  /-- Nothing is done yet. -/
  | started
  /-- No entry carries one of the references. -/
  | idempotencyChecked
  /-- Both accounts are locked. -/
  | balancesLocked
  /-- The source holds enough. -/
  | validated
  /-- Both balances are changed. -/
  | mutated
  /-- The entries are written. -/
  | ledgerWritten
  /-- Everything is published. -/
  | committed
  /-- Nothing is published. -/
  | aborted
  deriving DecidableEq, Repr

namespace Stage

/-- Every stage, in order. -/
def all : List Stage :=
  [.started, .idempotencyChecked, .balancesLocked, .validated, .mutated, .ledgerWritten,
    .committed, .aborted]

/-- Whether an attempt ends with the stage. -/
def isTerminal : Stage → Bool
  | .committed | .aborted => true
  | _ => false

/-- The name of a stage. -/
def text : Stage → String
  | .started => "started"
  | .idempotencyChecked => "idempotency_checked"
  | .balancesLocked => "balances_locked"
  | .validated => "validated"
  | .mutated => "mutated"
  | .ledgerWritten => "ledger_written"
  | .committed => "committed"
  | .aborted => "aborted"

end Stage

end Transfer

end CurrencyLedger
