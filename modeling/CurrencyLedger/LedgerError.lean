import CurrencyLedger.Completion
import CurrencyLedger.Conversion
import CurrencyLedger.Store.Error

/-! # Errors of the ledger

What an operation of the ledger answers when it does not succeed. Most errors lie in the request;
the errors of storage do not, and only contention is worth another attempt. Each lower error becomes
one of these. -/

namespace CurrencyLedger

/-- Why an operation of the ledger does not succeed. -/
inductive LedgerError where
  /-- The request cannot be carried out as it is. -/
  | invalidRequest (text : String)
  /-- The amount is no amount, or leads beyond what can be counted. -/
  | invalidAmount (text : String)
  /-- Source and destination are one account. -/
  | invalidTarget
  /-- A text names no currency. -/
  | invalidCurrency (text : String)
  /-- A text is no reference. -/
  | invalidReference (text : String)
  /-- The account does not hold enough. -/
  | insufficientFunds (account : Account) (required available : Int)
  /-- No rate leads from one currency to the other. -/
  | unsupportedConversion (source target : Currency)
  /-- The reference belongs to a different request. -/
  | idempotencyConflict (reference : String)
  /-- There is no such wallet. -/
  | walletNotFound (wallet : WalletId)
  /-- Other operations were in the way. -/
  | storageConflict (text : String)
  /-- Storage does not work as it should. -/
  | storageFailure (text : String)
  deriving DecidableEq, Repr

namespace LedgerError

/-- A short name of the kind of error, for programs. -/
def code : LedgerError → String
  | .invalidRequest _ => "invalid_request"
  | .invalidAmount _ => "invalid_amount"
  | .invalidTarget => "invalid_target"
  | .invalidCurrency _ => "invalid_currency"
  | .invalidReference _ => "invalid_reference"
  | .insufficientFunds .. => "insufficient_funds"
  | .unsupportedConversion .. => "unsupported_conversion"
  | .idempotencyConflict _ => "idempotency_conflict"
  | .walletNotFound _ => "wallet_not_found"
  | .storageConflict _ => "storage_conflict"
  | .storageFailure _ => "storage_failure"

/-- What went wrong, in words. -/
def message : LedgerError → String
  | .invalidRequest text => "Invalid request: " ++ text
  | .invalidAmount text => "Invalid amount: " ++ text
  | .invalidTarget => "Invalid target: source and destination are the same balance"
  | .invalidCurrency text => "Invalid currency: " ++ text
  | .invalidReference text => "Invalid reference: " ++ text
  | .insufficientFunds account required available =>
    "Insufficient funds in wallet " ++ account.wallet.text ++ " (" ++ account.currency.code ++
      "): required " ++ Numeral.text required ++ ", available " ++ Numeral.text available
  | .unsupportedConversion source target =>
    "Unsupported conversion " ++ source.code ++ " -> " ++ target.code
  | .idempotencyConflict reference =>
    "Idempotency conflict: reference " ++ reference ++ " was used for a different request"
  | .walletNotFound wallet => "Wallet not found: " ++ wallet.text
  | .storageConflict text => "Storage conflict: " ++ text
  | .storageFailure text => "Storage failure: " ++ text

/-- Whether the request itself is at fault, so that repeating it cannot help. -/
def isClientError : LedgerError → Bool
  | .storageConflict _ | .storageFailure _ => false
  | _ => true

/-- Whether another attempt may succeed. -/
def isRetryable : LedgerError → Bool
  | .storageConflict _ => true
  | _ => false

/-- The error of the ledger that an error of a store becomes. -/
def ofStore (error : StoreError) : LedgerError :=
  match error with
  | .lockTimeout _ | .conflict _ | .duplicateReference _ => .storageConflict error.message
  | .insufficientFunds account required available => .insufficientFunds account required available
  | .walletNotFound wallet => .walletNotFound wallet
  | .overflow account => .invalidAmount ("balance " ++ account.text ++ " would overflow")
  | _ => .storageFailure error.message

/-- The error of the ledger that an unusable reference becomes. -/
def ofCompletion (error : CompletionError) : LedgerError :=
  match error with
  | .taken reference | .kindMismatch reference _ _ | .fingerprintMismatch reference =>
    .idempotencyConflict reference
  | .unreadable _ => .storageFailure error.message

/-- The error of the ledger that a number without an amount becomes. -/
def ofAmount (error : AmountError) : LedgerError := .invalidAmount error.message

/-- The error of the ledger that a text without a currency becomes. -/
def ofCurrency (error : CurrencyError) : LedgerError := .invalidCurrency error.text

/-- The error of the ledger that an impossible conversion becomes. -/
def ofConversion (error : ConversionError) : LedgerError :=
  match error with
  | .unsupported source target => .unsupportedConversion source target
  | .overflow .. => .invalidAmount error.message

/-- What is worth another attempt is not the fault of the request. -/
theorem isClientError_of_isRetryable {e : LedgerError} (h : e.isRetryable = true) :
    e.isClientError = false := by
  cases e <;> simp_all [isRetryable, isClientError]

end LedgerError

end CurrencyLedger
