import CurrencyLedger.Operation.Locking
import CurrencyLedger.Operation.Record

/-! # Deposits and withdrawals

One account is locked and moved, and one entry is written, which also keeps the completion. -/

namespace CurrencyLedger.Adjustment

open Operation (Progress)

/-- The change of an account by an amount, if what it holds allows it. -/
def delta (order : Adjustment) (direction : Direction) (available : Balance) :
    Except LedgerError Int :=
  match direction with
  | .deposit => do
    let _ ← (available.credit order.amount).mapError LedgerError.ofAmount
    pure order.amount.minor
  | .withdraw =>
    if available.covers order.amount then pure (-order.amount.minor)
    else throw (.insufficientFunds order.account order.amount.minor available.minor)

/-- What one attempt does inside its transaction. -/
def work (order : Adjustment) (direction : Direction) (context : Context) :
    Operation (Progress Receipt) := do
  match ← Operation.findCompleted order.reference direction.operation order.fingerprint with
  | some completion =>
    let receipt ← Operation.ofExcept
      ((completion.outcomeAs Receipt.ofJson? order.reference).mapError LedgerError.ofCompletion)
    pure (.replayed receipt)
  | none =>
    let locked ← Operation.ofStore (.lockAll [order.account])
    let available ← Operation.ofExcept
      ((Balance.ofMinor ((locked.get? order.account).getD 0)).mapError LedgerError.ofAmount)
    let change ← Operation.ofExcept (order.delta direction available)
    let balance ← Operation.ask (.apply order.account change)
    let receipt : Receipt := ⟨order.reference, order.account, order.amount.minor, balance⟩
    let completion : Completion :=
      { kind := direction.operation
        fingerprint := order.fingerprint
        outcome := receipt.toJson.canonical
        context := context
        recorded := ← Operation.clock }
    let _ ← Operation.ask (.append
      { account := order.account
        kind := direction.entry
        amount := order.amount.minor
        reference := some order.reference
        metadata := some completion.toMetadata })
    pure (.applied receipt)

/-- One attempt of a deposit or a withdrawal. -/
def attempt (order : Adjustment) (direction : Direction) (context : Context) :
    Operation (Processed Receipt) :=
  Operation.inTransaction (fun _ => pure ()) (order.work direction context)

end CurrencyLedger.Adjustment
