import CurrencyLedger.Wallet

/-! # Errors of a store

* **`DatabaseError`** — what a database reports;
* **`StoreError`** — what goes wrong in a call of a store. Errors of contention are worth another
  attempt; what a database reports is sorted by its state code. -/

namespace CurrencyLedger

/-- What a database reports. -/
inductive DatabaseError where
  /-- A statement failed, with a state code of five characters if there is one. -/
  | statement (state : Option String) (text : String)
  /-- A row that has to be there is not. -/
  | rowNotFound
  /-- No connection became free in time. -/
  | poolTimedOut
  deriving DecidableEq, Repr

/-- What happened, in words. -/
def DatabaseError.message : DatabaseError → String
  | .statement _ text => "error returned from database: " ++ text
  | .rowNotFound => "no rows returned by a query that expected to return at least one row"
  | .poolTimedOut => "pool timed out while waiting for an open connection"

/-- What goes wrong in a call of a store. -/
inductive StoreError where
  /-- The lock of an account was not free in time. -/
  | lockTimeout (text : String)
  /-- Two transactions were in each other's way. -/
  | conflict (text : String)
  /-- An entry carries the reference already. -/
  | duplicateReference (reference : String)
  /-- A balance would fall below zero. -/
  | insufficientFunds (account : Account) (required available : Int)
  /-- There is no such wallet. -/
  | walletNotFound (wallet : WalletId)
  /-- The account has no balance. -/
  | missingBalance (account : Account)
  /-- The transaction does not hold the lock of the account. -/
  | notLocked (account : Account)
  /-- A balance would be too large to be counted. -/
  | overflow (account : Account)
  /-- What was stored cannot be read. -/
  | corruptRow (text : String)
  /-- Anything else that a database reports. -/
  | database (error : DatabaseError)
  deriving DecidableEq, Repr

namespace StoreError

/-- What went wrong, in words. -/
def message : StoreError → String
  | .lockTimeout text => "Lock wait timed out on balance " ++ text
  | .conflict text => "Transaction conflict: " ++ text
  | .duplicateReference reference => "Reference already recorded: " ++ reference
  | .insufficientFunds account required available =>
    "Insufficient funds on " ++ account.text ++ ": required " ++ Numeral.text required ++
      ", available " ++ Numeral.text available
  | .walletNotFound wallet => "Wallet not found: " ++ wallet.text
  | .missingBalance account => "Balance " ++ account.text ++ " does not exist"
  | .notLocked account => "Balance " ++ account.text ++ " is not locked by this unit of work"
  | .overflow account => "Balance " ++ account.text ++ " would overflow"
  | .corruptRow text => "Corrupt row: " ++ text
  | .database error => "Database error: " ++ error.message

/-- Whether another attempt may succeed. -/
def isRetryable : StoreError → Bool
  | .lockTimeout _ | .conflict _ | .duplicateReference _ => true
  | _ => false

/-- The error that a database report amounts to: failed serialization and deadlock are conflicts, an
unavailable lock is a timeout, and a violated unique index is a duplicate reference. -/
def ofDatabase (error : DatabaseError) : StoreError :=
  match error with
  | .statement (some state) _ =>
    if state == "40001" || state == "40P01" then .conflict error.message
    else if state == "55P03" then .lockTimeout error.message
    else if state == "23505" then .duplicateReference error.message
    else .database error
  | _ => .database error

end StoreError

end CurrencyLedger
