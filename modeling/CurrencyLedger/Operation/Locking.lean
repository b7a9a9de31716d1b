import CurrencyLedger.Operation.Script

/-! # Locking accounts

The locks of several accounts are always taken in ascending order of the accounts, so that two
transactions can never wait for each other. An account without a balance gets an empty one. -/

namespace CurrencyLedger

/-- The accounts of a list in ascending order, each once. -/
def Account.ascending (accounts : List Account) : List Account :=
  (Table.ofList (accounts.map fun account => (account, ()))).keys

namespace StoreScript

/-- Locks an account and tells what it holds. -/
def lockOne (account : Account) : StoreScript Int := do
  match ← ask (.lock account) with
  | some amount => pure amount
  | none =>
    let _ ← ask (.create account 0)
    match ← ask (.lock account) with
    | some amount => pure amount
    | none => throw (.missingBalance account)

/-- Locks accounts one after another, and adds what they hold to a table. -/
def lockEach (held : Table Account Int) : List Account → StoreScript (Table Account Int)
  | [] => pure held
  | account :: accounts => do
    let amount ← lockOne account
    lockEach (held.insert account amount) accounts

/-- Locks accounts in ascending order, each once, and tells what they hold. -/
def lockAll (accounts : List Account) : StoreScript (Table Account Int) :=
  lockEach .empty (Account.ascending accounts)

end StoreScript

end CurrencyLedger
