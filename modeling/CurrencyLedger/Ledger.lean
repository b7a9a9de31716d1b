import CurrencyLedger.Audit
import CurrencyLedger.Operation.Adjust
import CurrencyLedger.Operation.Move
import CurrencyLedger.Retry

/-! # The ledger

What callers can ask for: wallets and their history, deposits, withdrawals and transfers, and a
reconciliation. Requests are checked and counted in minor units first, and an operation that fails
by contention is attempted again as a whole. -/

namespace CurrencyLedger

/-- How a ledger works. -/
structure Ledger where
  /-- The rates that transfers convert by. -/
  rates : Rates
  /-- How operations are retried. -/
  retry : Retry.Policy := {}
  /-- How many decimal places there are between major and minor units. -/
  scale : Nat := 2

namespace Ledger

/-! ## Wallets -/

/-- The greatest length of the name of a wallet. -/
def maxNameLength : Nat := 100

/-- The greatest number of entries on a page of history. -/
def maxPage : Int := 500

/-- The name of a wallet without the blanks around it; a wallet without a name has a common one. -/
def walletName (name : String) : Except LedgerError String :=
  let trimmed := Text.trim name
  let chosen := if trimmed.isEmpty then "Main" else trimmed
  if maxNameLength < chosen.length then
    .error (.invalidRequest "wallet name is longer than 100 characters")
  else .ok chosen

/-- Makes a wallet for a user. -/
def createWallet (user : UserId) (name : String) : Operation Wallet := do
  let name ← Operation.ofExcept (walletName name)
  Operation.ask (.createWallet user name)

/-- The wallet of a number, which has to exist. -/
def existing (wallet : WalletId) : Operation Wallet := do
  match ← Operation.ask (.findWallet wallet) with
  | some found => pure found
  | none => throw (.walletNotFound wallet)

/-- A wallet with what its accounts hold. -/
def statement (wallet : WalletId) : Operation WalletStatement := do
  let found ← existing wallet
  let holdings ← Operation.ask (.holdings wallet)
  pure ⟨found, holdings⟩

/-- How many entries a page of history has at most. -/
def pageSize (limit : Int) : Int := min (max limit 1) maxPage

/-- The newest entries of a wallet, the newest first. -/
def history (wallet : WalletId) (limit : Int) : Operation (List Entry) := do
  let _ ← existing wallet
  Operation.ask (.entries wallet (pageSize limit))

/-! ## Money movement -/

/-- Attempts an operation as often as the policy of the ledger allows. -/
def retrying (l : Ledger) (attempt : Operation α) : Operation α :=
  ExceptT.mk (l.retry.run Script.pause attempt.run)

/-- Carries out an order to move one account. A context without an identifier gets the fresh one. -/
def adjust (l : Ledger) (direction : Direction) (order : Adjustment) (context : Context)
    (fresh : Uuid) : Operation (Processed Adjustment.Receipt) :=
  l.retrying (order.attempt direction (context.ensureCorrelation fresh))

/-- Carries out a request to move one account. -/
def request (l : Ledger) (direction : Direction) (request : Adjustment.Request)
    (context : Context) (fresh : Uuid) : Operation (Processed Adjustment.Receipt) := do
  let order ← Operation.ofExcept (request.toOrder l.scale)
  l.adjust direction order context fresh

/-- Carries out an order to move money between two accounts. A context without an identifier gets
the fresh one. -/
def move (l : Ledger) (order : Transfer) (context : Context) (fresh : Uuid) :
    Operation (Processed Transfer.Receipt) :=
  l.retrying (order.attempt l.rates (context.ensureCorrelation fresh))

/-- Carries out a request to move money between two accounts. -/
def transfer (l : Ledger) (request : Transfer.Request) (context : Context) (fresh : Uuid) :
    Operation (Processed Transfer.Receipt) := do
  let order ← Operation.ofExcept (request.toOrder l.scale)
  l.move order context fresh

end Ledger

end CurrencyLedger
