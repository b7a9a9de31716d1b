import CurrencyLedger.Operation.Locking
import CurrencyLedger.Operation.Record

/-! # Transfers between accounts

Both accounts are locked, the source is debited, the amount converted and the target credited. Three
entries are written: one for each side, and one that moves nothing and keeps the completion under
the caller's reference. -/

namespace CurrencyLedger.Transfer

open Operation (Progress)

/-- The metadata of one side: the reference of the transfer and the wallet of the other side. -/
def sideMetadata (t : Transfer) (counterparty : WalletId) : Json :=
  Json.canonical (.obj [("transfer", .str t.reference),
    ("counterparty_wallet_id", counterparty.toJson)])

/-- The posting of the side that gives. -/
def outgoingPosting (t : Transfer) : Posting :=
  { account := t.source
    kind := .transferOut
    amount := t.amount.minor
    reference := some t.outgoing
    metadata := some (t.sideMetadata t.target.wallet) }

/-- The posting of the side that receives. -/
def incomingPosting (t : Transfer) (converted : Int) : Posting :=
  { account := t.target
    kind := .transferIn
    amount := converted
    reference := some t.incoming
    metadata := some (t.sideMetadata t.source.wallet) }

/-- The posting that keeps the completion. -/
def recordPosting (t : Transfer) (completion : Completion) : Posting :=
  { account := t.source
    kind := .record
    amount := 0
    reference := some t.reference
    metadata := some completion.toMetadata }

/-- The conversion of the amount, if something is left of it. -/
def convert (t : Transfer) (rates : Rates) : Except LedgerError Conversion := do
  let conversion ← (rates.convert t.amount.minor t.source.currency t.target.currency).mapError
    LedgerError.ofConversion
  if conversion.converted = 0 then
    throw (.invalidAmount (Numeral.text t.amount.minor ++ " " ++ t.source.currency.code ++
      " converts to zero " ++ t.target.currency.code))
  pure conversion

/-- What the source holds, if it is enough. -/
def checkFunds (t : Transfer) (available : Int) : Except LedgerError Unit := do
  let balance ← (Balance.ofMinor available).mapError LedgerError.ofAmount
  if balance.covers t.amount then pure ()
  else throw (.insufficientFunds t.source t.amount.minor balance.minor)

/-- What one attempt does inside its transaction. -/
def work (t : Transfer) (rates : Rates) (context : Context) : Operation (Progress Receipt) := do
  match ← Operation.findCompleted t.reference .transfer t.fingerprint with
  | some completion =>
    let receipt ← Operation.ofExcept
      ((completion.outcomeAs Receipt.ofJson? t.reference).mapError LedgerError.ofCompletion)
    pure (.replayed receipt)
  | none =>
    Operation.ensureUnclaimed [t.outgoing, t.incoming]
    Operation.reach .idempotencyChecked
    let locked ← Operation.ofStore (.lockAll [t.source, t.target])
    Operation.reach .balancesLocked
    Operation.ofExcept (t.checkFunds ((locked.get? t.source).getD 0))
    Operation.reach .validated
    let sourceBalance ← Operation.ask (.apply t.source (-t.amount.minor))
    let conversion ← Operation.ofExcept (t.convert rates)
    let targetBalance ← Operation.ask (.apply t.target conversion.converted)
    Operation.reach .mutated
    let _ ← Operation.ask (.append t.outgoingPosting)
    let _ ← Operation.ask (.append (t.incomingPosting conversion.converted))
    let receipt : Receipt :=
      ⟨t.reference, t.source.wallet, t.target.wallet, conversion, sourceBalance, targetBalance⟩
    let completion : Completion :=
      { kind := .transfer
        fingerprint := t.fingerprint
        outcome := receipt.toJson.canonical
        context := context
        recorded := ← Operation.clock }
    let _ ← Operation.ask (.append (t.recordPosting completion))
    Operation.reach .ledgerWritten
    pure (.applied receipt)

/-- One attempt of a transfer. -/
def attempt (t : Transfer) (rates : Rates) (context : Context) : Operation (Processed Receipt) :=
  if t.source = t.target then throw .invalidTarget
  else Operation.inTransaction Script.reach (t.work rates context)

end CurrencyLedger.Transfer
