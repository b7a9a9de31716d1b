import CurrencyLedger.Operation.Script

/-! # Records of operations

The part of operations that looks at references: what was completed before is found and compared,
and what is completed now is written down. -/

namespace CurrencyLedger.Operation

/-- Whether an entry carries the reference. -/
def hasCompleted (reference : String) : Operation Bool := do
  let entry ← ask (.find reference)
  pure entry.isSome

/-- The completion kept under a reference, if there is one; it has to be that of the same
request. -/
def findCompleted (reference : String) (kind : OperationKind) (fingerprint : Fingerprint) :
    Operation (Option Completion) := do
  match ← ask (.find reference) with
  | none => pure none
  | some entry =>
    let completion ←
      ofExcept ((Completion.ofEntry reference entry).mapError LedgerError.ofCompletion)
    ofExcept ((completion.verify reference kind fingerprint).mapError LedgerError.ofCompletion)
    pure (some completion)

/-- Fails if an entry carries one of the references. -/
def ensureUnclaimed : List String → Operation Unit
  | [] => pure ()
  | reference :: references => do
    if ← hasCompleted reference then throw (.idempotencyConflict reference)
    ensureUnclaimed references

/-- What one attempt of an operation comes to. -/
inductive Progress (α : Type) where
  /-- The operation was completed before. -/
  | replayed (receipt : α)
  /-- The operation is done now, and waits to be published. -/
  | applied (receipt : α)

/-- Carries out work in a transaction: publishes what was done, and gives up what was done before
or cannot be done. Giving up after an error cannot make it another error. The stages that end an
attempt are passed on. -/
def inTransaction (reach : Transfer.Stage → Script Unit) (work : Operation (Progress α)) :
    Operation (Processed α) :=
  ExceptT.mk do
    match ← Script.ask .begin with
    | .error e => pure (.error (.ofStore e))
    | .ok () =>
      match ← work.run with
      | .ok (.replayed receipt) =>
        match ← Script.ask .rollback with
        | .error e => pure (.error (.ofStore e))
        | .ok () => pure (.ok ⟨receipt, true⟩)
      | .ok (.applied receipt) =>
        match ← Script.ask .commit with
        | .error e =>
          reach .aborted
          pure (.error (.ofStore e))
        | .ok () =>
          reach .committed
          pure (.ok ⟨receipt, false⟩)
      | .error e =>
        reach .aborted
        let _ ← Script.ask .rollback
        pure (.error e)

end CurrencyLedger.Operation
