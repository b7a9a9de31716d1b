import CurrencyLedger.LedgerError

/-! # Retrying operations

An operation that fails by contention is attempted again, a limited number of times, after a pause
that grows with the number of attempts. -/

namespace CurrencyLedger.Retry

/-- How often an operation is attempted, and how long it pauses in between. -/
structure Policy where
  /-- The greatest number of attempts; none counts as one. -/
  maxAttempts : Nat := 3
  /-- The pause after the first attempt in milliseconds; later ones are multiples of it. -/
  backoff : Nat := 50
  deriving DecidableEq, Repr

/-- A policy of at least one attempt. -/
def Policy.make (maxAttempts backoff : Nat) : Policy := ⟨max 1 maxAttempts, backoff⟩

/-- A policy of one attempt. -/
def Policy.single : Policy := .make 1 0

/-- Whether a result is worth another attempt. -/
def isRetryable : Except LedgerError α → Bool
  | .error e => e.isRetryable
  | .ok _ => false

/-- Attempts an operation until its result is not worth another attempt, or none is left.
`attempt` is the number of the next attempt. -/
def attempts [Monad m] (sleep : Nat → m Unit) (backoff : Nat)
    (operation : m (Except LedgerError α)) : (more attempt : Nat) → m (Except LedgerError α)
  | 0, _ => operation
  | more + 1, attempt => do
    let result ← operation
    if isRetryable result then
      sleep (backoff * attempt)
      attempts sleep backoff operation more (attempt + 1)
    else pure result

/-- Attempts an operation as often as a policy allows. -/
def Policy.run [Monad m] (policy : Policy) (sleep : Nat → m Unit)
    (operation : m (Except LedgerError α)) : m (Except LedgerError α) :=
  attempts sleep policy.backoff operation (max 1 policy.maxAttempts - 1) 1

end CurrencyLedger.Retry
