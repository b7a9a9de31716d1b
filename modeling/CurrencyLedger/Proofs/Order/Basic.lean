import CurrencyLedger.Operation.Adjust
import CurrencyLedger.Operation.Move
import CurrencyLedger.Proofs.Operation.Record

/-! # Orders

A deposit, a withdrawal and a transfer have much in common: each is named by a reference, locks
accounts, gives them new balances, and writes postings of which one keeps the completion.

* **`Order`** — an order of either kind, with the rates that a transfer converts by;
* **`Order.evaluate`** — what an order comes to, if nothing but the amounts of its accounts is in
  its way;
* **`Order.balances`**, **`Order.postings`** — what it publishes then;
* **`Order.SameRequest`** — whether two orders are attempts of one request. -/

namespace CurrencyLedger

/-- The receipt of a deposit or a withdrawal, if what the account holds allows it. -/
def Adjustment.evaluate (order : Adjustment) (direction : Direction) (amounts : Account → Int) :
    Except LedgerError Adjustment.Receipt := do
  let available ← (Balance.ofMinor (amounts order.account)).mapError LedgerError.ofAmount
  let change ← order.delta direction available
  let balance ← (Store.moved order.account (amounts order.account) change).mapError
    LedgerError.ofStore
  pure ⟨order.reference, order.account, order.amount.minor, balance⟩

/-- The receipt of a transfer, if what the accounts hold and the rates allow it. -/
def Transfer.evaluate (t : Transfer) (rates : Rates) (amounts : Account → Int) :
    Except LedgerError Transfer.Receipt := do
  t.checkFunds (amounts t.source)
  let sourceBalance ← (Store.moved t.source (amounts t.source) (-t.amount.minor)).mapError
    LedgerError.ofStore
  let conversion ← t.convert rates
  let targetBalance ← (Store.moved t.target (amounts t.target) conversion.converted).mapError
    LedgerError.ofStore
  pure ⟨t.reference, t.source.wallet, t.target.wallet, conversion, sourceBalance, targetBalance⟩

/-- An order to move money. -/
inductive Order where
  /-- Into or out of one account. -/
  | adjust (direction : Direction) (order : Adjustment)
  /-- Between two accounts, converted by rates. -/
  | move (rates : Rates) (order : Transfer)
  deriving DecidableEq

namespace Order

/-- What a caller gets for an order. -/
inductive Receipt where
  /-- For a deposit or a withdrawal. -/
  | adjusted (receipt : Adjustment.Receipt)
  /-- For a transfer. -/
  | moved (receipt : Transfer.Receipt)
  deriving DecidableEq

/-- A receipt as a JSON value. -/
def Receipt.toJson : Receipt → Json
  | .adjusted receipt => receipt.toJson
  | .moved receipt => receipt.toJson

/-- The caller's name for the order. -/
def reference : Order → String
  | .adjust _ order => order.reference
  | .move _ order => order.reference

/-- The kind of operation. -/
def kind : Order → OperationKind
  | .adjust direction _ => direction.operation
  | .move .. => .transfer

/-- What the request of the order is recognised by. -/
def fingerprint : Order → Fingerprint
  | .adjust _ order => order.fingerprint
  | .move _ order => order.fingerprint

/-- The accounts that the order moves. -/
def accounts : Order → List Account
  | .adjust _ order => [order.account]
  | .move _ order => [order.source, order.target]

/-- The references that the order uses besides its own. -/
def sides : Order → List String
  | .adjust .. => []
  | .move _ order => [order.outgoing, order.incoming]

/-- Whether the order gives to the account that it takes from. -/
def isCircular : Order → Bool
  | .adjust .. => false
  | .move _ order => order.source = order.target

/-- The stages that an attempt tells before it is published. -/
def stages : Order → List Transfer.Stage
  | .adjust .. => []
  | .move .. => [.idempotencyChecked, .balancesLocked, .validated, .mutated, .ledgerWritten]

/-- The receipt of the order, if amounts and rates allow it. -/
def evaluate : Order → (Account → Int) → Except LedgerError Receipt
  | .adjust direction order, amounts => (order.evaluate direction amounts).map .adjusted
  | .move rates order, amounts => (order.evaluate rates amounts).map .moved

/-- The balances that the order leaves behind. -/
def balances : Order → Receipt → Table Account Int
  | .adjust _ order, .adjusted receipt => Table.empty.insert order.account receipt.balance
  | .move _ order, .moved receipt =>
    (Table.empty.insert order.source receipt.sourceBalance).insert order.target
      receipt.targetBalance
  | _, _ => .empty

/-- The completion that the order leaves behind. -/
def completion (order : Order) (receipt : Receipt) (context : Context) (recorded : Instant) :
    Completion where
  kind := order.kind
  fingerprint := order.fingerprint
  outcome := receipt.toJson.canonical
  context := context
  recorded := recorded

/-- The postings that the order leaves behind with a completion. -/
def postings : Order → Receipt → Completion → List Posting
  | .adjust direction order, _, completion =>
    [{ account := order.account
       kind := direction.entry
       amount := order.amount.minor
       reference := some order.reference
       metadata := some completion.toMetadata }]
  | .move _ order, .moved receipt, completion =>
    [order.outgoingPosting, order.incomingPosting receipt.conversion.converted,
      order.recordPosting completion]
  | _, _, _ => []

/-- Whether orders are attempts of one request: of one kind, with the same order. Rates may
differ. -/
def SameRequest : Order → Order → Prop
  | .adjust direction order, .adjust direction' order' => direction = direction' ∧ order = order'
  | .move _ order, .move _ order' => order = order'
  | _, _ => False

/-- The receipt that an entry under the reference of the order keeps, if the entry is that of the
same request. -/
def receiptIn (order : Order) (entry : Entry) : Except LedgerError Receipt := do
  let completion ← Completion.accepted order.reference order.kind order.fingerprint entry
  match order with
  | .adjust _ order =>
    ((completion.outcomeAs Adjustment.Receipt.ofJson? order.reference).mapError
      LedgerError.ofCompletion).map .adjusted
  | .move _ order =>
    ((completion.outcomeAs Transfer.Receipt.ofJson? order.reference).mapError
      LedgerError.ofCompletion).map .moved

/-- One attempt of an order. -/
def attempt (order : Order) (context : Context) : Operation (Processed Receipt) :=
  match order with
  | .adjust direction order =>
    (fun p => ⟨.adjusted p.receipt, p.replayed⟩) <$> order.attempt direction context
  | .move rates order => (fun p => ⟨.moved p.receipt, p.replayed⟩) <$> order.attempt rates context

/-! ## What depends on what -/

/-- Attempts of one request are the same order, or the same transfer by other rates. -/
theorem SameRequest.eq_or_move {a b : Order} (same : a.SameRequest b) :
    b = a ∨ ∃ rates rates' order, a = .move rates order ∧ b = .move rates' order := by
  cases a with
  | adjust direction order =>
    cases b with
    | adjust direction' order' =>
      obtain ⟨rfl, rfl⟩ := same
      exact Or.inl rfl
    | move rates' order' => exact same.elim
  | move rates order =>
    cases b with
    | adjust direction' order' => exact same.elim
    | move rates' order' =>
      obtain rfl : order = order' := same
      exact Or.inr ⟨rates, rates', order, rfl, rfl⟩

/-- Attempts of one request have one reference. -/
theorem SameRequest.reference_eq {a b : Order} (same : a.SameRequest b) :
    a.reference = b.reference := by
  rcases same.eq_or_move with rfl | ⟨_, _, _, rfl, rfl⟩ <;> rfl

/-- Attempts of one request move the same accounts. -/
theorem SameRequest.accounts_eq {a b : Order} (same : a.SameRequest b) :
    a.accounts = b.accounts := by
  rcases same.eq_or_move with rfl | ⟨_, _, _, rfl, rfl⟩ <;> rfl

/-- Attempts of one request use the same references besides. -/
theorem SameRequest.sides_eq {a b : Order} (same : a.SameRequest b) : a.sides = b.sides := by
  rcases same.eq_or_move with rfl | ⟨_, _, _, rfl, rfl⟩ <;> rfl

/-- Attempts of one request are circular together. -/
theorem SameRequest.isCircular_eq {a b : Order} (same : a.SameRequest b) :
    a.isCircular = b.isCircular := by
  rcases same.eq_or_move with rfl | ⟨_, _, _, rfl, rfl⟩ <;> rfl

/-- Attempts of one request recall the same. -/
theorem SameRequest.receiptIn_eq {a b : Order} (same : a.SameRequest b) (entry : Entry) :
    b.receiptIn entry = a.receiptIn entry := by
  rcases same.eq_or_move with rfl | ⟨_, _, _, rfl, rfl⟩ <;> rfl

/-- What an order comes to depends on nothing but the amounts of its accounts. -/
theorem evaluate_congr {order : Order} {amounts amounts' : Account → Int}
    (h : ∀ account ∈ order.accounts, amounts account = amounts' account) :
    order.evaluate amounts = order.evaluate amounts' := by
  cases order with
  | adjust direction order =>
    have same := h order.account (by simp [accounts])
    simp only [evaluate, Adjustment.evaluate, same]
  | move rates order =>
    have source := h order.source (by simp [accounts])
    have target := h order.target (by simp [accounts])
    simp only [evaluate, Transfer.evaluate, source, target]

end Order

end CurrencyLedger
