import CurrencyLedger.Proofs.Order.Basic
import Mathlib.Algebra.Ring.Int.Defs

/-! # What orders do to balances

The balances that an order leaves behind are the old ones and what its postings add.

* **`Posting.total`**, **`Entry.total`** — what postings and entries add up to on an account;
* **`Adjustment.evaluate_eq_ok`**, **`Transfer.evaluate_eq_ok`** — what the receipt of an order is;
* **`Order.isRefusal_of_evaluate`** — an order comes to nothing only if amounts or rates do not allow
  it;
* **`Order.get?_balances`** — every account of an order gets its old amount and what the postings
  of the order add to it, which is neither negative nor beyond what can be counted. -/

namespace CurrencyLedger

/-- A chain of two results ends well iff both do. -/
theorem bind_eq_ok {ε α β : Type} {x : Except ε α} {f : α → Except ε β} {b : β} :
    x >>= f = .ok b ↔ ∃ a, x = .ok a ∧ f a = .ok b := by
  cases x with
  | error error => simp [bind, Except.bind]
  | ok a => simp [bind, Except.bind]

/-- A result with another error ends well iff it did. -/
theorem mapError_eq_ok {ε ε' α : Type} {x : Except ε α} {f : ε → ε'} {a : α} :
    x.mapError f = .ok a ↔ x = .ok a := by
  cases x <;> simp [Except.mapError]

/-- A result that is rewritten ends well iff it did. -/
theorem map_eq_ok {ε α β : Type} {x : Except ε α} {f : α → β} {b : β} :
    x.map f = .ok b ↔ ∃ a, x = .ok a ∧ f a = b := by
  cases x <;> simp [Except.map]

/-- A chain of two results ends with an error iff one of them does. -/
theorem bind_eq_error {ε α β : Type} {x : Except ε α} {f : α → Except ε β} {error : ε} :
    x >>= f = .error error ↔ x = .error error ∨ ∃ a, x = .ok a ∧ f a = .error error := by
  cases x with
  | error other => simp [bind, Except.bind]
  | ok a => simp [bind, Except.bind]

/-- A result with another error ends with the one that its own becomes. -/
theorem mapError_eq_error {ε ε' α : Type} {x : Except ε α} {f : ε → ε'} {error : ε'} :
    x.mapError f = .error error ↔ ∃ other, x = .error other ∧ f other = error := by
  cases x <;> simp [Except.mapError]

/-- A result that is rewritten keeps its error. -/
theorem map_eq_error {ε α β : Type} {x : Except ε α} {f : α → β} {error : ε} :
    x.map f = .error error ↔ x = .error error := by
  cases x <;> simp [Except.map]

/-! ## Totals -/

/-- What postings add up to on an account. -/
def Posting.total (account : Account) (postings : List Posting) : Int :=
  ((postings.filter (·.account = account)).map Posting.signed).sum

namespace Posting

variable {account : Account}

@[simp] theorem total_nil : total account [] = 0 := rfl

/-- The first posting counts for its own account. -/
theorem total_cons (p : Posting) (postings : List Posting) :
    total account (p :: postings) =
      (if p.account = account then p.signed else 0) + total account postings := by
  by_cases here : p.account = account
  · simp [total, here]
  · simp [total, here]

/-- Postings in a row add up. -/
theorem total_append (postings more : List Posting) :
    total account (postings ++ more) = total account postings + total account more := by
  rw [total, List.filter_append, List.map_append, List.sum_append]
  rfl

/-- Postings of other accounts add nothing. -/
theorem total_eq_zero {postings : List Posting} (other : ∀ p ∈ postings, p.account ≠ account) :
    total account postings = 0 := by
  rw [total, List.filter_eq_nil_iff.2 fun p mem => by simpa using other p mem]
  rfl

end Posting

/-- What entries add up to on an account. -/
def Entry.total (account : Account) (entries : List Entry) : Int :=
  ((entries.filter (·.account = account)).map (·.signed)).sum

/-- What entries add up to is what their postings do. -/
theorem Entry.total_eq (account : Account) (entries : List Entry) :
    total account entries = Posting.total account (entries.map (·.toPosting)) := by
  rw [total, Posting.total, List.filter_map, List.map_map]
  rfl

/-- The first entry counts for its own account. -/
theorem Entry.total_cons (account : Account) (entry : Entry) (entries : List Entry) :
    total account (entry :: entries) =
      (if entry.account = account then entry.signed else 0) + total account entries := by
  rw [total_eq, total_eq, List.map_cons, Posting.total_cons]

/-- Entries in a row add up. -/
theorem Entry.total_append (account : Account) (entries more : List Entry) :
    total account (entries ++ more) = total account entries + total account more := by
  rw [total_eq, total_eq, total_eq, List.map_append, Posting.total_append]

/-! ## Receipts -/

/-- How far an adjustment moves its account: as far as its entry says. -/
theorem Adjustment.delta_eq_ok {order : Adjustment} {direction : Direction} {available : Balance}
    {change : Int} (h : order.delta direction available = .ok change) :
    change = direction.entry.signed order.amount.minor := by
  cases direction with
  | deposit =>
    obtain ⟨_, -, h⟩ := bind_eq_ok.1 h
    exact (Except.ok.inj h).symm
  | withdraw =>
    rw [delta] at h
    split at h
    · exact (Except.ok.inj h).symm
    · cases h

/-- The receipt of a deposit or a withdrawal repeats the order and tells the balance that the
account is moved to. -/
theorem Adjustment.evaluate_eq_ok {order : Adjustment} {direction : Direction}
    {amounts : Account → Int} {receipt : Receipt}
    (h : order.evaluate direction amounts = .ok receipt) :
    receipt = ⟨order.reference, order.account, order.amount.minor, receipt.balance⟩ ∧
      Store.moved order.account (amounts order.account)
        (direction.entry.signed order.amount.minor) = .ok receipt.balance := by
  obtain ⟨available, -, h⟩ := bind_eq_ok.1 h
  obtain ⟨change, delta, h⟩ := bind_eq_ok.1 h
  obtain ⟨balance, moved, h⟩ := bind_eq_ok.1 h
  cases h
  rw [← delta_eq_ok delta]
  exact ⟨rfl, mapError_eq_ok.1 moved⟩

/-- The receipt of a transfer repeats the order and tells the conversion and the balances that both
accounts are moved to. -/
theorem Transfer.evaluate_eq_ok {order : Transfer} {rates : Rates} {amounts : Account → Int}
    {receipt : Receipt} (h : order.evaluate rates amounts = .ok receipt) :
    receipt = ⟨order.reference, order.source.wallet, order.target.wallet, receipt.conversion,
        receipt.sourceBalance, receipt.targetBalance⟩ ∧
      order.convert rates = .ok receipt.conversion ∧
      Store.moved order.source (amounts order.source) (-order.amount.minor) =
        .ok receipt.sourceBalance ∧
      Store.moved order.target (amounts order.target) receipt.conversion.converted =
        .ok receipt.targetBalance := by
  obtain ⟨_, -, h⟩ := bind_eq_ok.1 h
  obtain ⟨sourceBalance, debit, h⟩ := bind_eq_ok.1 h
  obtain ⟨conversion, convert, h⟩ := bind_eq_ok.1 h
  obtain ⟨targetBalance, credit, h⟩ := bind_eq_ok.1 h
  cases h
  exact ⟨rfl, convert, mapError_eq_ok.1 debit, mapError_eq_ok.1 credit⟩

/-! ## Refusals -/

namespace LedgerError

/-- Whether an error tells that amounts or rates do not allow what was asked. -/
def isRefusal : LedgerError → Bool
  | .invalidAmount _ | .insufficientFunds .. | .unsupportedConversion .. => true
  | _ => false

/-- That amounts or rates do not allow something is the fault of the request. -/
theorem isClientError_of_isRefusal {error : LedgerError} (refusal : error.isRefusal = true) :
    error.isClientError = true := by
  cases error <;> first | rfl | cases refusal

/-- That an account cannot be moved is a refusal. -/
theorem isRefusal_of_moved {account : Account} {available change : Int} {error : LedgerError}
    (h : (Store.moved account available change).mapError ofStore = .error error) :
    error.isRefusal = true := by
  obtain ⟨other, h, same⟩ := mapError_eq_error.1 h
  rw [Store.moved] at h
  split at h
  · obtain rfl := Except.error.inj h
    rw [← same]
    rfl
  · split at h
    · obtain rfl := Except.error.inj h
      rw [← same]
      rfl
    · cases h

/-- That there is no such amount is a refusal. -/
theorem isRefusal_of_amount {α : Type} {x : Except AmountError α} {error : LedgerError}
    (h : x.mapError ofAmount = .error error) : error.isRefusal = true := by
  obtain ⟨other, -, rfl⟩ := mapError_eq_error.1 h
  rfl

end LedgerError

/-- That the funds do not suffice is a refusal. -/
theorem Adjustment.isRefusal_of_delta {order : Adjustment} {direction : Direction}
    {available : Balance} {error : LedgerError}
    (h : order.delta direction available = .error error) : error.isRefusal = true := by
  cases direction with
  | deposit =>
    rcases bind_eq_error.1 h with h | ⟨_, -, h⟩
    · exact LedgerError.isRefusal_of_amount h
    · cases h
  | withdraw =>
    rw [delta] at h
    split at h
    · cases h
    · cases h
      rfl

/-- That what an account holds does not allow an adjustment is a refusal. -/
theorem Adjustment.isRefusal_of_evaluate {order : Adjustment} {direction : Direction}
    {amounts : Account → Int} {error : LedgerError}
    (h : order.evaluate direction amounts = .error error) : error.isRefusal = true := by
  rcases bind_eq_error.1 h with h | ⟨_, -, h⟩
  · exact LedgerError.isRefusal_of_amount h
  rcases bind_eq_error.1 h with h | ⟨_, -, h⟩
  · exact isRefusal_of_delta h
  rcases bind_eq_error.1 h with h | ⟨_, -, h⟩
  · exact LedgerError.isRefusal_of_moved h
  · cases h

/-- That the source does not hold enough is a refusal. -/
theorem Transfer.isRefusal_of_checkFunds {order : Transfer} {available : Int}
    {error : LedgerError} (h : order.checkFunds available = .error error) :
    error.isRefusal = true := by
  rcases bind_eq_error.1 h with h | ⟨balance, -, h⟩
  · exact LedgerError.isRefusal_of_amount h
  · split at h
    · cases h
    · cases h
      rfl

/-- That an amount cannot be converted, or converts to nothing, is a refusal. -/
theorem Transfer.isRefusal_of_convert {order : Transfer} {rates : Rates} {error : LedgerError}
    (h : order.convert rates = .error error) : error.isRefusal = true := by
  rcases bind_eq_error.1 h with h | ⟨conversion, -, h⟩
  · obtain ⟨other, -, rfl⟩ := mapError_eq_error.1 h
    cases other <;> rfl
  · split at h
    · cases h
      rfl
    · cases h

/-- That what the accounts hold, or the rates, do not allow a transfer is a refusal. -/
theorem Transfer.isRefusal_of_evaluate {order : Transfer} {rates : Rates}
    {amounts : Account → Int} {error : LedgerError}
    (h : order.evaluate rates amounts = .error error) : error.isRefusal = true := by
  rcases bind_eq_error.1 h with h | ⟨_, -, h⟩
  · exact isRefusal_of_checkFunds h
  rcases bind_eq_error.1 h with h | ⟨_, -, h⟩
  · exact LedgerError.isRefusal_of_moved h
  rcases bind_eq_error.1 h with h | ⟨_, -, h⟩
  · exact isRefusal_of_convert h
  rcases bind_eq_error.1 h with h | ⟨_, -, h⟩
  · exact LedgerError.isRefusal_of_moved h
  · cases h

namespace Order

variable {order : Order} {amounts : Account → Int} {receipt : Receipt} {completion : Completion}

/-- If an order comes to nothing, the amounts or the rates do not allow it. -/
theorem isRefusal_of_evaluate {error : LedgerError} (h : order.evaluate amounts = .error error) :
    error.isRefusal = true := by
  cases order with
  | adjust direction order => exact Adjustment.isRefusal_of_evaluate (map_eq_error.1 h)
  | move rates order => exact Transfer.isRefusal_of_evaluate (map_eq_error.1 h)

/-- That the amounts or the rates do not allow an order is the fault of the request. -/
theorem isClientError_of_evaluate {error : LedgerError} (h : order.evaluate amounts = .error error) :
    error.isClientError = true :=
  LedgerError.isClientError_of_isRefusal (isRefusal_of_evaluate h)

/-! ## Balances and postings -/

/-- An order writes about its own accounts only. -/
theorem account_mem_of_mem_postings {p : Posting}
    (mem : p ∈ order.postings receipt completion) : p.account ∈ order.accounts := by
  cases order with
  | adjust direction order =>
    obtain rfl := List.mem_singleton.1 mem
    exact List.mem_singleton_self _
  | move rates order =>
    cases receipt with
    | adjusted receipt => cases mem
    | moved receipt =>
      simp only [postings, List.mem_cons, List.not_mem_nil, or_false] at mem
      rcases mem with rfl | rfl | rfl <;>
        simp [accounts, Transfer.outgoingPosting, Transfer.incomingPosting, Transfer.recordPosting]

/-- An order gives balances to its own accounts only. -/
theorem mem_accounts_of_get?_balances {account : Account} {value : Int}
    (h : (order.balances receipt).get? account = some value) : account ∈ order.accounts := by
  cases order with
  | adjust direction order =>
    cases receipt with
    | moved receipt => simp [balances] at h
    | adjusted receipt =>
      rw [balances, Table.get?_insert] at h
      split at h
      case isTrue here => exact List.mem_singleton.2 here
      case isFalse => simp at h
  | move rates order =>
    cases receipt with
    | adjusted receipt => simp [balances] at h
    | moved receipt =>
      rw [balances, Table.get?_insert, Table.get?_insert] at h
      split at h
      case isTrue here => exact List.mem_cons_of_mem _ (List.mem_singleton.2 here)
      case isFalse =>
        split at h
        case isTrue here => exact List.mem_cons.2 (Or.inl here)
        case isFalse => simp at h

/-- An account that is moved gets a balance that is not negative and can be counted. -/
structure Updated (balance available change : Int) : Prop where
  /-- The new balance is the sum. -/
  sum : balance = available + change
  /-- It is not negative. -/
  nonneg : 0 ≤ balance
  /-- It can be counted. -/
  le_max : balance ≤ Decimal.maxInt64

/-- What an account is moved to is its old amount and the change. -/
theorem Updated.of_moved {account : Account} {available change balance : Int}
    (h : Store.moved account available change = .ok balance) : Updated balance available change := by
  obtain ⟨sum, nonneg, counted⟩ := Store.moved_eq_ok h
  exact ⟨sum, nonneg, (Decimal.isInt64_iff.1 counted).2⟩

/-- Every account of an order that moves money between two accounts, or one, gets its old amount and
what the postings of the order add to it. -/
theorem get?_balances (straight : order.isCircular = false)
    (evaluated : order.evaluate amounts = .ok receipt) {account : Account}
    (mem : account ∈ order.accounts) (completion : Completion) :
    ∃ balance, (order.balances receipt).get? account = some balance ∧
      Updated balance (amounts account)
        (Posting.total account (order.postings receipt completion)) := by
  cases order with
  | adjust direction order =>
    obtain ⟨adjusted, single, rfl⟩ := map_eq_ok.1 evaluated
    obtain ⟨-, moved⟩ := Adjustment.evaluate_eq_ok single
    obtain rfl := List.mem_singleton.1 mem
    refine ⟨adjusted.balance, Table.get?_insert_self _ _ _, ?_⟩
    -- The one posting counts for the one account.
    have total : Posting.total order.account
        ((Order.adjust direction order).postings (.adjusted adjusted) completion) =
          direction.entry.signed order.amount.minor := by
      simp [postings, Posting.total_cons, Posting.signed]
    rw [total]
    exact .of_moved moved
  | move rates order =>
    obtain ⟨receipt, both, rfl⟩ := map_eq_ok.1 evaluated
    obtain ⟨-, -, debit, credit⟩ := Transfer.evaluate_eq_ok both
    -- Each side of a transfer counts for its account, and the record for none.
    have different : order.source ≠ order.target := of_decide_eq_false straight
    rw [accounts, List.mem_cons, List.mem_singleton] at mem
    rcases mem with rfl | rfl
    · refine ⟨receipt.sourceBalance, ?_, ?_⟩
      · rw [balances, Table.get?_insert_of_ne _ _ different, Table.get?_insert_self]
      · have total : Posting.total order.source
            ((Order.move rates order).postings (.moved receipt) completion) =
              -order.amount.minor := by
          simp [postings, Posting.total_cons, Posting.signed, Transfer.outgoingPosting,
            Transfer.incomingPosting, Transfer.recordPosting, EntryKind.signed, different.symm]
        rw [total]
        exact .of_moved debit
    · refine ⟨receipt.targetBalance, Table.get?_insert_self _ _ _, ?_⟩
      have total : Posting.total order.target
          ((Order.move rates order).postings (.moved receipt) completion) =
            receipt.conversion.converted := by
        simp [postings, Posting.total_cons, Posting.signed, Transfer.outgoingPosting,
          Transfer.incomingPosting, Transfer.recordPosting, EntryKind.signed, different]
      rw [total]
      exact .of_moved credit

end Order

end CurrencyLedger
