import CurrencyLedger.Proofs.World.Decided
import CurrencyLedger.Proofs.World.Balanced

/-! # One deposit or withdrawal at a time

While nothing else is under way, a deposit or a withdrawal under a reference that is not in use is
decided by what its account holds: a deposit by what can be counted, a withdrawal by what is there.
One that succeeds moves its account and writes one entry. Any other leaves no trace, not even the
empty balance that is made for an account that has none.

* **`Adjustment.settle`**, **`Adjustment.answer`** — what an adjustment comes to;
* **`Adjustment.evaluate_eq`** — the checks of balances and of the store agree on it;
* **`Adjustment.Enters`** — what an adjustment changes about the books;
* **`World.decides_adjustment`** — in every world that can be reached and where nothing is under way,
  every adjustment under a new reference is answered so. -/

namespace CurrencyLedger

namespace Adjustment

variable {order : Adjustment} {direction : Direction} {context : Context} {s s' : Store}
  {result : Except LedgerError (Processed Receipt)}

/-- What an adjustment comes to if its account belongs to a wallet and holds so much. -/
def settle (order : Adjustment) (held : Int) : Direction → Except LedgerError Receipt
  | .deposit =>
    if held + order.amount.minor ≤ Decimal.maxInt64 then
      .ok ⟨order.reference, order.account, order.amount.minor, held + order.amount.minor⟩
    else .error (.ofAmount .overflow)
  | .withdraw =>
    if order.amount.minor ≤ held then
      .ok ⟨order.reference, order.account, order.amount.minor, held - order.amount.minor⟩
    else .error (.insufficientFunds order.account order.amount.minor held)

/-- What an adjustment is answered that is alone and has a new reference. -/
def answer (order : Adjustment) (direction : Direction) (s : Store) : Except LedgerError Receipt :=
  if s.hasWallet order.account.wallet then order.settle (s.amount order.account) direction
  else .error (.walletNotFound order.account.wallet)

/-- What an adjustment that is published changes about the books. -/
structure Enters (order : Adjustment) (direction : Direction) (receipt : Receipt) (s s' : Store) :
    Prop where
  /-- Its account gets the balance of the receipt, and no other account is moved. -/
  balances : s'.balances = s.balances.insert order.account receipt.balance
  /-- One entry is written after those that are there. -/
  entries : ∃ entry, s'.entries = s.entries ++ [entry] ∧
    entry.Tells direction.entry order.account order.amount.minor order.reference
  /-- Its reference is in use. -/
  references : s'.references = order.reference :: s.references
  /-- No wallet is made. -/
  wallets : s'.wallets = s.wallets
  /-- So the next one has the number that it had. -/
  nextWallet : s'.nextWallet = s.nextWallet

/-- A balance can be credited if the sum can be counted. -/
theorem credit_eq {held : Int} (nonneg : 0 ≤ held) (amount : Amount) :
    (Balance.mk held).credit amount =
      if held + amount.minor ≤ Decimal.maxInt64 then .ok ⟨held + amount.minor⟩
      else .error .overflow := by
  have positive := amount.positive
  have low : 0 ≤ held + amount.minor := by omega
  rw [Balance.credit, Decimal.isInt64_of_nonneg low, Balance.ofMinor, if_neg (Int.not_lt.2 low)]
  simp only [decide_eq_true_eq]

/-- What an account that can be counted holds decides about an adjustment: what its balance allows,
the store allows. -/
theorem evaluate_eq {amounts : Account → Int} (nonneg : 0 ≤ amounts order.account)
    (le_max : amounts order.account ≤ Decimal.maxInt64) :
    order.evaluate direction amounts = order.settle (amounts order.account) direction := by
  have positive := order.amount.positive
  rw [evaluate, Balance.ofMinor, if_neg (Int.not_lt.2 nonneg)]
  cases direction with
  | deposit =>
    -- The balance and the store both ask whether the sum can be counted.
    have moved := Store.moved_add order.account nonneg positive
    by_cases fits : amounts order.account + order.amount.minor ≤ Decimal.maxInt64
    · rw [if_pos fits] at moved
      simp only [delta, credit_eq nonneg, moved, settle, if_pos fits, Except.mapError, bind,
        Except.bind, pure, Except.pure]
    · simp only [delta, credit_eq nonneg, settle, if_neg fits, Except.mapError, bind, Except.bind]
  | withdraw =>
    by_cases covered : order.amount.minor ≤ amounts order.account
    · -- What the balance covers, the store can take away.
      have moved := Store.moved_sub order.account positive covered le_max
      simp only [delta, Balance.covers, decide_eq_true covered, if_true, moved, settle,
        if_pos covered, Except.mapError, bind, Except.bind, pure, Except.pure]
    · simp only [delta, Balance.covers, decide_eq_false covered, Bool.false_eq_true, if_false,
        settle, if_neg covered, Except.mapError, bind, Except.bind]
      rfl

/-- What decides an order decides an adjustment whose reference is new. -/
theorem answer_of_order (balanced : s.Balanced)
    (free : ∀ entry ∈ s.entries, entry.reference ≠ some order.reference)
    (decided : (Order.adjust direction order).Decided s
      (result.map fun p => ⟨.adjusted p.receipt, p.replayed⟩)) :
    result = (order.answer direction s).map fun receipt => ⟨receipt, false⟩ := by
  -- The two answers are the same but for the name of the receipt, so they fail with one error.
  generalize answered : result.map (fun p => (⟨.adjusted p.receipt, p.replayed⟩ :
    Processed Order.Receipt)) = other at decided
  have absent : Store.findEntry s.entries order.reference = none := Store.findEntry_eq_none.2 free
  cases decided with
  | circular circular => cases circular
  | recalled entry straight found => cases absent.symm.trans found
  | claimed side straight free first => cases first
  | homeless account straight unused least =>
    obtain ⟨mem, unowned, -⟩ := Order.least_of_homeless? least
    obtain rfl := List.mem_singleton.1 mem
    rw [map_eq_error.1 answered, answer, unowned, if_neg Bool.false_ne_true]
    rfl
  | evaluated straight unused housed =>
    have owned : s.hasWallet order.account.wallet = true :=
      Order.homeless?_eq_none.1 housed order.account (List.mem_singleton_self _)
    obtain ⟨nonneg, le_max⟩ := balanced.amount_bounds order.account
    rw [Order.evaluate, evaluate_eq nonneg le_max] at answered
    rw [answer, if_pos owned]
    cases settled : order.settle (s.amount order.account) direction with
    | error error =>
      rw [settled] at answered
      exact map_eq_error.1 answered
    | ok receipt =>
      rw [settled] at answered
      exact (Order.named_eq_ok fun _ _ same => Order.Receipt.adjusted.inj same).1 answered

/-- What is entered for an order is entered for an adjustment. -/
theorem enters_of_order {receipt : Receipt}
    (enters : (Order.adjust direction order).Enters context (.adjusted receipt) s s') :
    order.Enters direction receipt s s' := by
  refine ⟨?_, ?_, enters.references, enters.wallets, enters.nextWallet⟩
  · apply Table.ext_get?
    intro account
    rw [enters.balances, Order.balances, Table.get?_insert, Table.get?_insert]
    split
    · rfl
    · rw [Table.get?_empty, Option.none_or]
  · obtain ⟨recorded, written, entries, posted⟩ := enters.entries
    obtain ⟨entry, rfl, same⟩ := List.map_eq_singleton_iff.1 posted
    exact ⟨entry, entries, .of_toPosting same rfl⟩

end Adjustment

namespace World

/-- Whatever tasks have done before, if nothing is under way then a deposit or a withdrawal under a
new reference is answered by what its account holds. If it succeeds its account is moved to the
balance of the receipt and one entry is written, and that is all; otherwise nothing is changed.
Either way nothing is under way afterwards. -/
theorem decides_adjustment (actions : List Action) (direction : Direction) (order : Adjustment)
    (context : Context) (clock : Nat → Instant) (ticks : Nat)
    (idle : ∀ t, (run actions).store.live.get? t = none)
    (free : ∀ entry ∈ (run actions).store.entries, entry.reference ≠ some order.reference) :
    let before := (run actions).store
    let done := ((order.attempt direction context).run.interpret (Serial.handlers clock)).run
      ⟨before, ticks⟩
    done.1 = (order.answer direction before).map (fun receipt => ⟨receipt, false⟩) ∧
    (∀ receipt, order.answer direction before = .ok receipt →
      order.Enters direction receipt before done.2.store) ∧
    (∀ error, order.answer direction before = .error error → done.2.store.books = before.books) ∧
    ∀ t, done.2.store.live.get? t = none := by
  intro before done
  have apart : Function.Injective Order.Receipt.adjusted := fun _ _ => Order.Receipt.adjusted.inj
  have named : (Order.adjust direction order).attempt context =
      (fun p => ⟨.adjusted p.receipt, p.replayed⟩) <$> order.attempt direction context := rfl
  obtain ⟨decided, enters, silent, calm⟩ :=
    Order.decided_of_named apart named clock ticks (sane_run actions).sound idle
  have answered := Adjustment.answer_of_order (balanced_run actions) free decided
  refine ⟨answered, fun receipt granted => ?_, fun error refused => ?_, calm⟩
  · refine Adjustment.enters_of_order (enters receipt ?_)
    rw [answered, granted]
    rfl
  · refine silent fun receipt fresh => ?_
    rw [answered, refused] at fresh
    cases fresh

namespace Sample

/-- What becomes of an adjustment after the sample run. -/
def adjusted (direction : Direction) (order : Adjustment) :
    Except LedgerError (Processed Adjustment.Receipt) × Serial :=
  ((order.attempt direction {}).run.interpret (Serial.handlers fun _ => .ofMillis 9)).run
    ⟨(run overlapping).store, 0⟩

/-- An order about some of the dollars of a wallet, under a reference of its own. -/
def extra (wallet : Int) (amount : Amount) : Adjustment := ⟨dollars wallet, amount, "extra"⟩

/-- An order about five hundred yen of the second wallet, which has had none. -/
def yen : Adjustment := ⟨⟨⟨2⟩, ⟨"JPY", by decide⟩⟩, ⟨500, by decide, by decide⟩, "yen"⟩

end Sample

/-- After the sample run the first wallet has forty dollars left, which can be withdrawn, and not one
more. Yen that come into the second wallet are its first; they cannot be taken out before, and no
empty balance is left behind then. Nothing comes into a wallet that does not exist. -/
theorem decides_adjustment_overlapping :
    (Sample.adjusted .withdraw (Sample.extra 1 ⟨40, by decide, by decide⟩)).1 =
      .ok ⟨⟨"extra", Sample.dollars 1, 40, 0⟩, false⟩ ∧
    (Sample.adjusted .withdraw (Sample.extra 1 ⟨41, by decide, by decide⟩)).1 =
      .error (.insufficientFunds (Sample.dollars 1) 41 40) ∧
    (Sample.adjusted .deposit Sample.yen).2.store.balances =
      (run Sample.overlapping).store.balances.insert Sample.yen.account 500 ∧
    (Sample.adjusted .withdraw Sample.yen).2.store.books = (run Sample.overlapping).store.books ∧
    (Sample.adjusted .deposit (Sample.extra 8 ⟨1, by decide, by decide⟩)).1 =
      .error (.walletNotFound ⟨8⟩) := by
  have quiet : (run Sample.overlapping).store.live.rows = [] := by decide +kernel
  have idle (t : TransactionId) : (run Sample.overlapping).store.live.get? t = none := by
    rw [Table.get?, quiet]
    rfl
  have others : ∀ entry ∈ (run Sample.overlapping).store.entries,
      entry.reference ≠ some "extra" ∧ entry.reference ≠ some "yen" := by
    decide +kernel
  have decides (direction : Direction) (order : Adjustment)
      (free : ∀ entry ∈ (run Sample.overlapping).store.entries,
        entry.reference ≠ some order.reference) :
      (Sample.adjusted direction order).1 =
        (order.answer direction (run Sample.overlapping).store).map (⟨·, false⟩) ∧
      (∀ receipt, order.answer direction (run Sample.overlapping).store = .ok receipt →
        order.Enters direction receipt (run Sample.overlapping).store
          (Sample.adjusted direction order).2.store) ∧
      ∀ error, order.answer direction (run Sample.overlapping).store = .error error →
        (Sample.adjusted direction order).2.store.books = (run Sample.overlapping).store.books := by
    obtain ⟨answered, enters, silent, -⟩ := decides_adjustment Sample.overlapping direction order {}
      (fun _ => .ofMillis 9) 0 idle free
    rw [Sample.adjusted]
    exact ⟨answered, enters, silent⟩
  have extra (direction : Direction) (wallet : Int) (amount : Amount) :=
    decides direction (Sample.extra wallet amount) fun entry mem => (others entry mem).1
  have yen (direction : Direction) :=
    decides direction Sample.yen fun entry mem => (others entry mem).2
  refine ⟨(extra _ _ _).1.trans ?_, (extra _ _ _).1.trans ?_, ?_, ?_, (extra _ _ _).1.trans ?_⟩
  · decide +kernel
  · decide +kernel
  · have granted : Sample.yen.answer .deposit (run Sample.overlapping).store =
        .ok ⟨"yen", Sample.yen.account, 500, 500⟩ := by
      decide +kernel
    exact ((yen .deposit).2.1 _ granted).balances
  · have refused : Sample.yen.answer .withdraw (run Sample.overlapping).store =
        .error (.insufficientFunds Sample.yen.account 500 0) := by
      decide +kernel
    exact (yen .withdraw).2.2 _ refused
  · decide +kernel

end World

end CurrencyLedger
