import CurrencyLedger.Proofs.Order.Decision
import CurrencyLedger.Proofs.World.Decided
import CurrencyLedger.Proofs.World.Stages

/-! # One transfer at a time

While nothing else is under way, what a transfer is answered is decided by what is published and by
the rates, and one thing decides it: the first that is in its way. A transfer that nothing is in the
way of moves its two accounts and writes three entries. Any other changes nothing.

* **`Transfer.Decided`** — what a transfer is answered, with a constructor for each thing that may
  decide it;
* **`Transfer.Enters`** — what a transfer changes about the books;
* **`World.decides_transfer`** — in every world that can be reached and where nothing is under way,
  every transfer is decided so. -/

namespace CurrencyLedger

namespace Transfer

variable {order : Transfer} {rates : Rates} {context : Context} {s s' : Store}
  {result : Except LedgerError (Processed Receipt)}

/-- What a transfer that is alone is answered. Each constructor says that nothing before it
applies. -/
inductive Decided (order : Transfer) (rates : Rates) (s : Store) :
    Except LedgerError (Processed Receipt) → Prop where
  /-- It would give to the account that it takes from. -/
  | circular (same : order.source = order.target) : Decided order rates s (.error .invalidTarget)
  /-- The entry under its reference keeps a receipt for it. -/
  | replayed (entry : Entry) (receipt : Receipt) (different : order.source ≠ order.target)
      (found : Store.findEntry s.entries order.reference = some entry)
      (reads : (Order.move rates order).receiptIn entry = .ok (.moved receipt)) :
      Decided order rates s (.ok ⟨receipt, true⟩)
  /-- The entry under its reference keeps none. -/
  | conflicting (entry : Entry) (error : LedgerError) (different : order.source ≠ order.target)
      (found : Store.findEntry s.entries order.reference = some entry)
      (reads : (Order.move rates order).receiptIn entry = .error error) :
      Decided order rates s (.error (.idempotencyConflict order.reference))
  /-- The reference of a side is in use, the first one if both are. -/
  | claimed (side : String) (different : order.source ≠ order.target)
      (free : Store.findEntry s.entries order.reference = none)
      (first : [order.outgoing, order.incoming].find?
        (fun r => (Store.findEntry s.entries r).isSome) = some side) :
      Decided order rates s (.error (.idempotencyConflict side))
  /-- An account belongs to no wallet, the lesser one if both do not. -/
  | homeless (account : Account) (different : order.source ≠ order.target)
      (unused : ∀ r ∈ [order.reference, order.outgoing, order.incoming],
        Store.findEntry s.entries r = none)
      (mem : account ∈ [order.source, order.target])
      (unowned : s.hasWallet account.wallet = false)
      (least : ∀ other ∈ [order.source, order.target], s.hasWallet other.wallet = false →
        (compare account other).isLE = true) :
      Decided order rates s (.error (.walletNotFound account.wallet))
  /-- The amounts and the rates are in its way, or nothing is. -/
  | weighed (weighed : Except LedgerError Receipt) (different : order.source ≠ order.target)
      (unused : ∀ r ∈ [order.reference, order.outgoing, order.incoming],
        Store.findEntry s.entries r = none)
      (housed : ∀ account ∈ [order.source, order.target], s.hasWallet account.wallet = true)
      (weighs : order.Weighed rates s.amount weighed) :
      Decided order rates s (weighed.map fun receipt => ⟨receipt, false⟩)

/-- What a transfer that is published changes about the books. -/
structure Enters (order : Transfer) (receipt : Receipt) (s s' : Store) : Prop where
  /-- The source gives the amount of the transfer, the target gets what it was converted to, and no
  other account is moved. -/
  balances : s'.balances =
    (s.balances.insert order.source (s.amount order.source - order.amount.minor)).insert
      order.target (s.amount order.target + receipt.conversion.converted)
  /-- Three entries are written after those that are there. -/
  entries : ∃ outgoing incoming record, s'.entries = s.entries ++ [outgoing, incoming, record] ∧
    outgoing.Tells .transferOut order.source order.amount.minor order.outgoing ∧
    incoming.Tells .transferIn order.target receipt.conversion.converted order.incoming ∧
    record.Tells .record order.source 0 order.reference
  /-- Their references are in use. -/
  references :
    s'.references = [order.outgoing, order.incoming, order.reference] ++ s.references
  /-- No wallet is made. -/
  wallets : s'.wallets = s.wallets
  /-- So the next one has the number that it had. -/
  nextWallet : s'.nextWallet = s.nextWallet

/-- Another name for receipts keeps them apart. -/
theorem map_moved_eq_ok {receipt : Receipt} {replayed : Bool} :
    result.map (fun p => (⟨.moved p.receipt, p.replayed⟩ : Processed Order.Receipt)) =
      .ok ⟨.moved receipt, replayed⟩ ↔ result = .ok ⟨receipt, replayed⟩ :=
  Order.named_eq_ok fun _ _ same => Order.Receipt.moved.inj same

/-- What decides an order decides a transfer, where balances can be counted and entries can be
read. -/
theorem decided_of_order (fair : s.Fair) (decided : (Order.move rates order).Decided s
      (result.map fun p => ⟨.moved p.receipt, p.replayed⟩)) : order.Decided rates s result := by
  -- The two answers are the same but for the name of the receipt, so they fail with one error.
  generalize answer : result.map (fun p => (⟨.moved p.receipt, p.replayed⟩ :
    Processed Order.Receipt)) = answered at decided
  have different (straight : (Order.move rates order).isCircular = false) :
      order.source ≠ order.target := of_decide_eq_false straight
  cases decided with
  | circular circular =>
    rw [map_eq_error.1 answer]
    exact .circular (of_decide_eq_true circular)
  | recalled entry straight found =>
    cases reads : (Order.move rates order).receiptIn entry with
    | error error =>
      have legible := fair.legible entry (Store.mem_of_findEntry_eq_some found).1
      rw [reads, legible.conflict reads] at answer
      rw [map_eq_error.1 answer]
      exact .conflicting entry error (different straight) found reads
    | ok receipt =>
      rw [reads] at answer
      obtain ⟨⟨moved, replayed⟩, rfl, same⟩ := map_eq_ok.1 answer
      cases same
      exact .replayed entry moved (different straight) found reads
  | claimed side straight free first =>
    rw [map_eq_error.1 answer]
    exact .claimed side (different straight) free first
  | homeless account straight unused least =>
    obtain ⟨mem, unowned, least⟩ := Order.least_of_homeless? least
    rw [map_eq_error.1 answer]
    exact .homeless account (different straight) unused mem unowned least
  | evaluated straight unused housed =>
    have weighs : order.Weighed rates s.amount (order.evaluate rates s.amount) :=
      weighed fair.nonneg fair.le_max
    have same : result = (order.evaluate rates s.amount).map fun receipt => ⟨receipt, false⟩ := by
      rw [Order.evaluate] at answer
      cases evaluated : order.evaluate rates s.amount with
      | error error =>
        rw [evaluated] at answer
        exact map_eq_error.1 answer
      | ok receipt =>
        rw [evaluated] at answer
        exact map_moved_eq_ok.1 answer
    rw [same]
    exact .weighed _ (different straight) unused (Order.homeless?_eq_none.1 housed) weighs

/-- What is entered for an order is entered for a transfer. -/
theorem enters_of_order {receipt : Receipt}
    (enters : (Order.move rates order).Enters context (.moved receipt) s s') :
    order.Enters receipt s s' := by
  obtain ⟨_, both, same⟩ := map_eq_ok.1 enters.evaluated
  cases same
  obtain ⟨-, -, debit, credit⟩ := evaluate_eq_ok both
  -- What the receipt tells about the balances is what the accounts held, moved.
  obtain ⟨debited, -⟩ := Store.moved_eq_ok debit
  obtain ⟨credited, -⟩ := Store.moved_eq_ok credit
  refine ⟨?_, ?_, enters.references, enters.wallets, enters.nextWallet⟩
  · apply Table.ext_get?
    intro account
    rw [enters.balances, Order.balances, debited, credited, Int.sub_eq_add_neg]
    simp only [Table.get?_insert]
    split
    · rfl
    · split
      · rfl
      · simp
  · obtain ⟨recorded, written, entries, posted⟩ := enters.entries
    obtain ⟨outgoing, rest, rfl, debit, posted⟩ := List.map_eq_cons_iff.1 posted
    obtain ⟨incoming, rest, rfl, credit, posted⟩ := List.map_eq_cons_iff.1 posted
    obtain ⟨record, rfl, keeper⟩ := List.map_eq_singleton_iff.1 posted
    exact ⟨outgoing, incoming, record, entries, .of_toPosting debit rfl, .of_toPosting credit rfl,
      .of_toPosting keeper rfl⟩

/-- A transfer is carried out as an order, but for the name of its receipt. -/
theorem run_interpret_attempt {m : Type → Type} [Monad m] [LawfulMonad m] (h : Script.Handlers m) :
    ((Order.move rates order).attempt context).run.interpret h =
      Except.map (fun p => ⟨.moved p.receipt, p.replayed⟩) <$>
        (order.attempt rates context).run.interpret h :=
  Order.run_interpret_map h _ _

end Transfer

namespace World

/-- Whatever tasks have done before, if nothing is under way then a transfer is decided by what is
published and by its rates. If it gets a receipt that was not there before, its two accounts are
moved, three entries are written, and that is all; otherwise nothing is changed. Either way nothing
is under way afterwards. -/
theorem decides_transfer (actions : List Action) (order : Transfer) (rates : Rates)
    (context : Context) (clock : Nat → Instant) (ticks : Nat)
    (dated : ∀ a ∈ actions, ∀ now ∈ a.time?, Datable now) (countable : (run actions).Countable)
    (idle : ∀ t, (run actions).store.live.get? t = none) :
    let before := (run actions).store
    let done := ((order.attempt rates context).run.interpret (Serial.handlers clock)).run
      ⟨before, ticks⟩
    order.Decided rates before done.1 ∧
    (∀ receipt, done.1 = .ok ⟨receipt, false⟩ → order.Enters receipt before done.2.store) ∧
    ((∀ receipt, done.1 ≠ .ok ⟨receipt, false⟩) → done.2.store.books = before.books) ∧
    ∀ t, done.2.store.live.get? t = none := by
  intro before done
  have fair : before.Fair := fair_run dated countable
  have carried : (((Order.move rates order).attempt context).run.interpret
      (Serial.handlers clock)).run ⟨before, ticks⟩ =
        (done.1.map fun p => ⟨.moved p.receipt, p.replayed⟩, done.2) := by
    rw [Transfer.run_interpret_attempt, StateT.run_map]
    rfl
  have settled := Order.decided_of_idle (.move rates order) context clock ticks
    (sane_run actions).sound idle
  rw [carried] at settled
  obtain ⟨decided, leaves, calm⟩ := settled
  refine ⟨Transfer.decided_of_order fair decided, fun receipt fresh => ?_, fun silent => ?_, calm⟩
  · exact Transfer.enters_of_order (leaves.fresh _ (Transfer.map_moved_eq_ok.2 fresh))
  · refine leaves.silent fun receipt fresh => ?_
    obtain ⟨⟨moved, replayed⟩, is, same⟩ := map_eq_ok.1 fresh
    cases same
    exact silent moved is

namespace Sample

/-- An order to move thirty-five more from the first wallet to the second. -/
def further : Transfer := ⟨dollars 1, dollars 2, ⟨35, by decide, by decide⟩, "rest"⟩

/-- An order to move as much from a wallet that does not exist to another one. -/
def astray : Transfer := ⟨dollars 8, dollars 7, ⟨35, by decide, by decide⟩, "lost"⟩

/-- What becomes of a transfer after the sample run. -/
def later (order : Transfer) : Except LedgerError (Processed Transfer.Receipt) × Serial :=
  ((order.attempt .empty {}).run.interpret (Serial.handlers fun _ => .ofMillis 9)).run
    ⟨(run overlapping).store, 0⟩

end Sample

/-- After the sample run thirty-five more can be moved, and five are left. Of two wallets that do not
exist the lesser one is missed, although it would only receive, and nothing is changed. -/
theorem decides_transfer_overlapping :
    (∃ receipt, (Sample.later Sample.further).1 = .ok ⟨receipt, false⟩ ∧
      (Sample.later Sample.further).2.store.balances =
        ((run Sample.overlapping).store.balances.insert (Sample.dollars 1) 5).insert
          (Sample.dollars 2) (60 + receipt.conversion.converted)) ∧
    (Sample.later Sample.astray).1 = .error (.walletNotFound ⟨7⟩) ∧
    (Sample.later Sample.astray).2.store.books = (run Sample.overlapping).store.books := by
  have quiet : (run Sample.overlapping).store.live.rows = [] := by decide +kernel
  have idle (t : TransactionId) : (run Sample.overlapping).store.live.get? t = none := by
    rw [Table.get?, quiet]
    rfl
  have decides (order : Transfer) :
      (∀ receipt, (Sample.later order).1 = .ok ⟨receipt, false⟩ →
        order.Enters receipt (run Sample.overlapping).store (Sample.later order).2.store) ∧
      ((∀ receipt, (Sample.later order).1 ≠ .ok ⟨receipt, false⟩) →
        (Sample.later order).2.store.books = (run Sample.overlapping).store.books) := by
    obtain ⟨-, enters, silent, -⟩ := decides_transfer Sample.overlapping order .empty {}
      (fun _ => .ofMillis 9) 0 Sample.datable_overlapping Sample.countable_overlapping idle
    exact ⟨enters, silent⟩
  constructor
  · have first : (run Sample.overlapping).store.amount (Sample.dollars 1) = 40 := by decide +kernel
    have second : (run Sample.overlapping).store.amount (Sample.dollars 2) = 60 := by decide +kernel
    have moved : (Sample.later Sample.further).1.map (·.replayed) = .ok false := by decide +kernel
    obtain ⟨⟨receipt, _⟩, answer, rfl⟩ := map_eq_ok.1 moved
    have balances := ((decides Sample.further).1 receipt answer).balances
    rw [show Sample.further.source = Sample.dollars 1 from rfl,
      show Sample.further.target = Sample.dollars 2 from rfl, first, second] at balances
    exact ⟨receipt, answer, balances⟩
  · have refused : (Sample.later Sample.astray).1 = .error (.walletNotFound ⟨7⟩) := by
      decide +kernel
    refine ⟨refused, (decides Sample.astray).2 fun receipt fresh => ?_⟩
    cases refused.symm.trans fresh

end World

end CurrencyLedger
