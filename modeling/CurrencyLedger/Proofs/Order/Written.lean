import CurrencyLedger.Proofs.Order.Legible

/-! # What orders have written

The entries of an order stand together, and tell what was done: one of them keeps a completion whose
outcome is the receipt, and the receipt agrees with the entries.

* **`Entry.Tells`** — what an entry says, apart from what it keeps;
* **`Adjustment.Written`**, **`Transfer.Written`**, **`Order.Written`** — the entries of an order,
  after entries that were there before;
* **`Order.Ready.written`** — a draft that is ready is about to publish such entries. -/

namespace CurrencyLedger

/-- What an entry tells, apart from what it keeps. -/
structure Entry.Tells (entry : Entry) (kind : EntryKind) (account : Account) (amount : Int)
    (reference : String) : Prop where
  /-- What it is about. -/
  kind : entry.kind = kind
  /-- Whose account it moves. -/
  account : entry.account = account
  /-- How far. -/
  amount : entry.amount = amount
  /-- Under which name it can be found. -/
  reference : entry.reference = some reference

/-- An entry tells what its posting did. -/
theorem Entry.Tells.of_toPosting {entry : Entry} {posting : Posting} {reference : String}
    (same : entry.toPosting = posting) (named : posting.reference = some reference) :
    entry.Tells posting.kind posting.account posting.amount reference := by
  subst same
  exact ⟨rfl, rfl, rfl, named⟩

/-- The entry of a deposit or a withdrawal, after entries that were there before. -/
structure Adjustment.Written (order : Adjustment) (direction : Direction) (before : List Entry)
    (entry : Entry) : Prop where
  /-- The entry tells what was ordered. -/
  told : entry.Tells direction.entry order.account order.amount.minor order.reference
  /-- It keeps a completion of its kind. Its outcome is a receipt that repeats the entry and tells
  what the entries of the account add up to so far. -/
  kept : ∃ completion receipt, Completion.ofEntry order.reference entry = .ok completion ∧
    completion.kind = direction.operation ∧ completion.fingerprint = order.fingerprint ∧
    completion.outcomeAs Receipt.ofJson? order.reference = .ok receipt ∧
    receipt.reference = order.reference ∧ receipt.account = entry.account ∧
    receipt.amount = entry.amount ∧
    receipt.balance = Entry.total entry.account (before ++ [entry])

/-- The entries of a transfer, after entries that were there before. -/
structure Transfer.Written (order : Transfer) (before : List Entry)
    (outgoing incoming record : Entry) : Prop where
  /-- The first entry tells what was taken from the source. -/
  debit : outgoing.Tells .transferOut order.source order.amount.minor (order.reference ++ "-out")
  /-- The second one tells what was given to the target. -/
  credit : ∃ converted,
    incoming.Tells .transferIn order.target converted (order.reference ++ "-in")
  /-- The third one moves nothing. -/
  keeper : record.Tells .record order.source 0 order.reference
  /-- The first two keep no completion. -/
  sides : ∀ reference, Completion.ofEntry reference outgoing = .error (.taken reference) ∧
    Completion.ofEntry reference incoming = .error (.taken reference)
  /-- The third one keeps the completion of a transfer. Its outcome is a receipt that repeats the
  entries and tells what the entries of both accounts add up to so far. -/
  kept : ∃ completion receipt, Completion.ofEntry order.reference record = .ok completion ∧
    completion.kind = .transfer ∧ completion.fingerprint = order.fingerprint ∧
    completion.outcomeAs Receipt.ofJson? order.reference = .ok receipt ∧
    receipt.reference = order.reference ∧ receipt.source = order.source.wallet ∧
    receipt.target = order.target.wallet ∧ receipt.debited = outgoing.amount ∧
    receipt.credited = incoming.amount ∧
    (order.source.currency = order.target.currency → receipt.credited = receipt.debited) ∧
    receipt.sourceBalance = Entry.total order.source (before ++ [outgoing, incoming, record]) ∧
    receipt.targetBalance = Entry.total order.target (before ++ [outgoing, incoming, record])

/-- The entries of an order, after entries that were there before. -/
def Order.Written (before : List Entry) : Order → List Entry → Prop
  | .adjust direction order, [entry] => order.Written direction before entry
  | .move _ order, [outgoing, incoming, record] => order.Written before outgoing incoming record
  | _, _ => False

/-- What is given is what was taken, if no currency is changed. -/
theorem Transfer.converted_eq {order : Transfer} {rates : Rates} {conversion : Conversion}
    (h : order.convert rates = .ok conversion)
    (same : order.source.currency = order.target.currency) :
    conversion.converted = conversion.amount := by
  obtain ⟨found, converts, rest⟩ := bind_eq_ok.1 h
  have exact := mapError_eq_ok.1 converts
  rw [Rates.convert, if_pos same] at exact
  obtain rfl := Except.ok.inj exact
  split at rest
  case isTrue => cases rest
  case isFalse => cases rest; rfl

/-- What is taken is the amount of the order. -/
theorem Transfer.amount_eq {order : Transfer} {rates : Rates} {conversion : Conversion}
    (h : order.convert rates = .ok conversion) : conversion.amount = order.amount.minor := by
  obtain ⟨found, converts, rest⟩ := bind_eq_ok.1 h
  have exact := mapError_eq_ok.1 converts
  have repeats : found.amount = order.amount.minor := by
    rw [Rates.convert] at exact
    split at exact
    case isTrue => cases exact; rfl
    case isFalse =>
      split at exact
      case h_1 => cases exact
      case h_2 =>
        split at exact
        case h_1 => cases exact
        case h_2 =>
          split at exact
          case h_1 => cases exact
          case h_2 => cases exact; rfl
  split at rest
  case isTrue => cases rest
  case isFalse => cases rest; exact repeats

namespace Order

variable {t : TransactionId} {e : Surroundings t} {s : Store} {order : Order} {context : Context}
  {receipt : Receipt}

/-- A draft that is ready is about to publish the entries of its order. -/
theorem Ready.written (ready : order.Ready e context receipt s) (straight : order.isCircular = false)
    (known : ∀ account, s.amount account = Entry.total account s.entries)
    (countable : order.Countable) (user : ∀ n ∈ context.user, Decimal.isInt64 n = true)
    (years : ∀ now, e.shows now → Instant.isYear (Instant.civil now.day).year = true) :
    order.Written s.entries (s.transaction t).entries := by
  obtain ⟨recorded, shows, drafted⟩ := ready.drafted
  have posted := drafted.posted
  have read := readOutcome_canonical countable ready.evaluated 3
  -- Every account gets what its entries add up to with those of the order.
  have balances {account : Account} (mem : account ∈ order.accounts) :
      (order.balances receipt).get? account =
        some (Entry.total account (s.entries ++ (s.transaction t).entries)) := by
    obtain ⟨balance, given, sum, -⟩ := get?_balances straight ready.evaluated mem
      (order.completion receipt context recorded)
    rw [given, sum, known, Entry.total_append, Entry.total_eq account (s.transaction t).entries,
      posted]
  generalize (s.transaction t).entries = written at posted balances
  cases order with
  | adjust direction order =>
    obtain ⟨receipt, single, rfl⟩ := map_eq_ok.1 ready.evaluated
    obtain ⟨entry, rfl, same⟩ := List.map_eq_singleton_iff.1 posted
    obtain ⟨eq, -⟩ := Adjustment.evaluate_eq_ok single
    obtain ⟨receipt', outcome, is⟩ := Option.map_eq_some_iff.1 read
    obtain rfl := Receipt.adjusted.inj is
    have account : entry.account = order.account := congrArg Posting.account same
    have balance := balances (List.mem_singleton_self order.account)
    rw [Order.balances, Table.get?_insert_self] at balance
    refine ⟨.of_toPosting same rfl, _, receipt',
      ofEntry_completion order.reference (congrArg Posting.metadata same) user
        (years recorded shows), rfl, rfl, ?_, ?_, ?_, ?_, ?_⟩
    · rw [Completion.outcomeAs, outcome]
    · rw [eq]
    · rw [eq, account]
    · rw [eq]
      exact (congrArg Posting.amount same).symm
    · rw [account]
      exact Option.some.inj balance
  | move rates order =>
    obtain ⟨receipt, both, rfl⟩ := map_eq_ok.1 ready.evaluated
    obtain ⟨outgoing, rest, rfl, debit, posted⟩ := List.map_eq_cons_iff.1 posted
    obtain ⟨incoming, rest, rfl, credit, posted⟩ := List.map_eq_cons_iff.1 posted
    obtain ⟨record, rfl, same⟩ := List.map_eq_singleton_iff.1 posted
    obtain ⟨eq, converts, -⟩ := Transfer.evaluate_eq_ok both
    obtain ⟨receipt', outcome, is⟩ := Option.map_eq_some_iff.1 read
    obtain rfl := Receipt.moved.inj is
    have different : order.source ≠ order.target := of_decide_eq_false straight
    have source := balances (List.mem_cons_self (a := order.source) (l := [order.target]))
    have target :=
      balances (List.mem_cons_of_mem order.source (List.mem_singleton_self order.target))
    rw [Order.balances, Table.get?_insert_of_ne _ _ different, Table.get?_insert_self] at source
    rw [Order.balances, Table.get?_insert_self] at target
    have amount := Transfer.amount_eq converts
    refine ⟨.of_toPosting debit rfl, ⟨_, .of_toPosting credit rfl⟩, .of_toPosting same rfl,
      fun reference => ⟨taken_of_sideMetadata reference (congrArg Posting.metadata debit),
        taken_of_sideMetadata reference (congrArg Posting.metadata credit)⟩, _, receipt',
      ofEntry_completion order.reference (congrArg Posting.metadata same) user
        (years recorded shows), rfl, rfl, ?_, ?_, ?_, ?_, ?_, ?_, ?_, ?_, ?_⟩
    · rw [Completion.outcomeAs, outcome]
    · rw [eq]
    · rw [eq]
    · rw [eq]
    · exact amount.trans (congrArg Posting.amount debit).symm
    · exact (congrArg Posting.amount credit).symm
    · exact Transfer.converted_eq converts
    · exact Option.some.inj source
    · exact Option.some.inj target

end Order

end CurrencyLedger
