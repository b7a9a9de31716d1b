import CurrencyLedger.Proofs.Amount
import CurrencyLedger.Proofs.Codec.Records
import CurrencyLedger.Proofs.Order.Attempt

/-! # Receipts that are kept

What an order leaves behind under its reference tells every later attempt of the same request the
receipt of the first one.

* **`Order.readOutcome_canonical`** — what an order comes to can be read back;
* **`Order.Recorded`** — an entry under the reference of an order keeps a receipt;
* **`Order.Ready.recorded`** — so it does once a draft that was ready is published;
* **`Order.Finds.ensures_run`** — an attempt that finds an entry under its reference repeats what
  the entry tells, asks for no lock, and makes three calls at most. -/

namespace CurrencyLedger

/-! ## Numbers of receipts -/

/-- A decimal made of digits and a scale is no zero with a minus sign. -/
theorem Decimal.minusZero_of_mk?_eq_some {coefficient : Int} {scale : Nat} {d : Decimal}
    (h : mk? coefficient scale = some d) : d.minusZero = false := by
  rw [mk?] at h
  split at h
  case isTrue => cases h; rfl
  case isFalse => cases h

/-- A product is no zero with a minus sign. -/
theorem Decimal.minusZero_of_mul?_eq_some {a b d : Decimal} (h : a.mul? b = some d) :
    d.minusZero = false := by
  rw [mul?] at h
  split at h
  case isTrue => cases h; rfl
  case isFalse =>
    obtain ⟨⟨magnitude, scale⟩, -, h⟩ := Option.bind_eq_some_iff.1 h
    exact minusZero_of_mk?_eq_some h

/-- A positive decimal is no zero with a minus sign. -/
theorem Decimal.minusZero_of_isPositive {d : Decimal} (positive : d.isPositive = true) :
    d.minusZero = false := by
  rw [isPositive, decide_eq_true_eq] at positive
  cases sign : d.minusZero with
  | false => rfl
  | true =>
    have zero := d.coefficient_of_minusZero sign
    omega

/-- The whole part of a decimal that can be counted is a number of 64 bits. -/
theorem Decimal.isInt64_of_toInt64?_eq_some {d : Decimal} {n : Int} (h : d.toInt64? = some n) :
    isInt64 n = true := by
  rw [toInt64?] at h
  split at h
  case isTrue small => cases h; exact small
  case isFalse => cases h

/-- A conversion of an amount that can be counted is countable. -/
theorem Conversion.countable_of_convert {rates : Rates} {amount : Int} {source target : Currency}
    {conversion : Conversion} (small : Decimal.isInt64 amount = true)
    (h : rates.convert amount source target = .ok conversion) : conversion.Countable := by
  rw [Rates.convert] at h
  split at h
  case isTrue =>
    cases h
    exact ⟨small, nofun, rfl, small, rfl⟩
  case isFalse =>
    split at h
    case h_1 => cases h
    case h_2 rate rated =>
      split at h
      case h_1 => cases h
      case h_2 exact product =>
        split at h
        case h_1 => cases h
        case h_2 converted whole =>
          cases h
          obtain ⟨row, -, same⟩ := Option.map_eq_some_iff.1 rated
          refine ⟨small, ?_, Decimal.minusZero_of_mul?_eq_some product,
            Decimal.isInt64_of_toInt64?_eq_some whole, rfl⟩
          rintro _ ⟨⟩
          exact same ▸ Decimal.minusZero_of_isPositive row.positive

namespace Order

open Operation (Progress)

variable {t : TransactionId} {e : Surroundings t} {trail : Trail} {s s' : Store}
  {order other : Order} {context : Context} {receipt : Receipt}

/-- Whether the wallets of an order have numbers of 64 bits. -/
def Countable (order : Order) : Prop :=
  ∀ account ∈ order.accounts, Decimal.isInt64 account.wallet.value = true

/-- The outcome that an order reads. -/
def readOutcome : Order → Json → Option Receipt
  | .adjust .. => fun j => (Adjustment.Receipt.ofJson? j).map .adjusted
  | .move .. => fun j => (Transfer.Receipt.ofJson? j).map .moved

/-- What an order comes to can be read back, however often it was brought into canonical form. -/
theorem readOutcome_canonical {amounts : Account → Int} (countable : order.Countable)
    (evaluated : order.evaluate amounts = .ok receipt) (k : Nat) :
    order.readOutcome (Json.canonical^[k] receipt.toJson) = some receipt := by
  cases order with
  | adjust direction order =>
    obtain ⟨receipt, single, rfl⟩ := map_eq_ok.1 evaluated
    obtain ⟨eq, moved⟩ := Adjustment.evaluate_eq_ok single
    have wallet := countable order.account (List.mem_singleton_self _)
    have balance := (Store.moved_eq_ok moved).2.2
    have whole : receipt.Countable := by
      rw [eq]
      exact ⟨wallet, order.amount.isInt64_minor, balance⟩
    exact congrArg (Option.map Receipt.adjusted) (Adjustment.Receipt.ofJson?_canonical k whole)
  | move rates order =>
    obtain ⟨receipt, both, rfl⟩ := map_eq_ok.1 evaluated
    obtain ⟨eq, converts, debit, credit⟩ := Transfer.evaluate_eq_ok both
    have source := countable order.source List.mem_cons_self
    have target := countable order.target (List.mem_cons_of_mem _ (List.mem_singleton_self _))
    have conversion : receipt.conversion.Countable := by
      obtain ⟨found, converted, rest⟩ := bind_eq_ok.1 converts
      have exact := Conversion.countable_of_convert order.amount.isInt64_minor
        (mapError_eq_ok.1 converted)
      split at rest
      case isTrue => cases rest
      case isFalse => cases rest; exact exact
    have whole : receipt.Countable := by
      rw [eq]
      exact ⟨source, target, conversion, (Store.moved_eq_ok debit).2.2,
        (Store.moved_eq_ok credit).2.2⟩
    exact congrArg (Option.map Receipt.moved) (Transfer.Receipt.ofJson?_canonical k whole)

/-- What an order comes to holds nothing unreadable. -/
theorem Receipt.isReadable_toJson (receipt : Receipt) : receipt.toJson.isReadable = true := by
  cases receipt with
  | adjusted receipt => rfl
  | moved receipt =>
    cases rate : receipt.conversion.rate <;>
      simp [Receipt.toJson, Transfer.Receipt.toJson, Transfer.Receipt.members, Conversion.toJson,
        Json.isReadable, Json.membersReadable, WalletId.toJson, Currency.toJson, Json.ofDecimal,
        Json.ofOption, rate]

/-! ## Receipts that are kept -/

/-- The receipt that an entry keeps is the outcome of the completion of the same request. -/
theorem receiptIn_eq_ok {entry : Entry} {completion : Completion}
    (kept : Completion.ofEntry order.reference entry = .ok completion)
    (kind : completion.kind = order.kind) (fingerprint : completion.fingerprint = order.fingerprint)
    (read : order.readOutcome completion.outcome = some receipt) :
    order.receiptIn entry = .ok receipt := by
  -- It is of the same kind and has the same fingerprint, so it is accepted.
  have verified : completion.verify order.reference order.kind order.fingerprint = .ok () := by
    rw [Completion.verify, if_neg (not_not.2 kind), if_neg (not_not.2 fingerprint)]
  have accepted : Completion.accepted order.reference order.kind order.fingerprint entry =
      .ok completion := by
    rw [Completion.accepted, kept]
    simp only [Except.mapError, bind, Except.bind, verified]
    rfl
  rw [receiptIn, accepted]
  cases order with
  | adjust direction order =>
    obtain ⟨receipt, outcome, rfl⟩ := Option.map_eq_some_iff.1 read
    simp only [bind, Except.bind, Completion.outcomeAs, outcome]
    rfl
  | move rates order =>
    obtain ⟨receipt, outcome, rfl⟩ := Option.map_eq_some_iff.1 read
    simp only [bind, Except.bind, Completion.outcomeAs, outcome]
    rfl

/-- An entry with the completion of an order carries it under whatever reference it is found. Its
outcome was brought into canonical form by the order, with the metadata, and when it was read. -/
theorem ofEntry_completion {entry : Entry} {recorded : Instant} (reference : String)
    (metadata : entry.metadata = some (order.completion receipt context recorded).toMetadata)
    (user : ∀ n ∈ context.user, Decimal.isInt64 n = true)
    (year : Instant.isYear (Instant.civil recorded.day).year = true) :
    Completion.ofEntry reference entry = .ok
      { order.completion receipt context recorded with
        outcome := Json.canonical^[3] receipt.toJson } := by
  have readable := Json.isReadable_canonical _ receipt.isReadable_toJson
  have carried := Completion.ofMetadata_toMetadata
    (c := order.completion receipt context recorded) reference readable user year
  rw [Completion.ofEntry, metadata, carried]
  rfl

/-- An entry with the completion of an order keeps its receipt. -/
theorem receiptIn_of_metadata {entry : Entry} {amounts : Account → Int} {recorded : Instant}
    (metadata : entry.metadata = some (order.completion receipt context recorded).toMetadata)
    (countable : order.Countable) (user : ∀ n ∈ context.user, Decimal.isInt64 n = true)
    (year : Instant.isYear (Instant.civil recorded.day).year = true)
    (evaluated : order.evaluate amounts = .ok receipt) : order.receiptIn entry = .ok receipt :=
  receiptIn_eq_ok (ofEntry_completion _ metadata user year) rfl rfl
    (readOutcome_canonical countable evaluated 3)

/-- An entry under the reference of an order keeps a receipt. -/
def Recorded (order : Order) (receipt : Receipt) (s : Store) : Prop :=
  ∃ entry, Store.findEntry s.entries order.reference = some entry ∧ order.receiptIn entry = .ok receipt

/-- What is kept stays kept. -/
theorem Recorded.of_prefix (recorded : order.Recorded receipt s) (more : s.entries <+: s'.entries) :
    order.Recorded receipt s' := by
  obtain ⟨entry, found, reads⟩ := recorded
  exact ⟨entry, Store.findEntry_eq_some_of_prefix more found, reads⟩

/-- What is kept is kept for every attempt of the request. -/
theorem Recorded.of_sameRequest (recorded : order.Recorded receipt s)
    (same : order.SameRequest other) : other.Recorded receipt s := by
  obtain ⟨entry, found, reads⟩ := recorded
  exact ⟨entry, same.reference_eq ▸ found, (same.receiptIn_eq entry).trans reads⟩

/-- One of the postings of an order carries its reference and its completion. -/
theorem exists_posting {amounts : Account → Int} (evaluated : order.evaluate amounts = .ok receipt)
    (completion : Completion) : ∃ p ∈ order.postings receipt completion,
      p.reference = some order.reference ∧ p.metadata = some completion.toMetadata := by
  cases order with
  | adjust direction order => exact ⟨_, List.mem_singleton_self _, rfl, rfl⟩
  | move rates order =>
    obtain ⟨receipt, -, rfl⟩ := map_eq_ok.1 evaluated
    exact ⟨order.recordPosting completion,
      List.mem_cons_of_mem _ (List.mem_cons_of_mem _ (List.mem_singleton_self _)), rfl, rfl⟩

/-- Publishing a draft that is ready keeps its receipt. -/
theorem Ready.recorded (ready : order.Ready e context receipt s) (sound : s.Sound)
    (free : ∀ reference ∈ s.ownReferences t, reference ∉ s.references)
    (countable : order.Countable) (user : ∀ n ∈ context.user, Decimal.isInt64 n = true)
    (years : ∀ now, e.shows now → Instant.isYear (Instant.civil now.day).year = true) :
    order.Recorded receipt (s.publish t) := by
  obtain ⟨recorded, shows, drafted⟩ := ready.drafted
  obtain ⟨p, mem, reference, metadata⟩ := exists_posting ready.evaluated
    (order.completion receipt context recorded)
  rw [← drafted.posted] at mem
  obtain ⟨entry, written, rfl⟩ := List.mem_map.1 mem
  have published : entry ∈ (s.publish t).entries := List.mem_append_right _ written
  exact ⟨entry, (sound.publish free).distinct.findEntry_eq published reference,
    receiptIn_of_metadata metadata countable user (years recorded shows) ready.evaluated⟩

/-! ## Attempts that repeat an answer -/

/-- The entry under the reference of an order tells it an answer. -/
def Finds (order : Order) (answer : Except LedgerError Receipt) (s : Store) : Prop :=
  ∃ entry, Store.findEntry s.entries order.reference = some entry ∧ order.receiptIn entry = answer

/-- What an order is told by an entry it is told as long as the entry is there. -/
theorem Finds.of_prefix {answer : Except LedgerError Receipt}
    (finds : order.Finds answer s) (more : s.entries <+: s'.entries) :
    order.Finds answer s' := by
  obtain ⟨entry, found, reads⟩ := finds
  exact ⟨entry, Store.findEntry_eq_some_of_prefix more found, reads⟩

/-- What an attempt may ask that only repeats an answer, in fewer calls than a limit. -/
def Repeats (order : Order) (limit : Nat) (trail : Trail) (c : Call) (_ : Store) : Prop :=
  trail.calls.length < limit ∧ (c = .begin ∨ c = .find order.reference ∨ c = .rollback)

/-- An answer that was kept, as the caller gets it. -/
def replay (answer : Except LedgerError Receipt) : Except LedgerError (Processed Receipt) :=
  answer.map fun receipt => ⟨receipt, true⟩

variable {answer : Except LedgerError Receipt}

/-- Work that finds an entry under its reference comes to what the entry tells. -/
theorem Finds.ensures_recall {α : Type} {inj : α → Receipt} {limit : Nat}
    {read : Json → Option α} {work : Operation (Progress α)}
    (finds : order.Finds answer s) (begun : s.transaction t = {})
    (few : trail.calls.length < limit)
    (reads : ∀ entry, order.receiptIn entry = do
      let completion ← Completion.accepted order.reference order.kind order.fingerprint entry
      ((completion.outcomeAs read order.reference).mapError LedgerError.ofCompletion).map inj) :
    (ExceptT.run do
      match ← Operation.findCompleted order.reference order.kind order.fingerprint with
      | some completion =>
        let receipt ← Operation.ofExcept
          ((completion.outcomeAs read order.reference).mapError LedgerError.ofCompletion)
        pure (.replayed receipt)
      | none => work).Ensures e (order.Repeats limit) (fun result trail' _ =>
        result.map (·.map inj) = answer.map Progress.replayed ∧
        trail'.calls.length = trail.calls.length + 1) trail s := by
  -- The entry is still the first one of its reference when it is looked for.
  obtain ⟨kept, there, keeps⟩ := finds
  refine Operation.ensures_recall (fun _ _ => ⟨few, Or.inr (Or.inl rfl)⟩) begun
    (fun s₁ between₁ begun₁ missed => ?_) fun s₁ entry between₁ begun₁ found => ⟨?_, rfl⟩
  · have found := Store.findEntry_eq_some_of_prefix (e.rely between₁).entries there
    rw [missed] at found
    cases found
  · have again := Store.findEntry_eq_some_of_prefix (e.rely between₁).entries there
    obtain rfl := Option.some.inj (again.symm.trans found)
    rw [Operation.map_recalled, ← reads, keeps]

/-- Closing the transaction after work that repeats an answer repeats it. -/
theorem closes_of_replayed {α : Type} {inj : α → Receipt} {limit : Nat}
    {mark : Transfer.Stage → Trail → Trail} {result : Except LedgerError (Progress α)}
    (silent : ∀ stage trail, (mark stage trail).calls = trail.calls)
    (replayed : result.map (·.map inj) = answer.map Progress.replayed)
    (few : trail.calls.length < limit) :
    Operation.Closes e (order.Repeats limit) mark
      (fun result _ _ => result.map (fun p => (⟨inj p.receipt, p.replayed⟩ : Processed Receipt)) =
        replay answer) result trail s := by
  intro s₁ between
  rcases answer with error | receipt <;> rcases result with error' | kept | fresh
  · obtain rfl : error' = error := Except.error.inj replayed
    refine ⟨⟨?_, Or.inr (Or.inr rfl)⟩, rfl⟩
    rw [silent]
    exact few
  · cases replayed
  · cases replayed
  · cases replayed
  · have same : inj kept = receipt := Progress.replayed.inj (Except.ok.inj replayed)
    refine ⟨⟨few, Or.inr (Or.inr rfl)⟩, ?_⟩
    rw [← same]
    rfl
  · cases replayed

/-- A transaction around work that finds an entry under its reference repeats what the entry tells,
in three calls. -/
theorem Finds.ensures_inTransaction {α : Type} {inj : α → Receipt} {limit : Nat}
    {read : Json → Option α} {work : Operation (Progress α)}
    {reach : Transfer.Stage → Script Unit} (mark : Transfer.Stage → Trail → Trail)
    (silent : ∀ stage trail, (mark stage trail).calls = trail.calls)
    (marks : ∀ stage {Q : Unit → Trail → Store → Prop} {trail s}, Q () (mark stage trail) s →
      (reach stage).Ensures e (order.Repeats limit) Q trail s)
    (finds : order.Finds answer s) (few : trail.calls.length + 3 ≤ limit)
    (reads : ∀ entry, order.receiptIn entry = do
      let completion ← Completion.accepted order.reference order.kind order.fingerprint entry
      ((completion.outcomeAs read order.reference).mapError LedgerError.ofCompletion).map inj) :
    (Operation.inTransaction reach do
      match ← Operation.findCompleted order.reference order.kind order.fingerprint with
      | some completion =>
        let receipt ← Operation.ofExcept
          ((completion.outcomeAs read order.reference).mapError LedgerError.ofCompletion)
        pure (.replayed receipt)
      | none => work).run.Ensures e (order.Repeats limit)
        (fun result _ _ => result.map (fun p => (⟨inj p.receipt, p.replayed⟩ : Processed Receipt)) =
          replay answer) trail s := by
  refine Operation.ensures_inTransaction mark marks fun s₁ between => ?_
  have kept : order.Finds answer (s₁.begin t) := finds.of_prefix (e.rely between).entries
  have begun : (s₁.begin t).transaction t = {} := Store.transaction_update_self s₁ t {}
  have one : (trail.add .begin (.ok ()) s₁).calls.length = trail.calls.length + 1 := rfl
  refine ⟨⟨by omega, Or.inl rfl⟩, (kept.ensures_recall begun (by omega) reads).mono
    (fun _ _ _ => id) fun result trail₂ s₂ recalled => ?_⟩
  exact closes_of_replayed silent recalled.1 (by rw [recalled.2]; omega)

/-- An attempt that finds an entry under its reference repeats what the entry tells, in three
calls. -/
theorem Finds.ensures_attempt {limit : Nat} (finds : order.Finds answer s)
    (straight : order.isCircular = false) (few : trail.calls.length + 3 ≤ limit) :
    (order.attempt context).run.Ensures e (order.Repeats limit)
      (fun result _ _ => result = replay answer) trail s := by
  cases order with
  | adjust direction order =>
    exact Operation.ensures_map (finds.ensures_inTransaction (fun _ trail => trail)
      (fun _ _ => rfl) (fun _ {_ _ _} => id) few fun entry => rfl)
  | move rates order =>
    have different : order.source ≠ order.target := of_decide_eq_false straight
    refine Operation.ensures_map ?_
    rw [Transfer.attempt, if_neg different]
    exact finds.ensures_inTransaction (fun stage trail => trail.reach stage)
      (fun _ _ => rfl) (fun _ {_ _ _} => id) few fun entry => rfl

/-- However often an order may be attempted that finds an entry under its reference, the first
attempt repeats what the entry tells, unless that is worth another attempt. -/
theorem Finds.ensures_run {limit : Nat} (policy : Retry.Policy)
    (finds : order.Finds answer s) (settled : Retry.isRetryable answer = false)
    (straight : order.isCircular = false) (few : trail.calls.length + 3 ≤ limit) :
    (policy.run Script.pause (order.attempt context).run).Ensures e (order.Repeats limit)
      (fun result _ _ => result = replay answer) trail s := by
  have first : (order.attempt context).run.Ensures e (order.Repeats limit)
      (fun result _ _ => result = replay answer) trail s :=
    finds.ensures_attempt straight few
  rw [Retry.Policy.run]
  cases max 1 policy.maxAttempts - 1 with
  | zero => exact first
  | succ more =>
    refine Script.ensures_bind.2 (first.mono (fun _ _ _ => id) fun result trail₁ s₁ repeated => ?_)
    subst repeated
    cases answer with
    | error error =>
      have last : Retry.isRetryable (replay (.error error)) = false := settled
      rw [last]
      rfl
    | ok receipt => rfl

end Order

end CurrencyLedger
