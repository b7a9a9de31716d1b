import CurrencyLedger.Proofs.Order.Recall

/-! # Entries that can be read

An order that finds an entry under its reference is told the receipt that the entry keeps, or that
the reference belongs to another request. It can never be that the entry keeps something that cannot
be read, for whatever an order leaves behind is legible to every other order, of whichever kind.

* **`Entry.Legible`** — an entry tells a receipt, or that the request is at fault;
* **`Order.legible_of_completion`** — an entry with the completion of an order is legible;
* **`Order.legible_of_mem_postings`**, **`Order.Ready.legible`** — so is everything else that an
  order leaves behind. -/

namespace CurrencyLedger

namespace Completion

variable {completion : Completion} {reference : String} {kind : OperationKind}
  {fingerprint : Fingerprint}

/-- A completion is that of a request if its kind and its fingerprint are. -/
theorem verify_eq_ok (h : completion.verify reference kind fingerprint = .ok ()) :
    completion.kind = kind ∧ completion.fingerprint = fingerprint := by
  rw [verify] at h
  split at h
  · cases h
  · split at h
    · cases h
    · exact ⟨not_not.1 ‹_›, not_not.1 ‹_›⟩

/-- That a completion is that of another request is the fault of the request. -/
theorem isClientError_of_verify {error : CompletionError}
    (h : completion.verify reference kind fingerprint = .error error) :
    (LedgerError.ofCompletion error).isClientError = true := by
  rw [verify] at h
  split at h
  · obtain rfl := Except.error.inj h
    rfl
  · split at h
    · obtain rfl := Except.error.inj h
      rfl
    · cases h

end Completion

/-- Whether an entry tells every order that finds it a receipt, or that the request is at fault. -/
def Entry.Legible (entry : Entry) : Prop :=
  ∀ (order : Order) (error : LedgerError), order.receiptIn entry = .error error →
    error.isClientError = true

namespace Order

variable {order : Order} {context : Context} {receipt : Receipt} {entry : Entry}

/-- Orders of one kind read outcomes in one way. -/
theorem readOutcome_congr {a b : Order} (same : a.kind = b.kind) :
    a.readOutcome = b.readOutcome := by
  cases a with
  | adjust direction order =>
    cases b with
    | adjust => rfl
    | move => cases direction <;> cases same
  | move rates order =>
    cases b with
    | adjust direction => cases direction <;> cases same
    | move => rfl

/-- An entry without a completion is legible. -/
theorem legible_of_taken (taken : ∀ reference, Completion.ofEntry reference entry =
    .error (.taken reference)) : entry.Legible := by
  intro order error h
  rw [receiptIn, Completion.accepted, taken] at h
  cases h
  rfl

/-- The entry of one side of a transfer keeps no completion. -/
theorem taken_of_sideMetadata {order : Transfer} {counterparty : WalletId} (reference : String)
    (metadata : entry.metadata = some (order.sideMetadata counterparty)) :
    Completion.ofEntry reference entry = .error (.taken reference) := by
  have unmarked : ((order.sideMetadata counterparty).get? "fingerprint").isNone = true := by
    rw [Transfer.sideMetadata, Json.canonical, Json.get?, Json.lookup_canonicalMembers (by simp)]
    simp [Json.lookup_cons]
  rw [Completion.ofEntry, metadata, Completion.ofMetadata, unmarked]
  rfl

/-- An entry with the completion of an order is legible. -/
theorem legible_of_completion {amounts : Account → Int} {recorded : Instant}
    (metadata : entry.metadata = some (order.completion receipt context recorded).toMetadata)
    (countable : order.Countable) (user : ∀ n ∈ context.user, Decimal.isInt64 n = true)
    (year : Instant.isYear (Instant.civil recorded.day).year = true)
    (evaluated : order.evaluate amounts = .ok receipt) : entry.Legible := by
  intro other error h
  have kept := ofEntry_completion other.reference metadata user year
  cases verified : Completion.verify { order.completion receipt context recorded with
      outcome := Json.canonical^[3] receipt.toJson } other.reference other.kind
      other.fingerprint with
  | error mismatch =>
    rw [receiptIn, Completion.accepted, kept] at h
    simp only [Except.mapError, bind, Except.bind, verified] at h
    cases h
    exact Completion.isClientError_of_verify verified
  | ok _ =>
    -- It is the completion of the same request, so its outcome is that of an order of one kind.
    obtain ⟨kind, fingerprint⟩ := Completion.verify_eq_ok verified
    have read := readOutcome_canonical countable evaluated 3
    rw [readOutcome_congr kind] at read
    rw [receiptIn_eq_ok kept kind fingerprint read] at h
    cases h

/-- Whatever an order leaves behind is legible. -/
theorem legible_of_mem_postings {amounts : Account → Int} {recorded : Instant}
    (mem : entry.toPosting ∈ order.postings receipt (order.completion receipt context recorded))
    (countable : order.Countable) (user : ∀ n ∈ context.user, Decimal.isInt64 n = true)
    (year : Instant.isYear (Instant.civil recorded.day).year = true)
    (evaluated : order.evaluate amounts = .ok receipt) : entry.Legible := by
  cases order with
  | adjust direction order =>
    have same := List.mem_singleton.1 mem
    exact legible_of_completion (congrArg Posting.metadata same) countable user year evaluated
  | move rates order =>
    obtain ⟨moved, -, rfl⟩ := map_eq_ok.1 evaluated
    rcases List.mem_cons.1 mem with same | mem
    · exact legible_of_taken fun reference =>
        taken_of_sideMetadata reference (congrArg Posting.metadata same)
    rcases List.mem_cons.1 mem with same | mem
    · exact legible_of_taken fun reference =>
        taken_of_sideMetadata reference (congrArg Posting.metadata same)
    · have same := List.mem_singleton.1 mem
      exact legible_of_completion (congrArg Posting.metadata same) countable user year evaluated

/-- An order that is ready leaves legible entries behind. -/
theorem Ready.legible {t : TransactionId} {e : Surroundings t} {s : Store}
    (ready : order.Ready e context receipt s) (legible : ∀ entry ∈ s.entries, entry.Legible)
    (countable : order.Countable) (user : ∀ n ∈ context.user, Decimal.isInt64 n = true)
    (years : ∀ now, e.shows now → Instant.isYear (Instant.civil now.day).year = true) :
    ∀ entry ∈ (s.publish t).entries, entry.Legible := by
  obtain ⟨recorded, shows, drafted⟩ := ready.drafted
  intro entry mem
  rcases List.mem_append.1 mem with mem | mem
  · exact legible entry mem
  · refine legible_of_mem_postings ?_ countable user (years recorded shows) ready.evaluated
    rw [← drafted.posted]
    exact List.mem_map_of_mem mem

end Order

end CurrencyLedger
