import CurrencyLedger.Proofs.Conversion
import CurrencyLedger.Proofs.Order.Legible

/-! # The stages of transfers

An attempt of a transfer tells its stages one after another. How far it has come when it is given up
says what was in its way: a reference, a lock or a wallet, the balance of the source, the rates, or
another order under the same reference.

* **`Transfer.Stage.chain`**, **`Transfer.Stage.fails`** — the stages before the end, and the errors
  by the stage after which an attempt is given up;
* **`Store.Fair`** — balances can be counted, and entries can be read;
* **`Transfer.Goes`** — all ways of an attempt, by the call that ends its transaction;
* **`Transfer.Follows`**, **`Transfer.Goes.follows`** — on each of them stages, result and what is
  published belong together;
* **`Transfer.Tries`**, **`Transfer.ensures_run`** — so they do in each of several attempts. -/

namespace CurrencyLedger

/-- Balances that can be counted, and entries that can be read. -/
structure Store.Fair (s : Store) : Prop where
  /-- No account holds less than nothing. -/
  nonneg : ∀ account, 0 ≤ s.amount account
  /-- No account holds more than can be counted. -/
  le_max : ∀ account, s.amount account ≤ Decimal.maxInt64
  /-- Every entry can be read. -/
  legible : ∀ entry ∈ s.entries, entry.Legible

/-- The reference that gives no outcome to repeat. -/
def CompletionError.reference : CompletionError → String
  | .unreadable reference | .taken reference | .kindMismatch reference _ _
  | .fingerprintMismatch reference => reference

namespace Completion

variable {reference : String} {error : CompletionError}

/-- That an entry keeps no completion is told of the reference that it was found under. -/
theorem reference_of_ofEntry {entry : Entry} (h : ofEntry reference entry = .error error) :
    error.reference = reference := by
  unfold ofEntry ofMetadata at h
  split at h
  · cases h
    rfl
  · split at h
    · cases h
      rfl
    · split at h
      · cases h
      · cases h
        rfl

/-- So is it that a completion is that of another request. -/
theorem reference_of_verify {c : Completion} {kind : OperationKind} {fingerprint : Fingerprint}
    (h : c.verify reference kind fingerprint = .error error) : error.reference = reference := by
  rw [verify] at h
  split at h
  · cases h
    rfl
  · split at h
    · cases h
      rfl
    · cases h

/-- So is it that an outcome cannot be read. -/
theorem reference_of_outcomeAs {α : Type} {c : Completion} {read : Json → Option α}
    (h : c.outcomeAs read reference = .error error) : error.reference = reference := by
  rw [outcomeAs] at h
  split at h
  · cases h
  · cases h
    rfl

end Completion

/-- The error of an order that cannot make use of an entry is one of completions, about the reference
of the order. -/
theorem Order.receiptIn_eq_error {order : Order} {entry : Entry} {error : LedgerError}
    (h : order.receiptIn entry = .error error) :
    ∃ other, error = .ofCompletion other ∧ other.reference = order.reference := by
  have lifted {α : Type} {x : Except CompletionError α}
      (about : ∀ other, x = .error other → other.reference = order.reference)
      (h : x.mapError LedgerError.ofCompletion = .error error) :
      ∃ other, error = .ofCompletion other ∧ other.reference = order.reference := by
    obtain ⟨other, refused, rfl⟩ := mapError_eq_error.1 h
    exact ⟨other, rfl, about other refused⟩
  rcases bind_eq_error.1 h with h | ⟨completion, -, h⟩
  · rcases bind_eq_error.1 h with h | ⟨found, -, h⟩
    · exact lifted (fun _ => Completion.reference_of_ofEntry) h
    · rcases bind_eq_error.1 h with h | ⟨_, -, h⟩
      · exact lifted (fun _ => Completion.reference_of_verify) h
      · cases h
  · cases order with
    | adjust direction order =>
      exact lifted (fun _ => Completion.reference_of_outcomeAs) (map_eq_error.1 h)
    | move rates order =>
      exact lifted (fun _ => Completion.reference_of_outcomeAs) (map_eq_error.1 h)

/-- An entry that can be read tells an order a receipt, or that its reference is in use. -/
theorem Entry.Legible.conflict {order : Order} {entry : Entry} {error : LedgerError}
    (legible : entry.Legible) (h : order.receiptIn entry = .error error) :
    error = .idempotencyConflict order.reference := by
  have client := legible order error h
  obtain ⟨other, rfl, about⟩ := Order.receiptIn_eq_error h
  cases other with
  | unreadable reference => cases client
  | taken reference => exact congrArg LedgerError.idempotencyConflict about
  | kindMismatch reference => exact congrArg LedgerError.idempotencyConflict about
  | fingerprintMismatch reference => exact congrArg LedgerError.idempotencyConflict about

namespace Transfer

open Operation (Progress)

/-- The stages of a transfer before its end, in order. -/
def Stage.chain : List Stage :=
  [.idempotencyChecked, .balancesLocked, .validated, .mutated, .ledgerWritten]

/-- Whether a transfer may be given up after a stage with an error. -/
def Stage.fails : Stage → LedgerError → Bool
  | .started, .idempotencyConflict _ => true
  | .idempotencyChecked, .walletNotFound _ => true
  | .idempotencyChecked, .storageConflict _ => true
  | .balancesLocked, .insufficientFunds .. => true
  | .validated, .unsupportedConversion .. => true
  | .validated, .invalidAmount _ => true
  | .mutated, .storageConflict _ => true
  | .ledgerWritten, .storageConflict _ => true
  | _, _ => false

/-- No stage is one after which an order turns out to give to the account that it takes from. -/
theorem Stage.fails_invalidTarget (stage : Stage) : stage.fails .invalidTarget = false := by
  cases stage <;> rfl

variable {t : TransactionId} {e : Surroundings t} {trail trail' : Trail} {s : Store}
  {order : Transfer} {rates : Rates} {context : Context} {limit : Nat} {error : LedgerError}

/-! ## Errors by stages -/

/-- What the source holds is enough, or it is not. -/
theorem checkFunds_eq {available : Int} (nonneg : 0 ≤ available) :
    order.checkFunds available =
      if order.amount.minor ≤ available then .ok ()
      else .error (.insufficientFunds order.source order.amount.minor available) := by
  rw [checkFunds, Balance.ofMinor, if_neg (Int.not_lt.2 nonneg)]
  simp only [Except.mapError, bind, Except.bind, Balance.covers, decide_eq_true_eq]
  rfl

/-- A source that does not hold less than nothing may hold too little. -/
theorem insufficientFunds_of_checkFunds {available : Int} (nonneg : 0 ≤ available)
    (h : order.checkFunds available = .error error) :
    error = .insufficientFunds order.source order.amount.minor available := by
  rw [checkFunds_eq nonneg] at h
  split at h
  · cases h
  · exact (Except.error.inj h).symm

/-- An amount that cannot be converted has no rate, or is none in the other currency. -/
theorem fails_of_convert (h : order.convert rates = .error error) :
    Stage.validated.fails error = true := by
  rcases bind_eq_error.1 h with h | ⟨conversion, -, h⟩
  · obtain ⟨other, -, rfl⟩ := mapError_eq_error.1 h
    cases other <;> rfl
  · split at h
    · cases h
      rfl
    · cases h

/-- Whatever an amount is converted to is more than nothing. -/
theorem converted_pos {conversion : Conversion} (h : order.convert rates = .ok conversion) :
    0 < conversion.converted := by
  obtain ⟨found, converts, rest⟩ := bind_eq_ok.1 h
  have small : order.amount.minor ≤ Decimal.maxInt64 :=
    Int.le_trans order.amount.le_max (by decide)
  have nonneg := Rates.converted_nonneg (Int.le_of_lt order.amount.positive) small
    (mapError_eq_ok.1 converts)
  split at rest
  case isTrue => cases rest
  case isFalse something =>
    cases rest
    omega

/-- A target that cannot be credited would hold more than can be counted. -/
theorem fails_of_credit {account : Account} {available change : Int} (nonneg : 0 ≤ available)
    (positive : 0 < change)
    (h : (Store.moved account available change).mapError LedgerError.ofStore = .error error) :
    Stage.validated.fails error = true := by
  obtain ⟨other, h, rfl⟩ := mapError_eq_error.1 h
  rw [Store.moved_add account nonneg positive] at h
  split at h
  · cases h
  · rw [← Except.error.inj h]
    rfl

/-- The stage after which the work of a transfer fails tells its error, where balances can be counted
and entries can be read. -/
theorem Halts.fails {n : Nat} (halts : order.Halts t rates s n error) (fair : s.Fair) :
    ((Stage.chain.take n).getLast?.getD .started).fails error = true := by
  cases halts with
  | repeated entry error found reads =>
    rw [(fair.legible entry (Store.mem_of_findEntry_eq_some found).1).conflict reads]
    rfl
  | claimed reference => rfl
  | expired account => rfl
  | homeless wallet => rfl
  | refused error held funds =>
    rw [insufficientFunds_of_checkFunds (fair.nonneg _) funds]
    rfl
  | undebited error held funds debit =>
    -- A source that holds enough can be debited, so there is no such error.
    rw [checkFunds_eq (fair.nonneg _)] at funds
    split at funds
    case isTrue covered =>
      rw [Store.moved_sub _ order.amount.positive covered (fair.le_max _)] at debit
      cases debit
    case isFalse => cases funds
  | unconverted error convert => exact fails_of_convert convert
  | uncredited error conversion held convert credit =>
    exact fails_of_credit (fair.nonneg _) (converted_pos convert) credit
  | taken reference => rfl

/-! ## Ways of attempts -/

/-- How an attempt of a transfer may go: the call that ends its transaction, the stages it tells, the
first one first, and its result. -/
inductive Goes (t : TransactionId) (order : Transfer) (rates : Rates) :
    Option Exchange → List Stage → Except LedgerError (Processed Order.Receipt) → Prop where
  /-- It is refused without a call. -/
  | refused : Goes t order rates none [] (.error .invalidTarget)
  /-- The receipt of an earlier attempt is repeated. -/
  | replayed (s : Store) (receipt : Order.Receipt) :
      Goes t order rates (some ⟨.rollback, .ok (), s⟩) [] (.ok ⟨receipt, true⟩)
  /-- Everything is published. -/
  | committed (s : Store) (receipt : Order.Receipt) :
      Goes t order rates (some ⟨.commit, .ok (), s⟩) (Stage.chain ++ [.committed])
        (.ok ⟨receipt, false⟩)
  /-- A reference was taken before everything could be published. -/
  | collided (s : Store) (reference : String) :
      Goes t order rates (some ⟨.commit, .error (.duplicateReference reference), s⟩)
        (Stage.chain ++ [.aborted]) (.error (.ofStore (.duplicateReference reference)))
  /-- The work fails. -/
  | halted (s : Store) (n : Nat) (error : LedgerError) (halts : order.Halts t rates s n error) :
      Goes t order rates (some ⟨.rollback, .ok (), s⟩) (Stage.chain.take n ++ [.aborted])
        (.error error)

/-- Whether stages are those of an attempt that is given up. -/
def Stage.Aborted (stages : List Stage) : Prop :=
  ∃ done, done <+: Stage.chain ∧ stages = done ++ [.aborted]

/-- An attempt that tells something is committed in the end, or given up. -/
theorem Goes.stages_cases {closing : Option Exchange} {stages : List Stage}
    {result : Except LedgerError (Processed Order.Receipt)}
    (goes : order.Goes t rates closing stages result) :
    stages = [] ∨ stages = Stage.chain ++ [.committed] ∨ Stage.Aborted stages := by
  cases goes with
  | refused => exact Or.inl rfl
  | replayed => exact Or.inl rfl
  | committed => exact Or.inr (Or.inl rfl)
  | collided => exact Or.inr (Or.inr ⟨_, List.prefix_rfl, rfl⟩)
  | halted s n => exact Or.inr (Or.inr ⟨_, List.take_prefix n _, rfl⟩)

/-- An attempt with an error that is worth another attempt is given up. -/
theorem Goes.aborted {closing : Option Exchange} {stages : List Stage}
    (goes : order.Goes t rates closing stages (.error error))
    (retryable : error.isRetryable = true) : Stage.Aborted stages := by
  cases goes with
  | refused => cases retryable
  | collided => exact ⟨_, List.prefix_rfl, rfl⟩
  | halted s n => exact ⟨_, List.take_prefix n _, rfl⟩

/-- What the stages that an attempt tells, its result, and whether its changes are published have to
do with each other. -/
structure Follows (stages : List Stage) (result : Except LedgerError (Processed Order.Receipt))
    (published : Prop) : Prop where
  /-- It tells all stages and that it is committed iff it has a receipt that was not there before. -/
  whole : stages = Stage.chain ++ [.committed] ↔ ∃ receipt, result = .ok ⟨receipt, false⟩
  /-- It has such a receipt iff its changes are published. -/
  published : published ↔ ∃ receipt, result = .ok ⟨receipt, false⟩
  /-- It tells nothing iff it repeats a receipt, or would give to the account that it takes from. -/
  silent : stages = [] ↔ (∃ receipt, result = .ok ⟨receipt, true⟩) ∨ result = .error .invalidTarget
  /-- Otherwise it is given up after some stages, of which the last one tells the error. -/
  aborted : ∀ error, result = .error error → error ≠ .invalidTarget →
    ∃ done, done <+: Stage.chain ∧ stages = done ++ [.aborted] ∧
      (done.getLast?.getD .started).fails error = true

/-- An attempt that is given up follows its stages if the last of them tells the error. -/
theorem Follows.of_aborted {done : List Stage} (before : done <+: Stage.chain)
    (fails : (done.getLast?.getD .started).fails error = true) :
    Follows (done ++ [.aborted]) (.error error) False where
  whole := by
    refine ⟨fun same => ?_, fun ⟨receipt, same⟩ => by cases same⟩
    have last := congrArg List.getLast? same
    simp at last
  published := ⟨False.elim, fun ⟨receipt, same⟩ => by cases same⟩
  silent := by
    refine ⟨fun same => by simp at same, ?_⟩
    rintro (⟨receipt, same⟩ | same)
    · cases same
    · rw [Except.error.inj same, Stage.fails_invalidTarget] at fails
      cases fails
  aborted := by
    rintro _ ⟨⟩ -
    exact ⟨done, before, rfl, fails⟩

/-- However an attempt goes, it follows its stages if balances can be counted and entries can be
read. -/
theorem Goes.follows {closing : Option Exchange} {stages : List Stage}
    {result : Except LedgerError (Processed Order.Receipt)}
    (goes : order.Goes t rates closing stages result)
    (fair : ∀ exchange, closing = some exchange → exchange.store.Fair) :
    Follows stages result (∃ exchange, closing = some exchange ∧ exchange.publishes = true) := by
  cases goes with
  | refused =>
    exact ⟨by simp [Stage.chain], by simp, by simp, fun error same other =>
      absurd (Except.error.inj same).symm other⟩
  | replayed s receipt =>
    exact ⟨by simp [Stage.chain], by simp [Exchange.publishes], by simp, fun error same => by
      cases same⟩
  | committed s receipt =>
    exact ⟨by simp, by simp [Exchange.publishes], by simp [Stage.chain], fun error same => by
      cases same⟩
  | collided s reference =>
    have aborted : Follows (Stage.chain ++ [.aborted])
        (.error (.ofStore (.duplicateReference reference))) False :=
      .of_aborted List.prefix_rfl rfl
    simpa [Exchange.publishes] using aborted
  | halted s n error halts =>
    have aborted : Follows (Stage.chain.take n ++ [.aborted]) (.error error) False :=
      .of_aborted (List.take_prefix n _) (halts.fails (fair _ rfl))
    simpa [Exchange.publishes] using aborted

/-! ## One attempt -/

/-- How an attempt of a transfer goes that has begun after a trail, and what it adds to the stages
told. -/
def Passes (t : TransactionId) (order : Transfer) (rates : Rates) (trail : Trail)
    (result : Except LedgerError (Processed Order.Receipt)) (trail' : Trail) : Prop :=
  ∃ stages, order.Goes t rates (trail'.closing? trail.ended) stages result ∧
    trail'.stages = stages.reverse ++ trail.stages

/-- What is kept after calls inside the transaction is kept from before them. -/
theorem Kept.of_within {trail₀ : Trail} {result : Except LedgerError (Progress Receipt)}
    (kept : order.Kept e rates context trail result trail' s)
    (within : Trail.Within trail₀ trail) : order.Kept e rates context trail₀ result trail' s := by
  obtain ⟨worked, told⟩ := kept
  refine ⟨worked, ?_⟩
  rcases result with error | receipt | receipt
  · obtain ⟨n, halts, reaches⟩ := told
    exact ⟨n, halts, within.reaches_of_reaches reaches⟩
  · exact within.reaches_of_reaches told
  · exact within.reaches_of_reaches told

/-- The call that ends the transaction of an attempt is found in its place. -/
theorem closing?_of_reaches {stages : List Stage} (reaches : Trail.Reaches stages trail trail')
    {c : Call} (ends : c.isEnd = true) (answer : Except StoreError c.Answer) (s : Store) :
    (trail'.add c answer s).closing? trail.ended = some ⟨c, answer, s⟩ := by
  rw [Trail.closing?_add, if_pos ⟨ends, reaches.ended.symm⟩]

/-- Closing the transaction after work that keeps to its stages is one of the ways of an attempt. -/
theorem Kept.closes {result : Except LedgerError (Progress Receipt)}
    (kept : order.Kept e rates context trail result trail' s) :
    Operation.Closes e (fun _ _ _ => True) (fun stage trail => trail.reach stage)
      (fun result trail' _ => order.Passes t rates trail
        (result.map fun p => ⟨.moved p.receipt, p.replayed⟩) trail') result trail' s := by
  intro s₁ between
  obtain ⟨-, told⟩ := kept
  rcases result with error | receipt | receipt
  · obtain ⟨n, halts, reaches⟩ := told
    have reaches := reaches.reach .aborted
    refine ⟨trivial, _, ?_, reaches.stages⟩
    rw [closing?_of_reaches reaches rfl]
    exact .halted s₁ n error (halts.of_others (e.rely between))
  · have reaches : Trail.Reaches [] trail trail' := told
    refine ⟨trivial, _, ?_, reaches.stages⟩
    rw [closing?_of_reaches reaches rfl]
    exact .replayed s₁ (.moved receipt)
  · have reaches : Trail.Reaches Stage.chain trail trail' := told
    refine ⟨trivial, fun free => ⟨_, ?_, (reaches.reach .committed).stages⟩,
      fun reference own taken => ⟨_, ?_, (reaches.reach .aborted).stages⟩⟩
    · show order.Goes t rates ((trail'.add .commit (.ok ()) s₁).closing? trail.ended) _ _
      rw [closing?_of_reaches reaches rfl]
      exact .committed s₁ (.moved receipt)
    · show order.Goes t rates
        ((trail'.add .commit (.error (.duplicateReference reference)) s₁).closing? trail.ended) _ _
      rw [closing?_of_reaches reaches rfl]
      exact .collided s₁ reference

/-- Every attempt of a transfer goes one of the ways. -/
theorem ensures_attempt : ((Order.move rates order).attempt context).run.Ensures e
    (fun _ _ _ => True) (fun result trail' _ => order.Passes t rates trail result trail') trail
    s := by
  refine Operation.ensures_map ?_
  rw [Transfer.attempt]
  split
  · refine ⟨[], ?_, rfl⟩
    rw [Trail.closing?_eq_none (Nat.le_refl _)]
    exact .refused
  case isFalse different =>
    refine Operation.ensures_inTransaction (fun stage trail => trail.reach stage)
      (fun stage => id) fun s₁ between => ⟨trivial, ?_⟩
    have within : Trail.Within trail (trail.add .begin (.ok ()) s₁) :=
      (Trail.Within.refl trail).add (Or.inl rfl) _ s₁
    refine (ensures_kept (fun _ _ _ _ _ _ _ => trivial) (Store.transaction_update_self s₁ t {})
      different).mono (fun _ _ _ => id) fun result trail' s' kept => ?_
    exact (kept.of_within within).closes

/-! ## Several attempts -/

/-- Attempts that have failed one after another have each gone one of the ways, to an error that is
worth another attempt. -/
def Fail (t : TransactionId) (order : Transfer) (rates : Rates) (trail : Trail)
    (failed : List (List Stage × LedgerError)) : Prop :=
  ∀ n stages error, failed[n]? = some (stages, error) → error.isRetryable = true ∧
    order.Goes t rates (trail.closing? n) stages (.error error)

/-- All attempts of a transfer so far have failed. -/
structure Failed (t : TransactionId) (order : Transfer) (rates : Rates) (trail : Trail)
    (failed : List (List Stage × LedgerError)) : Prop where
  /-- Each has ended one transaction. -/
  count : failed.length = trail.ended
  /-- They have told the stages in their order. -/
  told : trail.stages.reverse = (failed.map Prod.fst).flatten
  /-- They have gone their ways. -/
  fail : order.Fail t rates trail failed

/-- The attempts of a transfer that has come to a result: those that have failed, and the last
one. -/
structure Tries (t : TransactionId) (order : Transfer) (rates : Rates) (limit : Nat) (trail : Trail)
    (result : Except LedgerError (Processed Order.Receipt))
    (failed : List (List Stage × LedgerError)) (last : List Stage) : Prop where
  /-- There are not too many. -/
  few : failed.length < limit
  /-- They have told the stages in their order. -/
  told : trail.stages.reverse = (failed.map Prod.fst).flatten ++ last
  /-- Those before the last one have failed. -/
  fail : order.Fail t rates trail failed
  /-- The last one has gone one of the ways, to the result. -/
  ends : order.Goes t rates (trail.closing? failed.length) last result

variable {failed : List (List Stage × LedgerError)}
  {result : Except LedgerError (Processed Order.Receipt)}

/-- What is done afterwards changes nothing about attempts that have failed. -/
theorem Failed.of_suffix (tried : order.Failed t rates trail failed)
    (further : trail.calls <:+ trail'.calls) : order.Fail t rates trail' failed := by
  intro n stages error h
  obtain ⟨before, -⟩ := List.getElem?_eq_some_iff.1 h
  rw [Trail.closing?_of_suffix further (tried.count ▸ before)]
  exact tried.fail n stages error h

/-- One more attempt has failed. -/
theorem Failed.further (tried : order.Failed t rates trail failed)
    (passes : order.Passes t rates trail (.error error) trail')
    (further : trail.calls <:+ trail'.calls) (retryable : error.isRetryable = true)
    (more : trail'.ended = trail.ended + 1) :
    ∃ stages, order.Failed t rates trail' (failed ++ [(stages, error)]) := by
  obtain ⟨stages, goes, told⟩ := passes
  refine ⟨stages, ?_, ?_, fun n stages' error' h => ?_⟩
  · rw [List.length_append, tried.count, more]
    rfl
  · rw [told, List.reverse_append, List.reverse_reverse, tried.told, List.map_append,
      List.flatten_append]
    simp
  · rw [List.getElem?_append] at h
    split at h
    case isTrue => exact tried.of_suffix further n stages' error' h
    case isFalse beyond =>
      rw [List.getElem?_singleton] at h
      split at h
      case isTrue last =>
        cases h
        have same : n = trail.ended := by
          rw [← tried.count]
          omega
        exact ⟨retryable, same ▸ goes⟩
      case isFalse => cases h

/-- The last attempt has come to a result. -/
theorem Failed.tries (tried : order.Failed t rates trail failed)
    (passes : order.Passes t rates trail result trail') (further : trail.calls <:+ trail'.calls)
    (few : trail.ended < limit) : ∃ last, order.Tries t rates limit trail' result failed last := by
  obtain ⟨stages, goes, told⟩ := passes
  refine ⟨stages, tried.count ▸ few, ?_, tried.of_suffix further, tried.count ▸ goes⟩
  rw [told, List.reverse_append, List.reverse_reverse, tried.told]

/-- Every attempt of a transfer concludes, and goes one of the ways. -/
theorem ensures_attempt_concludes (idle : s.transaction t = {})
    (unpublished : trail.published = false) :
    ((Order.move rates order).attempt context).run.Ensures e (fun _ _ _ => True)
      (fun result trail' s' => (Order.move rates order).Concludes e context trail result trail' s' ∧
        trail.calls <:+ trail'.calls ∧ order.Passes t rates trail result trail') trail s := by
  have concludes : ((Order.move rates order).attempt context).run.Ensures e
      ((Order.move rates order).Duty e context (trail.ended + 1))
      ((Order.move rates order).Concludes e context trail) trail s :=
    Order.ensures_attempt idle unpublished (Nat.lt_succ_self _)
  exact (concludes.and ((Script.ensures_suffix e _ trail s).and ensures_attempt)).mono
    (fun _ _ _ _ => trivial) fun _ _ _ => id

/-- Several attempts of a transfer go their ways one after another. -/
theorem ensures_attempts {backoff : Nat} (more number : Nat) (idle : s.transaction t = {})
    (unpublished : trail.published = false) (few : trail.ended + more < limit)
    (tried : order.Failed t rates trail failed) :
    (Retry.attempts Script.pause backoff ((Order.move rates order).attempt context).run more
      number).Ensures e (fun _ _ _ => True)
      (fun result trail' _ => ∃ failed last, order.Tries t rates limit trail' result failed last)
      trail s := by
  -- By induction on the attempts that are left; those before have failed.
  induction more generalizing number trail s failed with
  | zero =>
    refine (ensures_attempt_concludes idle unpublished).mono (fun _ _ _ => id) ?_
    rintro result trail' s' ⟨-, further, passes⟩
    exact ⟨failed, tried.tries passes further few⟩
  | succ more ih =>
    refine Script.ensures_bind.2 ((ensures_attempt_concludes idle unpublished).mono
      (fun _ _ _ => id) ?_)
    rintro result trail' s' ⟨concludes, further, passes⟩
    cases retryable : Retry.isRetryable result with
    | false => exact ⟨failed, tried.tries passes further (by omega)⟩
    | true =>
      cases result with
      | ok receipt => cases retryable
      | error error =>
        obtain ⟨idle', published', ended'⟩ := concludes.idle retryable
        obtain ⟨stages, tried'⟩ := tried.further passes further retryable ended'
        exact ih (number + 1) idle' (published'.trans unpublished) (by omega) tried'

/-- A transfer that is attempted as often as a policy allows goes its ways one after another. -/
theorem ensures_run (policy : Retry.Policy) (idle : s.transaction t = {}) :
    (policy.run Script.pause ((Order.move rates order).attempt context).run).Ensures e
      (fun _ _ _ => True) (fun result trail' _ => ∃ failed last,
        order.Tries t rates (max 1 policy.maxAttempts) trail' result failed last) {} s := by
  have none : order.Failed t rates {} [] := ⟨rfl, rfl, fun n stages error h => by simp at h⟩
  refine ensures_attempts _ 1 idle rfl ?_ none
  rw [Trail.ended, List.countP_nil]
  omega

end Transfer

end CurrencyLedger
