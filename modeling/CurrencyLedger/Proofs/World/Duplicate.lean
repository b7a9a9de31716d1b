import CurrencyLedger.Proofs.Order.Course
import CurrencyLedger.Proofs.World.Replay

/-! # Duplicates that come too late

Two attempts of one request may be under way at a time, and the second one may have looked for the
reference before the first one published it. What the second one comes to then, once it has locked
its accounts, is decided by what the first one has left in them.

* **`Order.Applied`**, **`World.applied_run`** — an order that was published has its references
  written, and its accounts have balances;
* **`Order.Holding`** — a transaction that has locked the accounts of an order finds them as they
  were when it locked them;
* **`Order.Holding.outcome`** — an attempt of an order that was applied already ends as the amounts
  have it: refused, or by a conflict;
* **`World.settles_duplicate`** — a duplicate is answered by the refusal, or else it repeats the
  receipt, or ends by the conflict if it may not be attempted again. -/

namespace CurrencyLedger

namespace Order

variable {t : TransactionId} {e : Surroundings t} {s s₀ s' : Store} {order other : Order}
  {context : Context} {exchange : Exchange} {result : Except LedgerError (Processed Receipt)}

/-! ## Orders that were applied -/

/-- What a published order has left behind. -/
structure Applied (order : Order) (s : Store) : Prop where
  /-- It does not give to the account that it takes from. -/
  straight : order.isCircular = false
  /-- Its references are written. -/
  written : ∀ reference ∈ order.references, ∃ entry ∈ s.entries, entry.reference = some reference
  /-- Its accounts have balances. -/
  balanced : ∀ account ∈ order.accounts, (s.balances.get? account).isSome = true

/-- Attempts of one request use the same references. -/
theorem SameRequest.references_eq (same : order.SameRequest other) :
    order.references = other.references := by
  rw [references, references, same.reference_eq, same.sides_eq]

/-- What an order has left behind counts for every attempt of the request. -/
theorem Applied.of_sameRequest (applied : order.Applied s) (same : order.SameRequest other) :
    other.Applied s :=
  ⟨same.isCircular_eq ▸ applied.straight, same.references_eq ▸ applied.written,
    same.accounts_eq ▸ applied.balanced⟩

/-- An order is applied once a draft that was ready is published. -/
theorem Ready.applied {receipt : Receipt} (ready : order.Ready e context receipt s)
    (straight : order.isCircular = false) : order.Applied (s.publish t) := by
  refine ⟨straight, fun reference mem => ?_, fun account mem => ?_⟩
  · have own : reference ∈ s.ownReferences t := by
      rw [ready.ownReferences_eq, List.mem_append, List.mem_singleton]
      exact (List.mem_cons.1 mem).symm
    obtain ⟨entry, there, named⟩ := Store.mem_ownReferences.1 own
    exact ⟨entry, List.mem_append_right _ there, named⟩
  · obtain ⟨recorded, -, -⟩ := ready.drafted
    obtain ⟨balance, staged, -⟩ := get?_balances straight ready.evaluated mem
      (order.completion receipt context recorded)
    rw [Store.get?_balances_publish, ready.staged_eq straight, staged]
    rfl

/-! ## Accounts that are locked -/

/-- A transaction has locked the accounts of an order, and finds them as they were. -/
structure Holding (order : Order) (t : TransactionId) (s₀ s : Store) : Prop where
  /-- The accounts are locked. -/
  held : order.Holds t s
  /-- They have kept their balances. -/
  balances : ∀ account ∈ order.accounts, s.balances.get? account = s₀.balances.get? account
  /-- Entries were only added. -/
  entries : s₀.entries <+: s.entries

/-- An order is about an account. -/
theorem exists_mem_accounts (order : Order) : ∃ account, account ∈ order.accounts := by
  cases order with
  | adjust direction order => exact ⟨_, List.mem_cons_self⟩
  | move rates order => exact ⟨_, List.mem_cons_self⟩

/-- A transaction that holds accounts has begun. -/
theorem Holds.ne_empty (held : order.Holds t s) : s.transaction t ≠ {} := by
  intro none
  obtain ⟨account, mem⟩ := order.exists_mem_accounts
  have there := held account mem
  rw [none] at there
  cases there

/-- Nothing has happened yet. -/
theorem Holding.refl (held : order.Holds t s) : order.Holding t s s :=
  ⟨held, fun _ _ => rfl, List.prefix_rfl⟩

/-- Others change nothing about the accounts. -/
theorem Holding.of_others (holding : order.Holding t s₀ s) (others : Store.Others t s s') :
    order.Holding t s₀ s' where
  held := holding.held.of_others others
  balances account mem :=
    (others.balances account (holding.held account mem)).trans (holding.balances account mem)
  entries := holding.entries.trans others.entries

/-- The amounts of the accounts allow what they allowed. -/
theorem Holding.evaluate_eq (holding : order.Holding t s₀ s) :
    order.evaluate s.amount = order.evaluate s₀.amount := by
  refine evaluate_congr fun account mem => ?_
  rw [Store.amount, Store.amount, holding.balances account mem]

end Order

/-- A call gives no lock back, unless it begins or ends the transaction. -/
theorem Store.mem_held_of_step {t : TransactionId} {s s' : Store} {now : Instant} {c : Call}
    {answer : Except StoreError c.Answer} (step : s.step t now c = .answered s' answer)
    (goes_on : c.isEnd = false) (begun : c ≠ .begin) {account : Account}
    (held : account ∈ (s.transaction t).held) : account ∈ (s'.transaction t).held := by
  cases c with
  | begin => exact absurd rfl begun
  | commit => cases goes_on
  | rollback => cases goes_on
  | createWallet user name => cases step; exact held
  | findWallet wallet => cases step; exact held
  | holdings wallet => cases step; exact held
  | allHoldings => cases step; exact held
  | entries wallet limit => cases step; exact held
  | totals => cases step; exact held
  | find reference => cases step; exact held
  | lock other =>
    obtain ⟨-, rfl, -⟩ := lock_eq_answered step
    rw [transaction_update_self]
    exact Transaction.mem_held_hold.2 (Or.inr held)
  | create other initial =>
    have more : account ∈ ((s.transaction t).hold other).held :=
      Transaction.mem_held_hold.2 (Or.inr held)
    rcases create_eq_answered step with ⟨-, rfl, -⟩ | ⟨-, -, ⟨-, rfl, -⟩ | ⟨-, rfl, -⟩⟩
    · exact held
    · rw [transaction_update_self]
      exact more
    · rw [transaction_update_self]
      exact more
  | apply other delta =>
    cases step
    rcases apply_cases s t other delta with ⟨_, h⟩ | ⟨_, _, -, -, -, h⟩
    · rw [h]
      exact held
    · rw [h, transaction_update_self]
      exact held
  | append posting =>
    cases step
    rcases append_cases s t now posting with ⟨-, h⟩ | ⟨_, -, -, h⟩ | ⟨-, h⟩
    · rw [h]
      exact held
    · rw [h]
      exact held
    · rw [h, transaction_update_self]
      exact held

namespace Order

variable {t : TransactionId} {e : Surroundings t} {trail : Trail} {s s₀ s' : Store} {order : Order}
  {context : Context} {limit n : Nat} {exchange : Exchange}
  {result : Except LedgerError (Processed Receipt)}

/-- Nor do calls of the transaction itself change anything about the accounts, before its end. -/
theorem Holding.step (holding : order.Holding t s₀ s) {now : Instant} {c : Call}
    {answer : Except StoreError c.Answer} (duty : order.Duty e context limit trail c s)
    (goes_on : c.isEnd = false) (step : s.step t now c = .answered s' answer) :
    order.Holding t s₀ s' := by
  -- A transaction that holds accounts is not begun again.
  have begun : c ≠ .begin := by
    rintro rfl
    exact holding.held.ne_empty duty.2.2
  have silent : Exchange.publishes ⟨c, answer, s⟩ = false := by
    cases c with
    | commit => cases goes_on
    | createWallet user name => exact duty.2.2.elim
    | _ => rfl
  have books := Store.books_eq_of_step step silent
  have balances : s'.balances = s.balances := congrArg Store.Books.balances books
  have entries : s'.entries = s.entries := congrArg Store.Books.entries books
  refine ⟨fun account mem => Store.mem_held_of_step step goes_on begun (holding.held account mem),
    fun account mem => ?_, ?_⟩
  · rw [balances]
    exact holding.balances account mem
  · rw [entries]
    exact holding.entries

/-! ## What a duplicate comes to -/

/-- An attempt that has locked the accounts of an order when it was applied already ends as the
amounts have it: refused, or by a conflict about one of the references. -/
theorem Holding.outcome (holding : order.Holding t s₀ exchange.store) (applied : order.Applied s₀)
    (sound : exchange.store.Sound) (ended : order.Ended e context result exchange s') :
    (∃ error, order.evaluate s₀.amount = .error error ∧ result = .error error) ∨
      (∃ receipt, order.evaluate s₀.amount = .ok receipt) ∧ ∃ reference ∈ order.references,
        result = .error (.ofStore (.duplicateReference reference)) := by
  -- All references are taken since the order was applied.
  have taken {reference : String} (mem : reference ∈ order.references) :
      reference ∈ exchange.store.references := by
    obtain ⟨entry, there, named⟩ := applied.written reference mem
    exact (sound.indexed reference).2 ⟨entry, holding.entries.subset there, named⟩
  have own {reference : String} {receipt : Receipt}
      (ready : order.Ready e context receipt exchange.store) :
      reference ∈ exchange.store.ownReferences t ↔ reference ∈ order.references := by
    rw [ready.ownReferences_eq, List.mem_append, List.mem_singleton, references, List.mem_cons]
    exact or_comm
  have evaluate_eq := holding.evaluate_eq
  have busy := holding.held.ne_empty
  cases ended with
  | replayed s receipt worked =>
    cases worked with
    | replayed entry _ begun => exact absurd begun busy
  | published s receipt worked free =>
    cases worked with
    | applied _ missed ready =>
      have mem : order.reference ∈ order.references := List.mem_cons_self
      exact absurd (taken mem) (free _ ((own ready).2 mem))
  | collided s receipt reference worked mine there =>
    cases worked with
    | applied _ missed ready =>
      refine Or.inr ⟨⟨receipt, ?_⟩, reference, (own ready).1 mine, rfl⟩
      rw [← evaluate_eq]
      exact ready.evaluated
  | failed s error worked =>
    cases worked with
    | repeated entry _ begun => exact absurd begun busy
    | claimed entry reference begun => exact absurd begun busy
    | expired account s₁ missed mem meets expires missing =>
      exact absurd (holding.held account mem) missing
    | homeless before account after s₁ missed meets split owned unowned held unbalanced =>
      -- The accounts have had balances since the order was applied.
      have mem : account ∈ order.accounts := by
        rw [← Account.mem_ascending, split]
        exact List.mem_append_right _ List.mem_cons_self
      have balanced := applied.balanced account mem
      rw [← holding.balances account mem, unbalanced] at balanced
      cases balanced
    | rejected _ missed owned held evaluated =>
      rw [evaluate_eq] at evaluated
      exact Or.inl ⟨error, evaluated, rfl⟩
    | taken receipt entry reference missed held evaluated mem found =>
      rw [evaluate_eq] at evaluated
      exact Or.inr ⟨⟨receipt, evaluated⟩, reference, mem, rfl⟩

/-- What becomes of a request that was applied meanwhile. If the amounts do not allow it any more, it
is refused. Otherwise it ends by a conflict about one of its references, or repeats the receipt if
it may be attempted again. -/
def Repeated (order : Order) (amounts : Account → Int) (receipt : Receipt) (again : Prop)
    [Decidable again] (result : Except LedgerError (Processed Receipt)) : Prop :=
  match order.evaluate amounts with
  | .error error => result = .error error ∧ error.isClientError = true
  | .ok _ =>
    if again then result = .ok ⟨receipt, true⟩
    else ∃ reference ∈ order.references,
      result = .error (.ofStore (.duplicateReference reference))

/-- That is what becomes of it when an attempt had locked the accounts by then. -/
theorem Course.repeated {receipt : Receipt}
    (course : order.Course e context limit n result trail exchange)
    (holding : order.Holding t s₀ exchange.store) (applied : order.Applied s₀)
    (recorded : order.Recorded receipt s₀) :
    order.Repeated s₀.amount receipt (n + 1 < limit) result := by
  unfold Repeated
  cases course with
  | last s' count meets ended spent =>
    rcases holding.outcome applied meets.sound ended with
      ⟨error, refused, rfl⟩ | ⟨⟨allowed, evaluated⟩, reference, mem, rfl⟩
    · rw [refused]
      exact ⟨rfl, isClientError_of_evaluate refused⟩
    · rw [evaluated]
      show ite _ _ _
      rw [if_neg (Nat.not_lt.2 (spent rfl))]
      exact ⟨reference, mem, rfl⟩
  | again error s' more meets ended retryable repeats =>
    rcases holding.outcome applied meets.sound ended with
      ⟨_, refused, ⟨⟩⟩ | ⟨⟨allowed, evaluated⟩, -⟩
    · -- What is refused is not attempted again.
      have client := isClientError_of_evaluate refused
      rw [LedgerError.isClientError_of_isRetryable retryable] at client
      cases client
    · rw [evaluated]
      show ite _ _ _
      rw [if_pos more]
      exact repeats receipt (recorded.of_prefix holding.entries)

/-- What can be said of the calls of an order that is attempted up to `limit` times. -/
structure Watched (e : Surroundings t) (order : Order) (context : Context) (limit : Nat)
    (trail : Trail) (c : Call) (s : Store) : Prop where
  /-- They are a duty. -/
  duty : order.Duty e context limit trail c s
  /-- They are about its accounts. -/
  asks : order.Asks c
  /-- They are few. -/
  few : trail.calls.length < limit * 16
  /-- They lock nothing after an attempt by whose end a receipt was kept. -/
  spares : order.Spares trail c

/-- What can be said of the answer to an order that is attempted up to `limit` times. -/
def Answered (e : Surroundings t) (order : Order) (context : Context) (limit : Nat)
    (result : Except LedgerError Reply) (trail : Trail) (s : Store) : Prop :=
  ∃ processed : Except LedgerError (Processed Receipt), result = processed.map Reply.processed ∧
    order.Settles e context processed trail s ∧ ∀ n exchange, trail.closing? n = some exchange →
      order.Course e context limit n processed trail exchange

/-- All that can be said of an order that is carried out. -/
theorem ensures_carryOut (policy : Retry.Policy) (context : Context) (fresh : Uuid)
    (straight : order.isCircular = false) (idle : s.transaction t = {}) :
    (Task.carryOut order policy context fresh).script.Ensures e
      (order.Watched e (context.ensureCorrelation fresh) (max 1 policy.maxAttempts))
      (order.Answered e (context.ensureCorrelation fresh) (max 1 policy.maxAttempts)) {} s := by
  have few : ({} : Trail).calls.length + max 1 policy.maxAttempts * 16 ≤
      max 1 policy.maxAttempts * 16 := Nat.le_of_eq (Nat.zero_add _)
  refine Operation.ensures_map (((ensures_run policy idle rfl rfl).and
    (((makes_run order policy _).ensures few).and (ensures_course policy straight idle))).mono ?_ ?_)
  · rintro trail c s ⟨duty, ⟨asks, few⟩, spares⟩
    exact ⟨duty, asks, few, spares⟩
  · rintro result trail s ⟨settles, -, courses⟩
    exact ⟨result, rfl, settles, courses⟩

/-- Once an attempt has locked the accounts of an order that was applied already, what becomes of the
request is known. -/
theorem Answered.repeated {receipt : Receipt} {result : Except LedgerError Reply}
    (answered : order.Answered e context limit result trail s)
    (now : trail.Until n (order.Holding t s₀) s) (applied : order.Applied s₀)
    (recorded : order.Recorded receipt s₀) :
    ∃ processed : Except LedgerError (Processed Receipt), result = processed.map Reply.processed ∧
      order.Repeated s₀.amount receipt (n + 1 < limit) processed := by
  obtain ⟨processed, rfl, ⟨before, -, concludes⟩, courses⟩ := answered
  refine ⟨processed, rfl, ?_⟩
  rcases concludes with ⟨circular, -, -⟩ | ⟨-, concluded⟩
  · rw [applied.straight] at circular
    cases circular
  · obtain ⟨_, _, -, -, ended⟩ := concluded.ended
    -- The transaction has ended, for there is none any more.
    have passed : n < trail.ended := Nat.lt_of_le_of_ne now.least fun same =>
      (now.holds same.symm).held.ne_empty ended.idle
    obtain ⟨exchange, closing⟩ := Trail.exists_closing? passed
    exact (courses n exchange closing).repeated (now.closed exchange closing) applied recorded

end Order

namespace World

variable {w w' : World} {shows : Instant → Prop} {t : TransactionId} {order : Order}

/-- What an order has left behind stays. -/
theorem Publishes.applied (publishes : w.Publishes shows w') (applied : order.Applied w.store) :
    order.Applied w'.store := by
  refine ⟨applied.straight, fun reference mem => ?_, fun account mem => ?_⟩
  · obtain ⟨entry, there, named⟩ := applied.written reference mem
    exact ⟨entry, publishes.entries_isPrefix.subset there, named⟩
  · -- Balances change, but none is taken away.
    have balanced := applied.balanced account mem
    cases publishes with
    | nothing books published =>
      have same : w'.store.balances = w.store.balances := congrArg Store.Books.balances books
      rw [same]
      exact balanced
    | wallet u user name chosen now trail named vacant store published finished =>
      rw [store]
      exact balanced
    | order u other policy context fresh receipt trail straight missed ready free vacant store
        published finished =>
      rw [store, Store.get?_balances_publish, Option.isSome_or, balanced, Bool.or_true]

/-- In every world that can be reached, the orders that were published are applied. -/
theorem applied_run {actions : List Action} {policy : Retry.Policy} {context : Context}
    {fresh : Uuid}
    (published : (t, .carryOut order policy context fresh) ∈ (run actions).published) :
    order.Applied (run actions).store := by
  induction actions using List.reverseRecOn with
  | nil => cases published
  | append_singleton actions a ih =>
    have publishes : (run actions).Publishes (fun _ => True) (run (actions ++ [a])) :=
      publishes_run fun _ _ _ _ => trivial
    by_cases before : (t, .carryOut order policy context fresh) ∈ (run actions).published
    · exact publishes.applied (ih before)
    · obtain ⟨_, _, straight, ready, -, store, -⟩ := publishes.order_of_mem published before
      rw [store]
      exact ready.applied straight

/-- An attempt that has locked the accounts of an order that was applied already does not have to
wait for a lock, and no more does one after it. -/
theorem prompt_watched {e : Surroundings t} {context : Context} {limit n : Nat} {s₀ : Store}
    {receipt : Order.Receipt} (recorded : order.Recorded receipt s₀) :
    Prompt t (limit * 16) fun trail c s =>
      order.Watched e context limit trail c s ∧ trail.Until n (order.Holding t s₀) s where
  locked := by
    rintro trail c s ⟨watched, now⟩ account locks
    -- Until the transaction ends its accounts are locked; afterwards the receipt is found.
    rcases Nat.eq_or_lt_of_le now.least with same | passed
    · exact (now.holds same.symm).held account (watched.asks account locks)
    · obtain ⟨exchange, closing⟩ := Trail.exists_closing? passed
      have kept := recorded.of_prefix (now.closed exchange closing).entries
      rw [watched.spares n exchange receipt closing kept] at locks
      cases locks
  few kept := kept.1.few

/-- An order under way that has locked its accounts keeps all that can be said of it, and finds the
accounts as they are until its transaction ends. -/
theorem keeps_watched {actions : List Action} {policy : Retry.Policy} {context : Context}
    {fresh : Uuid} {trail : Trail} {rest : Script (Except LedgerError Reply)}
    (straight : order.isCircular = false)
    (running : (run actions).running.get? t =
      some ⟨.carryOut order policy context fresh, trail, rest⟩)
    (held : order.Holds t (run actions).store) :
    (run actions).Keeps (fun _ => True) t (.carryOut order policy context fresh)
      (fun trail' c s =>
        order.Watched (.crowd (fun _ => True) t) (context.ensureCorrelation fresh)
          (max 1 policy.maxAttempts) trail' c s ∧
        trail'.Until trail.ended (order.Holding t (run actions).store) s)
      (fun result trail' s =>
        order.Answered (.crowd (fun _ => True) t) (context.ensureCorrelation fresh)
          (max 1 policy.maxAttempts) result trail' s ∧
        trail'.Until trail.ended (order.Holding t (run actions).store) s) := by
  have keeps : (run actions).Keeps (fun _ => True) t (.carryOut order policy context fresh)
      (order.Watched (.crowd (fun _ => True) t) (context.ensureCorrelation fresh)
        (max 1 policy.maxAttempts))
      (order.Answered (.crowd (fun _ => True) t) (context.ensureCorrelation fresh)
        (max 1 policy.maxAttempts)) :=
    keeps_of_running (fun s idle => Order.ensures_carryOut policy context fresh straight idle)
      (fun _ _ _ _ => trivial) running
  -- It is about to ask a call, and no transaction has ended since it has locked the accounts.
  obtain ⟨c, next, eq, ensures⟩ := keeps.running_eq running
  have now : trail.Until trail.ended (order.Holding t (run actions).store) (run actions).store := by
    refine ⟨Nat.le_refl _, fun _ => .refl held, fun exchange closing => ?_⟩
    rw [Trail.closing?_eq_none (Nat.le_refl _)] at closing
    cases closing
  refine Or.inl ⟨trail, c, next, ?_, ensures.until_end (fun others holding => holding.of_others others)
    (fun watched goes_on holding step => holding.step watched.duty goes_on step) now⟩
  rw [running]
  exact congrArg some eq

/-- A request whose accounts are locked when another attempt of it was applied already has looked
for its reference too early: it goes by the amounts that the other attempt has left. If they do not
allow it any more, it is refused as if the request were at fault. Otherwise it ends by a conflict
about a reference, or, if it may be attempted again, by repeating the receipt of the other attempt.
It ends within the steps that its attempts take, unless it is given up. -/
theorem settles_duplicate (actions after : List Action) {a b : TransactionId} {order other : Order}
    {policy policy' : Retry.Policy} {context context' : Context} {fresh fresh' : Uuid}
    {trail : Trail} {rest : Script (Except LedgerError Reply)}
    (dated : ∀ a ∈ actions, ∀ now ∈ a.time?, Datable now)
    (countable : order.Countable) (user : ∀ n ∈ context.user, Decimal.isInt64 n = true)
    (published : (a, .carryOut order policy context fresh) ∈ (run actions).published)
    (same : order.SameRequest other)
    (running : (run actions).running.get? b =
      some ⟨.carryOut other policy' context' fresh', trail, rest⟩)
    (held : other.Holds b (run actions).store) :
    ∃ first receipt,
      (run actions).finished.get? a =
        some ⟨.carryOut order policy context fresh, first, .ok (.processed ⟨receipt, false⟩)⟩ ∧
      let limit := max 1 policy'.maxAttempts
      let w := run (actions ++ after)
      (∀ f, w.finished.get? b = some f →
        ∃ result : Except LedgerError (Processed Order.Receipt),
          f.result = result.map Reply.processed ∧
          match other.evaluate (run actions).store.amount with
          | .error error => result = .error error ∧ error.isClientError = true
          | .ok _ =>
            if trail.ended + 1 < limit then result = .ok ⟨receipt, true⟩
            else ∃ reference ∈ other.references,
              result = .error (.ofStore (.duplicateReference reference))) ∧
      ((∀ a ∈ after, a ≠ .abandon b) → limit * 16 ≤ after.countP (·.isStep b) →
        (w.finished.get? b).isSome = true) := by
  obtain ⟨first, receipt, done, straight, recorded⟩ :=
    recorded_of_published dated countable user published
  refine ⟨first, receipt, done, ?_⟩
  intro limit w
  have applied := (applied_run published).of_sameRequest same
  have recorded := recorded.of_sameRequest same
  have sane := sane_run actions
  have kept := keeps_watched applied.straight running held
  -- What it keeps it keeps whatever happens afterwards, or it is given up.
  have split : w = after.foldl act (run actions) := List.foldl_append
  refine ⟨fun f here => ?_, fun goes_on enough => ?_⟩
  · obtain ⟨sane_w, known⟩ := keeps_foldl sane (sane.lt_next running) (Or.inl kept)
      fun a mem now shown => trivial
    rw [split] at here
    rcases known with known | unknown
    · obtain ⟨-, -, s, answered, now⟩ := known.finished_eq sane_w here
      exact answered.repeated now applied recorded
    · exact absurd (Or.inr (by rw [here]; rfl)) unknown
  · have made : (run actions).Made b trail.calls.length := Or.inr ⟨_, running, rfl⟩
    obtain ⟨_, _, _, there, -⟩ := kept.ends sane (prompt_watched recorded) made
      (fun a mem now shown => trivial) goes_on (by omega)
    rw [split, there]
    rfl

/-- A transfer that is made twice: the second time it looks for the reference before the first one
is published, and locks the accounts afterwards. -/
def Sample.duplicated : List Action :=
  Sample.opening ++
    [.launch (Sample.once Sample.transfer 8) (.ofMillis 3),
      .launch (Sample.once Sample.transferAgain 9) (.ofMillis 4)] ++
    Sample.steps 4 4 ++ Sample.steps 3 14 ++ Sample.steps 4 2

/-- The second time, the transfer is refused for want of the money that it has moved already. -/
theorem settles_duplicate_refused :
    ∃ first receipt, (run Sample.duplicated).finished.get? 3 =
        some ⟨Sample.once Sample.transfer 8, first, .ok (.processed ⟨receipt, false⟩)⟩ ∧
      ∃ f, (run (Sample.duplicated ++ Sample.steps 4 16)).finished.get? 4 = some f ∧
        f.result = .error (.insufficientFunds (Sample.dollars 1) 60 40) ∧
        (LedgerError.insufficientFunds (Sample.dollars 1) 60 40).isClientError = true := by
  have dated : ∀ a ∈ Sample.duplicated, ∀ now ∈ a.time?, Datable now := by
    show ∀ a ∈ Sample.duplicated, ∀ now ∈ a.time?,
      Instant.isYear (Instant.civil now.day).year = true
    decide +kernel
  have countable : Sample.transfer.Countable := by
    rintro account mem
    rcases List.mem_cons.1 mem with rfl | mem
    · rfl
    · rw [List.mem_singleton.1 mem]
      rfl
  have published : (3, Sample.once Sample.transfer 8) ∈ (run Sample.duplicated).published := by
    decide +kernel
  have same : Sample.transfer.SameRequest Sample.transferAgain := rfl
  have task : ((run Sample.duplicated).running.get? 4).map Process.task =
      some (Sample.once Sample.transferAgain 9) := by decide +kernel
  obtain ⟨⟨_, trail, rest⟩, running, rfl⟩ := Option.map_eq_some_iff.1 task
  have held : Sample.transferAgain.Holds 4 (run Sample.duplicated).store := by
    show ∀ account ∈ Sample.transferAgain.accounts,
      account ∈ ((run Sample.duplicated).store.transaction 4).held
    decide +kernel
  have refused : Sample.transferAgain.evaluate (run Sample.duplicated).store.amount =
      .error (.insufficientFunds (Sample.dollars 1) 60 40) := by decide +kernel
  obtain ⟨first, receipt, done, answer, ends⟩ := settles_duplicate Sample.duplicated
    (Sample.steps 4 16) dated countable (fun n mem => by cases mem) published same running held
  have steady : ∀ a ∈ Sample.steps 4 16, a ≠ .abandon 4 := by
    intro a mem equal
    rw [Sample.steps, List.mem_replicate, equal] at mem
    cases mem.2
  simp only [refused] at answer
  obtain ⟨f, there⟩ := Option.isSome_iff_exists.1 (ends steady (by decide))
  obtain ⟨result, is, rfl, client⟩ := answer f there
  exact ⟨first, receipt, done, f, there, is, client⟩

end World

end CurrencyLedger
