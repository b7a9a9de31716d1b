import CurrencyLedger.Ledger
import CurrencyLedger.Proofs.Operation.Bounds
import CurrencyLedger.Proofs.Order.Work

/-! # Attempts of orders among others

One attempt of an order is one transaction around its work; attempts are repeated as long as it
helps.

* **`Order.Duty`** — when an attempt may ask what;
* **`Order.Ended`** — how an attempt can end, and in which store it was decided;
* **`Order.ensures_attempt`** — one attempt does its duty and ends in one of these ways;
* **`Order.ensures_run`** — so does the last of several attempts;
* **`Order.Calls`**, **`Order.Calls.makes_run`** — which calls they make, and how many. -/

namespace CurrencyLedger

namespace Order

open Operation (Progress)

variable {t : TransactionId} {e : Surroundings t} {trail : Trail} {s s' : Store} {order : Order}
  {context : Context} {limit : Nat}

/-- When an attempt of an order may ask what: as long as nothing was published and fewer than
`limit` transactions have ended, it begins when it has none, and publishes when it is ready. -/
def Duty (e : Surroundings t) (order : Order) (context : Context) (limit : Nat) (trail : Trail)
    (c : Call) (s : Store) : Prop :=
  trail.published = false ∧ trail.ended < limit ∧
    match c with
    | .begin => s.transaction t = {}
    | .commit => ∃ receipt, order.Ready e context receipt s
    | .createWallet .. => False
    | _ => True

/-- How an attempt of an order can end: its result, its last call and the store after it. -/
inductive Ended (e : Surroundings t) (order : Order) (context : Context) :
    Except LedgerError (Processed Receipt) → Exchange → Store → Prop where
  /-- The receipt of an earlier attempt is repeated. -/
  | replayed (s : Store) (receipt : Receipt)
      (worked : order.Worked e context s (.ok (.replayed receipt))) :
      Ended e order context (.ok ⟨receipt, true⟩) ⟨.rollback, .ok (), s⟩ (s.drop t)
  /-- Everything is published. -/
  | published (s : Store) (receipt : Receipt)
      (worked : order.Worked e context s (.ok (.applied receipt)))
      (free : ∀ reference ∈ s.ownReferences t, reference ∉ s.references) :
      Ended e order context (.ok ⟨receipt, false⟩) ⟨.commit, .ok (), s⟩ (s.publish t)
  /-- A reference was taken before everything could be published. -/
  | collided (s : Store) (receipt : Receipt) (reference : String)
      (worked : order.Worked e context s (.ok (.applied receipt)))
      (own : reference ∈ s.ownReferences t) (taken : reference ∈ s.references) :
      Ended e order context (.error (.ofStore (.duplicateReference reference)))
        ⟨.commit, .error (.duplicateReference reference), s⟩ (s.drop t)
  /-- The work fails. -/
  | failed (s : Store) (error : LedgerError) (worked : order.Worked e context s (.error error)) :
      Ended e order context (.error error) ⟨.rollback, .ok (), s⟩ (s.drop t)

/-- What telling a stage adds to the trail of an order. -/
def mark : Order → Transfer.Stage → Trail → Trail
  | .adjust .., _, trail => trail
  | .move .., stage, trail => trail.reach stage

/-- The stage that ends an attempt, if the order tells its stages. -/
def lastStage : Order → Transfer.Stage → List Transfer.Stage
  | .adjust .., _ => []
  | .move .., stage => [stage]

/-- Which stages an attempt tells that comes to a result. -/
def Told (order : Order) : Except LedgerError (Processed Receipt) → List Transfer.Stage → Prop
  | .ok ⟨_, true⟩, stages => stages = []
  | .ok ⟨_, false⟩, stages => stages = order.stages ++ order.lastStage .committed
  | .error _, stages => ∃ done, done <+: order.stages ∧ stages = done ++ order.lastStage .aborted

/-- Whether a result is a receipt that was not there before. -/
def isFresh : Except LedgerError (Processed Receipt) → Bool
  | .ok ⟨_, replayed⟩ => !replayed
  | .error _ => false

/-- How an attempt concludes that has begun after a trail: with the store and the trail that belong
to its end. -/
structure Concluded (e : Surroundings t) (order : Order) (context : Context) (trail : Trail)
    (result : Except LedgerError (Processed Receipt)) (trail' : Trail) (s' : Store) : Prop where
  /-- The end is one of the possible ones. -/
  ended : ∃ exchange calls, trail'.calls = exchange :: calls ∧ e.Meets exchange.store ∧
    order.Ended e context result exchange s'
  /-- Nothing else was published. -/
  published : trail'.published = (trail.published || isFresh result)
  /-- One more transaction has ended. -/
  more : trail'.ended = trail.ended + 1
  /-- The stages are those of the end. -/
  stages : ∃ stages, order.Told result stages ∧ trail'.stages = stages.reverse ++ trail.stages

/-- What an attempt promises: an order that gives to the account it takes from is refused without a
call, every other one concludes. -/
def Concludes (e : Surroundings t) (order : Order) (context : Context) (trail : Trail)
    (result : Except LedgerError (Processed Receipt)) (trail' : Trail) (s' : Store) : Prop :=
  (order.isCircular = true ∧ result = .error .invalidTarget ∧ trail' = trail) ∨
  (order.isCircular = false ∧ order.Concluded e context trail result trail' s')

/-! ## One attempt -/

@[simp] theorem calls_mark (order : Order) (stage : Transfer.Stage) (trail : Trail) :
    (order.mark stage trail).calls = trail.calls := by
  cases order <;> rfl

@[simp] theorem published_mark (order : Order) (stage : Transfer.Stage) (trail : Trail) :
    (order.mark stage trail).published = trail.published := by
  cases order <;> rfl

@[simp] theorem ended_mark (order : Order) (stage : Transfer.Stage) (trail : Trail) :
    (order.mark stage trail).ended = trail.ended := by
  cases order <;> rfl

theorem stages_mark (order : Order) (stage : Transfer.Stage) (trail : Trail) :
    (order.mark stage trail).stages = (order.lastStage stage).reverse ++ trail.stages := by
  cases order <;> rfl

/-- Closing the transaction after work that keeps its promise concludes the attempt. -/
theorem Promised.closes {α : Type} {inj : α → Receipt} {result : Except LedgerError (Progress α)}
    {trail' : Trail} (promised : order.Promised e context trail (result.map (·.map inj)) trail' s)
    (unpublished : trail.published = false) (more : trail.ended < limit) :
    Operation.Closes e (order.Duty e context limit) order.mark
      (fun result => order.Concluded e context trail
        (result.map fun p => ⟨inj p.receipt, p.replayed⟩)) result trail' s := by
  intro s₁ between
  obtain ⟨worked, stages, reached, reaches⟩ := promised
  have worked₁ := worked.of_others (e.rely between)
  have meets : e.Meets s₁ := ⟨s, between⟩
  have unpublished' : trail'.published = false := reaches.published.trans unpublished
  have more' : trail'.ended < limit := reaches.ended ▸ more
  -- Each way of closing the transaction is one end of the attempt.
  rcases result with error | receipt | receipt
  · refine ⟨⟨?_, ?_, trivial⟩, ⟨_, _, rfl, meets, .failed s₁ error worked₁⟩, ?_, ?_, ?_⟩
    · rw [published_mark, unpublished']
    · rw [ended_mark]
      exact more'
    · rw [Trail.published_add, published_mark, reaches.published]
      exact (Bool.or_false _).symm
    · rw [Trail.ended_add, ended_mark, reaches.ended]
      rfl
    · refine ⟨_, ⟨stages, reached, rfl⟩, ?_⟩
      rw [Trail.stages_add, stages_mark, reaches.stages, List.reverse_append, List.append_assoc]
  · refine ⟨⟨unpublished', more', trivial⟩,
      ⟨_, _, rfl, meets, .replayed s₁ (inj receipt) worked₁⟩, ?_, ?_, ?_⟩
    · rw [Trail.published_add, reaches.published]
      exact (Bool.or_false _).symm
    · rw [Trail.ended_add, reaches.ended]
      rfl
    · refine ⟨[], rfl, ?_⟩
      have none : stages = [] := reached
      rw [Trail.stages_add, reaches.stages, none]
  · have all : stages = order.stages := reached
    refine ⟨⟨unpublished', more', ?_⟩, fun free => ?_, fun reference own taken => ?_⟩
    · cases worked₁ with
      | applied receipt missed ready => exact ⟨_, ready⟩
    · refine ⟨⟨_, _, calls_mark _ _ _, meets, .published s₁ (inj receipt) worked₁ free⟩, ?_, ?_,
        ?_⟩
      · rw [published_mark, Trail.published_add, unpublished', unpublished]
        rfl
      · rw [ended_mark, Trail.ended_add, reaches.ended]
        rfl
      · refine ⟨_, rfl, ?_⟩
        rw [stages_mark, Trail.stages_add, reaches.stages, all, List.reverse_append,
          List.append_assoc]
    · refine ⟨⟨_, _, calls_mark _ _ _, meets,
        .collided s₁ (inj receipt) reference worked₁ own taken⟩, ?_, ?_, ?_⟩
      · rw [published_mark, Trail.published_add, reaches.published]
        exact (Bool.or_false _).symm
      · rw [ended_mark, Trail.ended_add, reaches.ended]
        rfl
      · refine ⟨_, ⟨stages, all ▸ List.prefix_rfl, rfl⟩, ?_⟩
        rw [stages_mark, Trail.stages_add, reaches.stages, List.reverse_append, List.append_assoc]

/-- Calls inside a transaction are allowed as long as nothing was published and few enough
transactions have ended. -/
theorem allows (unpublished : trail.published = false) (more : trail.ended < limit) :
    e.Allows (order.Duty e context limit) trail := by
  intro trail' c s' published ended inner meets
  refine ⟨published.trans unpublished, ended ▸ more, ?_⟩
  cases c <;> simp_all [Call.isInner]

/-- One attempt of an order does its duty and concludes. -/
theorem ensures_attempt (idle : s.transaction t = {}) (unpublished : trail.published = false)
    (more : trail.ended < limit) :
    (order.attempt context).run.Ensures e (order.Duty e context limit)
      (order.Concludes e context trail) trail s := by
  have begins {s' : Store} (between : e.between s s') :
      order.Duty e context limit trail .begin s' ∧ (s'.begin t).transaction t = {} :=
    ⟨⟨unpublished, more, (e.rely between).transaction.trans idle⟩,
      Store.transaction_update_self s' t {}⟩
  have within (s' : Store) : Trail.Within trail (trail.add .begin (.ok ()) s') :=
    (Trail.Within.refl trail).add (Or.inl rfl) _ s'
  cases order with
  | adjust direction order =>
    refine Operation.ensures_map ((Operation.ensures_inTransaction
      (Order.adjust direction order).mark (Q := fun result =>
        (Order.adjust direction order).Concluded e context trail
          (result.map fun p => ⟨.adjusted p.receipt, p.replayed⟩))
      (fun stage => id) fun s₁ between => ?_).mono (fun _ _ _ => id) fun _ _ _ h => Or.inr ⟨rfl, h⟩)
    obtain ⟨duty, begun⟩ := begins between
    have within := within s₁
    refine ⟨duty, (Adjustment.ensures_work ((allows unpublished more).within within) begun).mono
      (fun _ _ _ => id) fun result trail' s' promised => ?_⟩
    exact (promised.of_within within).closes unpublished more
  | move rates order =>
    by_cases circular : order.source = order.target
    · refine Operation.ensures_map ?_
      rw [Transfer.attempt, if_pos circular]
      exact Or.inl ⟨decide_eq_true circular, rfl, rfl⟩
    · have straight : (Order.move rates order).isCircular = false := decide_eq_false circular
      refine Operation.ensures_map ?_
      rw [Transfer.attempt, if_neg circular]
      refine (Operation.ensures_inTransaction (Order.move rates order).mark
        (Q := fun result => (Order.move rates order).Concluded e context trail
          (result.map fun p => ⟨.moved p.receipt, p.replayed⟩))
        (fun stage => id) fun s₁ between => ?_).mono (fun _ _ _ => id)
          fun _ _ _ h => Or.inr ⟨straight, h⟩
      obtain ⟨duty, begun⟩ := begins between
      have within := within s₁
      refine ⟨duty, (Transfer.ensures_work ((allows unpublished more).within within) begun
        circular).mono (fun _ _ _ => id) fun result trail' s' promised => ?_⟩
      exact (promised.of_within within).closes unpublished more

/-- The transaction of an attempt is not under way any more once the attempt has ended. -/
theorem Ended.live {result : Except LedgerError (Processed Receipt)} {exchange : Exchange}
    (ended : order.Ended e context result exchange s') : s'.live.get? t = none := by
  cases ended with
  | replayed => exact Table.get?_erase_self _ t
  | published => exact Table.get?_erase_self _ t
  | collided => exact Table.get?_erase_self _ t
  | failed => exact Table.get?_erase_self _ t

/-- So it holds nothing. -/
theorem Ended.idle {result : Except LedgerError (Processed Receipt)} {exchange : Exchange}
    (ended : order.Ended e context result exchange s') : s'.transaction t = {} :=
  Store.transaction_eq_of_gone ended.live

/-! ## Several attempts -/

/-- After an error worth another attempt the transaction is over. -/
theorem Concludes.idle {error : LedgerError} {trail' : Trail}
    (concludes : order.Concludes e context trail (.error error) trail' s')
    (retryable : error.isRetryable = true) :
    s'.transaction t = {} ∧ trail'.published = trail.published ∧ trail'.ended = trail.ended + 1 := by
  rcases concludes with ⟨-, refused, -⟩ | ⟨-, concluded⟩
  · cases refused
    simp [LedgerError.isRetryable] at retryable
  · obtain ⟨exchange, calls, -, -, ended⟩ := concluded.ended
    exact ⟨ended.idle, concluded.published.trans (Bool.or_false _), concluded.more⟩

/-- What several attempts of an order promise: the last of them concludes, and none before it
publishes anything. -/
def Settles (e : Surroundings t) (order : Order) (context : Context)
    (result : Except LedgerError (Processed Receipt)) (trail' : Trail) (s' : Store) : Prop :=
  ∃ trail, trail.published = false ∧ order.Concludes e context trail result trail' s'

/-- Each of several attempts of an order does its duty, and the last one concludes. -/
theorem ensures_attempts {backoff : Nat} (more number : Nat) (idle : s.transaction t = {})
    (unpublished : trail.published = false) (few : trail.ended + more < limit) :
    (Retry.attempts Script.pause backoff (order.attempt context).run more number).Ensures e
      (order.Duty e context limit) (order.Settles e context) trail s := by
  -- By induction on the attempts that are left after this one.
  induction more generalizing number trail s with
  | zero =>
    exact (ensures_attempt idle unpublished few).mono (fun _ _ _ => id)
      fun _ _ _ concludes => ⟨trail, unpublished, concludes⟩
  | succ more ih =>
    refine Script.ensures_bind.2 ((ensures_attempt idle unpublished (by omega)).mono
      (fun _ _ _ => id) fun result trail' s' concludes => ?_)
    cases retryable : Retry.isRetryable result with
    | false => exact ⟨trail, unpublished, concludes⟩
    | true =>
      cases result with
      | ok receipt => simp [Retry.isRetryable] at retryable
      | error error =>
        obtain ⟨idle', published', ended'⟩ := concludes.idle retryable
        exact ih (number + 1) idle' (published'.trans unpublished) (by omega)

/-- An order attempted as often as a policy allows does its duty, and the last attempt concludes. -/
theorem ensures_run (policy : Retry.Policy) (idle : s.transaction t = {})
    (unpublished : trail.published = false) (none : trail.ended = 0) :
    (policy.run Script.pause (order.attempt context).run).Ensures e
      (order.Duty e context (max 1 policy.maxAttempts)) (order.Settles e context) trail s :=
  ensures_attempts _ 1 idle unpublished (by omega)

end Order

open Operation (Progress)

/-! ## How many calls -/

namespace Adjustment

/-- What a deposit or a withdrawal does once its account is locked. -/
def draft (order : Adjustment) (direction : Direction) (context : Context) (available : Int) :
    Operation (Progress Receipt) := do
  let available ← Operation.ofExcept ((Balance.ofMinor available).mapError LedgerError.ofAmount)
  let change ← Operation.ofExcept (order.delta direction available)
  let balance ← Operation.ask (.apply order.account change)
  let receipt : Receipt := ⟨order.reference, order.account, order.amount.minor, balance⟩
  let completion : Completion :=
    { kind := direction.operation
      fingerprint := order.fingerprint
      outcome := receipt.toJson.canonical
      context := context
      recorded := ← Operation.clock }
  let _ ← Operation.ask (.append
    { account := order.account
      kind := direction.entry
      amount := order.amount.minor
      reference := some order.reference
      metadata := some completion.toMetadata })
  pure (.applied receipt)

/-- A deposit or a withdrawal looks its reference up, locks its account, and then does the rest. -/
theorem work_eq (order : Adjustment) (direction : Direction) (context : Context) :
    order.work direction context = (do
      match ← Operation.findCompleted order.reference direction.operation order.fingerprint with
      | some completion =>
        let receipt ← Operation.ofExcept
          ((completion.outcomeAs Receipt.ofJson? order.reference).mapError LedgerError.ofCompletion)
        pure (.replayed receipt)
      | none =>
        let locked ← Operation.ofStore (.lockAll [order.account])
        order.draft direction context ((locked.get? order.account).getD 0)) := rfl

/-- Once its account is locked, a deposit or a withdrawal moves it by its amount and writes one
entry. -/
theorem makes_draft {p : Call → Prop} {order : Adjustment} {direction : Direction}
    {context : Context} {available : Int}
    (applies : p (.apply order.account (direction.entry.signed order.amount.minor)))
    (appends : ∀ posting, p (.append posting)) :
    (order.draft direction context available).run.Makes p 2 := by
  refine Operation.makes_bind (m := 0) (n := 2) trivial fun available => ?_
  refine Operation.makes_ofExcept_bind fun change delta => ?_
  rw [delta_eq_ok delta]
  refine Operation.makes_bind (m := 1) (n := 1) (Operation.makes_ask applies) fun balance => ?_
  refine Operation.makes_bind (m := 0) (n := 1) (fun _ => trivial) fun recorded => ?_
  exact Operation.makes_bind (m := 1) (n := 0) (Operation.makes_ask (appends _))
    fun entry => trivial

end Adjustment

/-- Once its accounts are locked, a transfer takes its amount from one, gives what it converts to
to the other, and writes three entries. -/
theorem Transfer.makes_draft {p : Call → Prop} {order : Transfer} {rates : Rates}
    {context : Context} {available : Int}
    (debits : p (.apply order.source (-order.amount.minor)))
    (credits : ∀ conversion, order.convert rates = .ok conversion →
      p (.apply order.target conversion.converted))
    (appends : ∀ posting, p (.append posting)) :
    (order.draft rates context available).run.Makes p 5 := by
  refine Operation.makes_bind (m := 0) (n := 5) trivial fun _ => ?_
  refine Operation.makes_bind (m := 0) (n := 5) trivial fun _ => ?_
  refine Operation.makes_bind (m := 1) (n := 4) (Operation.makes_ask debits) fun sourceBalance => ?_
  refine Operation.makes_ofExcept_bind fun conversion converts => ?_
  refine Operation.makes_bind (m := 1) (n := 3) (Operation.makes_ask (credits _ converts))
    fun targetBalance => ?_
  refine Operation.makes_bind (m := 0) (n := 3) trivial fun _ => ?_
  refine Operation.makes_bind (m := 1) (n := 2) (Operation.makes_ask (appends _)) fun _ => ?_
  refine Operation.makes_bind (m := 1) (n := 1) (Operation.makes_ask (appends _)) fun _ => ?_
  refine Operation.makes_bind (m := 0) (n := 1) (fun _ => trivial) fun recorded => ?_
  refine Operation.makes_bind (m := 1) (n := 0) (Operation.makes_ask (appends _)) fun _ => ?_
  exact Operation.makes_bind (m := 0) (n := 0) trivial fun _ => trivial

namespace Order

variable {order : Order} {p : Call → Prop}

/-- Whether an order may move an account by so much. -/
def Shifts : Order → Account → Int → Prop
  | .adjust direction order, account, change =>
    account = order.account ∧ change = direction.entry.signed order.amount.minor
  | .move rates order, account, change =>
    account = order.source ∧ change = -order.amount.minor ∨
      account = order.target ∧
        ∃ conversion, order.convert rates = .ok conversion ∧ change = conversion.converted

/-- Whether all calls that an attempt of an order may make are of a kind. -/
structure Calls (order : Order) (p : Call → Prop) : Prop where
  /-- It begins its transaction. -/
  begins : p .begin
  /-- It looks for references. -/
  finds : ∀ reference, p (.find reference)
  /-- It locks its accounts. -/
  locks : ∀ account ∈ order.accounts, p (.lock account)
  /-- It gives them empty balances. -/
  creates : ∀ account ∈ order.accounts, p (.create account 0)
  /-- It moves them. -/
  applies : ∀ account change, order.Shifts account change → p (.apply account change)
  /-- It writes entries. -/
  appends : ∀ posting, p (.append posting)
  /-- It publishes its transaction. -/
  commits : p .commit
  /-- Or it gives it up. -/
  gives_up : p .rollback

/-- The accounts of an order are locked by calls about them. -/
theorem Calls.makes_lockAll (calls : order.Calls p) :
    (StoreScript.lockAll order.accounts).run.Makes p (3 * order.accounts.length) :=
  StoreScript.makes_lockAll calls.locks calls.creates

/-- One attempt of an order makes sixteen calls at most. -/
theorem Calls.makes_attempt (calls : order.Calls p) (context : Context) :
    (order.attempt context).run.Makes p 16 := by
  cases order with
  | adjust direction order =>
    refine Operation.makes_map (Script.Makes.mono (m := 6 + 2) ?_ (by decide))
    refine Operation.makes_inTransaction (fun stage => trivial) calls.begins calls.commits
      calls.gives_up ?_
    rw [Adjustment.work_eq]
    refine Operation.makes_recall (n := 5) (calls.finds _) ?_
    refine Operation.makes_bind (m := 3) (n := 2) (Operation.makes_ofStore calls.makes_lockAll)
      fun locked => ?_
    exact Adjustment.makes_draft (calls.applies _ _ ⟨rfl, rfl⟩) calls.appends
  | move rates order =>
    refine Operation.makes_map ?_
    rw [Transfer.attempt]
    split
    · trivial
    refine Operation.makes_inTransaction (fun stage => trivial) calls.begins calls.commits
      calls.gives_up (n := 14) ?_
    rw [Transfer.work_eq]
    refine Operation.makes_recall (n := 13) (calls.finds _) ?_
    refine Operation.makes_bind (m := 2) (n := 11)
      (Operation.makes_ensureUnclaimed fun reference _ => calls.finds reference) fun _ => ?_
    refine Operation.makes_bind (m := 0) (n := 11) trivial fun _ => ?_
    refine Operation.makes_bind (m := 6) (n := 5) (Operation.makes_ofStore calls.makes_lockAll)
      fun locked => ?_
    refine Operation.makes_bind (m := 0) (n := 5) trivial fun _ => ?_
    exact Transfer.makes_draft (calls.applies _ _ (Or.inl ⟨rfl, rfl⟩))
      (fun conversion converts =>
        calls.applies _ _ (Or.inr ⟨rfl, conversion, converts, rfl⟩)) calls.appends

/-- An order attempted as often as a policy allows makes sixteen calls an attempt at most. -/
theorem Calls.makes_run (calls : order.Calls p) (policy : Retry.Policy)
    (context : Context) : (policy.run Script.pause (order.attempt context).run).Makes p
      (max 1 policy.maxAttempts * 16) := by
  have attempts : max 1 policy.maxAttempts - 1 + 1 = max 1 policy.maxAttempts := by omega
  rw [← attempts]
  exact Retry.makes_attempts (calls.makes_attempt context) _ 1

/-- Whether a call needs no locks but those of the accounts of an order. -/
def Asks (order : Order) (c : Call) : Prop :=
  ∀ account, c.locks? = some account → account ∈ order.accounts

/-- An attempt of an order needs no locks but those of its accounts. -/
theorem calls_asks (order : Order) : order.Calls order.Asks where
  begins := nofun
  finds _ := nofun
  locks := by
    rintro account mem _ ⟨⟩
    exact mem
  creates := by
    rintro account mem _ ⟨⟩
    exact mem
  applies _ _ _ := nofun
  appends _ := nofun
  commits := nofun
  gives_up := nofun

/-- An order makes sixteen calls an attempt at most, and needs no locks but those of its
accounts. -/
theorem makes_run (order : Order) (policy : Retry.Policy) (context : Context) :
    (policy.run Script.pause (order.attempt context).run).Makes order.Asks
      (max 1 policy.maxAttempts * 16) :=
  order.calls_asks.makes_run policy context

end Order

end CurrencyLedger
