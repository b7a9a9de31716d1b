import CurrencyLedger.Proofs.Order.Balancing

/-! # The work of orders among others

What the work of a deposit, a withdrawal or a transfer comes to inside its transaction, whatever
others do to the store meanwhile.

* **`Order.Ready`** — the accounts are locked, and what their amounts make of the order is drafted;
* **`Order.Worked`** — all that the work can come to;
* **`Order.Worked.of_others`** — others change nothing about it;
* **`Transfer.Halts`** — why the work of a transfer may fail, by the stages it has told;
* **`Adjustment.ensures_work`**, **`Transfer.ensures_kept`** — nothing else happens. -/

namespace CurrencyLedger

open Operation (Progress)

/-- The same progress with another receipt. -/
def Operation.Progress.map {α β : Type} (f : α → β) : Progress α → Progress β
  | .replayed receipt => .replayed (f receipt)
  | .applied receipt => .applied (f receipt)

/-- What work repeats can be rewritten before or after. -/
theorem Operation.map_recalled {α β : Type} (f : α → β) (read : Json → Option α)
    (reference : String) (accepted : Except LedgerError Completion) :
    (recalled read reference accepted).map (·.map f) =
      (accepted >>= fun completion =>
        ((completion.outcomeAs read reference).mapError LedgerError.ofCompletion).map f).map
          Progress.replayed := by
  rw [recalled]
  cases accepted with
  | error error => rfl
  | ok completion =>
    simp only [bind, Except.bind]
    cases (completion.outcomeAs read reference).mapError LedgerError.ofCompletion with
    | error error => rfl
    | ok receipt => rfl

namespace Order

variable {t : TransactionId} {e : Surroundings t} {P : Trail → Call → Store → Prop} {trail : Trail}
  {s s' : Store} {order : Order} {context : Context}

/-- The references that an order uses. -/
def references (order : Order) : List String := order.reference :: order.sides

/-- Every account of an order is locked. -/
def Holds (order : Order) (t : TransactionId) (s : Store) : Prop :=
  ∀ account ∈ order.accounts, account ∈ (s.transaction t).held

/-- The accounts of an order are locked, and what their amounts make of it is drafted. -/
structure Ready (e : Surroundings t) (order : Order) (context : Context) (receipt : Receipt)
    (s : Store) : Prop where
  /-- The receipt is what the amounts make of the order. -/
  evaluated : order.evaluate s.amount = .ok receipt
  /-- Its balances and postings are drafted. -/
  drafted : ∃ recorded, e.shows recorded ∧
    s.Drafted t order.accounts s.amount (order.balances receipt)
      (order.postings receipt (order.completion receipt context recorded))

/-- All that the work of an order can come to. -/
inductive Worked (e : Surroundings t) (order : Order) (context : Context) (s : Store) :
    Except LedgerError (Progress Receipt) → Prop where
  /-- An entry under the reference keeps a receipt. -/
  | replayed (entry : Entry) (receipt : Receipt) (begun : s.transaction t = {})
      (found : Store.findEntry s.entries order.reference = some entry)
      (reads : order.receiptIn entry = .ok receipt) : Worked e order context s (.ok (.replayed receipt))
  /-- An entry under the reference keeps none. -/
  | repeated (entry : Entry) (error : LedgerError) (begun : s.transaction t = {})
      (found : Store.findEntry s.entries order.reference = some entry)
      (reads : order.receiptIn entry = .error error) : Worked e order context s (.error error)
  /-- An entry has the reference of a side, while none has one of those before it. -/
  | claimed (entry : Entry) (reference : String) (begun : s.transaction t = {})
      (missed : e.Missed order.reference) (side : reference ∈ order.sides)
      (found : Store.findEntry s.entries reference = some entry)
      (earlier : ∃ before after, order.sides = before ++ reference :: after ∧
        ∀ other ∈ before, e.Missed other) :
      Worked e order context s (.error (.idempotencyConflict reference))
  /-- Waiting for the lock of an account was in vain. -/
  | expired (account : Account) (s₁ : Store) (missed : ∀ r ∈ order.references, e.Missed r)
      (mem : account ∈ order.accounts) (meets : e.Meets s₁) (expires : e.expires s₁ account)
      (missing : account ∉ (s.transaction t).held) :
      Worked e order context s (.error (.ofStore (.lockTimeout account.text)))
  /-- An account belongs to no wallet, while those below it do. -/
  | homeless (before : List Account) (account : Account) (after : List Account) (s₁ : Store)
      (missed : ∀ r ∈ order.references, e.Missed r) (meets : e.Meets s₁)
      (split : Account.ascending order.accounts = before ++ account :: after)
      (owned : ∀ a ∈ before, s₁.hasWallet a.wallet = true)
      (unowned : s₁.hasWallet account.wallet = false) (held : account ∈ (s.transaction t).held)
      (unbalanced : s.balances.get? account = none) :
      Worked e order context s (.error (.ofStore (.walletNotFound account.wallet)))
  /-- The amounts of the accounts or the rates do not allow the order. -/
  | rejected (error : LedgerError) (missed : ∀ r ∈ order.references, e.Missed r)
      (owned : ∀ a ∈ order.accounts, s.hasWallet a.wallet = true) (held : order.Holds t s)
      (evaluated : order.evaluate s.amount = .error error) :
      Worked e order context s (.error error)
  /-- One of the references was taken in the meantime. -/
  | taken (receipt : Receipt) (entry : Entry) (reference : String)
      (missed : ∀ r ∈ order.references, e.Missed r) (held : order.Holds t s)
      (evaluated : order.evaluate s.amount = .ok receipt) (mem : reference ∈ order.references)
      (found : Store.findEntry s.entries reference = some entry) :
      Worked e order context s (.error (.ofStore (.duplicateReference reference)))
  /-- Everything is drafted. -/
  | applied (receipt : Receipt) (missed : ∀ r ∈ order.references, e.Missed r)
      (ready : order.Ready e context receipt s) : Worked e order context s (.ok (.applied receipt))

/-! ## What is ready to be published -/

/-- A draft that is ready is about to publish the balances of its order and nothing else. -/
theorem Ready.staged_eq {receipt : Receipt} (ready : order.Ready e context receipt s)
    (straight : order.isCircular = false) : (s.transaction t).staged = order.balances receipt := by
  obtain ⟨recorded, -, drafted⟩ := ready.drafted
  refine drafted.staged_eq fun account mem => ?_
  have updated := get?_balances straight ready.evaluated mem
  obtain ⟨balance, h, -⟩ := updated (order.completion receipt context recorded)
  rw [h]
  rfl

/-- A draft that is ready is about to publish the references of its order. -/
theorem Ready.ownReferences_eq {receipt : Receipt} (ready : order.Ready e context receipt s) :
    s.ownReferences t = order.sides ++ [order.reference] := by
  obtain ⟨recorded, -, drafted⟩ := ready.drafted
  rw [drafted.ownReferences_eq]
  cases order with
  | adjust direction order => rfl
  | move rates order =>
    obtain ⟨moved, -, rfl⟩ := map_eq_ok.1 ready.evaluated
    rfl

/-! ## Others change nothing about it -/

/-- What is locked stays locked. -/
theorem Holds.of_others (held : order.Holds t s) (others : Store.Others t s s') :
    order.Holds t s' := by
  intro account mem
  rw [others.transaction]
  exact held account mem

/-- While its accounts are locked, an order comes to the same. -/
theorem Holds.evaluate_eq (held : order.Holds t s) (others : Store.Others t s s') :
    order.evaluate s'.amount = order.evaluate s.amount :=
  evaluate_congr fun account mem => others.amount_eq (held account mem)

/-- A draft stays ready. -/
theorem Ready.of_others {receipt : Receipt} (ready : order.Ready e context receipt s)
    (others : Store.Others t s s') : order.Ready e context receipt s' := by
  obtain ⟨recorded, shows, drafted⟩ := ready.drafted
  have held : order.Holds t s := drafted.held
  refine ⟨?_, recorded, shows, (drafted.of_others others).rebase⟩
  rw [held.evaluate_eq others]
  exact ready.evaluated

/-- Whatever the work has come to, others change nothing about it. -/
theorem Worked.of_others {result : Except LedgerError (Progress Receipt)}
    (worked : order.Worked e context s result) (others : Store.Others t s s') :
    order.Worked e context s' result := by
  -- Each end rests on what is held, on what was published, or on what was seen before.
  have begun_of (begun : s.transaction t = {}) : s'.transaction t = {} :=
    others.transaction.trans begun
  have found_of {reference : String} {entry : Entry}
      (found : Store.findEntry s.entries reference = some entry) :
      Store.findEntry s'.entries reference = some entry :=
    Store.findEntry_eq_some_of_prefix others.entries found
  cases worked with
  | replayed entry receipt begun found reads =>
    exact .replayed entry receipt (begun_of begun) (found_of found) reads
  | repeated entry error begun found reads =>
    exact .repeated entry error (begun_of begun) (found_of found) reads
  | claimed entry reference begun missed side found earlier =>
    exact .claimed entry reference (begun_of begun) missed side (found_of found) earlier
  | expired account s₁ missed mem meets expires missing =>
    refine .expired account s₁ missed mem meets expires ?_
    rw [others.transaction]
    exact missing
  | homeless before account after s₁ missed meets split owned unowned held unbalanced =>
    refine .homeless before account after s₁ missed meets split owned unowned ?_ ?_
    · rw [others.transaction]
      exact held
    · rw [others.balances account held]
      exact unbalanced
  | rejected error missed owned held evaluated =>
    refine .rejected error missed (fun a mem => others.wallets _ (owned a mem))
      (held.of_others others) ?_
    rw [held.evaluate_eq others]
    exact evaluated
  | taken receipt entry reference missed held evaluated mem found =>
    refine .taken receipt entry reference missed (held.of_others others) ?_ mem (found_of found)
    rw [held.evaluate_eq others]
    exact evaluated
  | applied receipt missed ready => exact .applied receipt missed (ready.of_others others)

/-! ## What a draft makes of an order -/

section Drafted

variable {amounts : Account → Int} {balances : Table Account Int} {postings : List Posting}

/-- A draft whose amounts do not allow the order is rejected. -/
theorem Worked.of_error {error : LedgerError} (missed : ∀ r ∈ order.references, e.Missed r)
    (drafted : s.Drafted t order.accounts amounts balances postings)
    (evaluated : order.evaluate amounts = .error error) :
    order.Worked e context s (.error error) := by
  refine .rejected error missed drafted.owned drafted.held ?_
  rw [evaluate_congr drafted.known]
  exact evaluated

/-- A draft whose amounts allow the order stops at a reference that is taken. -/
theorem Worked.of_findEntry {receipt : Receipt} {reference : String} {entry : Entry}
    (missed : ∀ r ∈ order.references, e.Missed r)
    (drafted : s.Drafted t order.accounts amounts balances postings)
    (evaluated : order.evaluate amounts = .ok receipt) (mem : reference ∈ order.references)
    (found : Store.findEntry s.entries reference = some entry) :
    order.Worked e context s (.error (.ofStore (.duplicateReference reference))) := by
  refine .taken receipt entry reference missed drafted.held ?_ mem found
  rw [evaluate_congr drafted.known]
  exact evaluated

/-- A draft with everything that its amounts make of the order is ready. -/
theorem Worked.of_ok {receipt : Receipt} {recorded : Instant}
    (missed : ∀ r ∈ order.references, e.Missed r) (shows : e.shows recorded)
    (drafted : s.Drafted t order.accounts amounts (order.balances receipt)
      (order.postings receipt (order.completion receipt context recorded)))
    (evaluated : order.evaluate amounts = .ok receipt) :
    order.Worked e context s (.ok (.applied receipt)) := by
  refine .applied receipt missed ⟨?_, recorded, shows, drafted.rebase⟩
  rw [evaluate_congr drafted.known]
  exact evaluated

end Drafted

/-- Which stages are reached by work that comes to a result. -/
def Reached (order : Order) {α : Type} :
    Except LedgerError (Progress α) → List Transfer.Stage → Prop
  | .ok (.replayed _), stages => stages = []
  | .ok (.applied _), stages => stages = order.stages
  | .error _, stages => stages <+: order.stages

/-- What the work of an order promises: a result that it can come to, and the stages that belong to
it. -/
def Promised (e : Surroundings t) (order : Order) (context : Context) (trail : Trail)
    (result : Except LedgerError (Progress Receipt)) (trail' : Trail) (s : Store) : Prop :=
  order.Worked e context s result ∧
    ∃ stages, order.Reached result stages ∧ Trail.Reaches stages trail trail'

/-- What is promised after calls inside the transaction is promised from before them. -/
theorem Promised.of_within {trail₀ trail' : Trail} {result : Except LedgerError (Progress Receipt)}
    (promised : order.Promised e context trail result trail' s)
    (within : Trail.Within trail₀ trail) : order.Promised e context trail₀ result trail' s := by
  obtain ⟨worked, stages, reached, reaches⟩ := promised
  exact ⟨worked, stages, reached, within.reaches_of_reaches reaches⟩

/-- Work that finds an entry under its reference repeats what the entry keeps. -/
theorem Promised.of_found {trail' : Trail} {entry : Entry} (begun : s.transaction t = {})
    (found : Store.findEntry s.entries order.reference = some entry)
    (within : Trail.Within trail trail') :
    order.Promised e context trail ((order.receiptIn entry).map .replayed) trail' s := by
  cases reads : order.receiptIn entry with
  | error error =>
    exact ⟨.repeated entry error begun found reads, [], List.nil_prefix, within.reaches⟩
  | ok receipt => exact ⟨.replayed entry receipt begun found reads, [], rfl, within.reaches⟩

end Order

namespace Adjustment

variable {t : TransactionId} {e : Surroundings t} {P : Trail → Call → Store → Prop} {trail : Trail}
  {s s' : Store} {order : Adjustment} {direction : Direction} {context : Context}

/-- The work of a deposit or a withdrawal comes to what work can come to. -/
theorem ensures_work (allows : e.Allows P trail) (begun : s.transaction t = {}) :
    (order.work direction context).run.Ensures e P (fun result =>
      (Order.adjust direction order).Promised e context trail
        (result.map (·.map Order.Receipt.adjusted))) trail s := by
  unfold Adjustment.work
  have none_reached {trail' : Trail} (within : Trail.Within trail trail') (error : LedgerError) :
      ∃ stages, (Order.adjust direction order).Reached
        (.error error : Except LedgerError (Progress Order.Receipt)) stages ∧
        Trail.Reaches stages trail trail' :=
    ⟨[], List.nil_prefix, within.reaches⟩
  have within₁ (answer : Except StoreError (Option Entry)) (s₁ : Store) :
      Trail.Within trail (trail.add (.find order.reference) answer s₁) :=
    (Trail.Within.refl trail).add (c := .find order.reference) (Or.inr rfl) answer s₁
  refine Operation.ensures_recall (fun _ => allows.duty rfl) begun
    (fun s₁ between₁ begun₁ missed => ?_) fun s₁ entry between₁ begun₁ found => ?_
  · have within₁ := within₁ (.ok none) s₁
    have missed : ∀ r ∈ (Order.adjust direction order).references, e.Missed r := by
      rintro r mem
      rw [List.mem_singleton.1 mem]
      exact ⟨s₁, ⟨s, between₁⟩, missed⟩
    refine Operation.ensures_bind (Operation.ensures_ofStore (StoreScript.ensures_lockAll
      (allows.within within₁) begun₁ (fun trail₂ s₂ amounts within₂ locked => ?_)
      (fun trail₂ s₂ account within₂ meets mem expires => ?_)
      fun trail₂ s₂ before account after within₂ meets split owned homeless => ?_))
    · have within := within₁.trans within₂
      have mem : order.account ∈ (Order.adjust direction order).accounts := List.mem_singleton_self _
      have listed : (amounts.get? order.account).getD 0 = s₂.amount order.account := by
        rw [locked.listed order.account mem, Option.getD_some]
      -- From here on nothing depends on others but the references: the account is locked.
      refine Operation.ensures_bind (Operation.ensures_ofExcept ?_)
      rw [listed]
      cases balance : (Balance.ofMinor (s₂.amount order.account)).mapError LedgerError.ofAmount with
      | error error =>
        refine ⟨.of_error missed locked.toDrafted ?_, none_reached within _⟩
        simp only [Order.evaluate, Adjustment.evaluate, balance, bind, Except.bind, Except.map]
      | ok available =>
        refine Operation.ensures_bind (Operation.ensures_ofExcept ?_)
        cases change : order.delta direction available with
        | error error =>
          refine ⟨.of_error missed locked.toDrafted ?_, none_reached within _⟩
          simp only [Order.evaluate, Adjustment.evaluate, balance, change, bind, Except.bind,
            Except.map]
        | ok delta =>
          refine Operation.ensures_bind (Operation.ensures_apply (allows.within within)
            locked.toDrafted mem (Table.get?_empty _) (fun error trail₃ s₃ moved within₃ drafted => ?_)
            fun amount trail₃ s₃ moved within₃ drafted => ?_)
          · refine ⟨.of_error missed drafted ?_, none_reached (within.trans within₃) _⟩
            simp only [Order.evaluate, Adjustment.evaluate, balance, change, moved, bind,
              Except.bind, Except.map]
          · have within := within.trans within₃
            have evaluated : (Order.adjust direction order).evaluate s₂.amount = .ok
                (.adjusted ⟨order.reference, order.account, order.amount.minor, amount⟩) := by
              simp only [Order.evaluate, Adjustment.evaluate, balance, change, moved, bind,
                Except.bind, Except.map, pure, Except.pure]
            refine Operation.ensures_bind (Operation.ensures_clock fun recorded shows => ?_)
            refine Operation.ensures_bind (Operation.ensures_append (allows.within within) drafted mem
              rfl (by simp) (fun trail₄ s₄ entry within₄ drafted found => ?_)
              fun entry trail₄ s₄ within₄ drafted => ?_)
            · exact ⟨.of_findEntry missed drafted evaluated List.mem_cons_self found,
                none_reached (within.trans within₄) _⟩
            · exact ⟨.of_ok missed shows drafted evaluated, [], rfl, (within.trans within₄).reaches⟩
    · obtain ⟨s₀, between⟩ := meets
      exact ⟨.expired account s₂ missed mem ⟨s₀, between⟩ expires (e.missing between expires),
        none_reached (within₁.trans within₂) _⟩
    · exact ⟨.homeless before account after s₂ missed meets split owned homeless.unowned
        homeless.held homeless.unbalanced, none_reached (within₁.trans within₂) _⟩
  · rw [Operation.map_recalled]
    exact .of_found begun₁ found (within₁ _ s₁)

end Adjustment

namespace Transfer

variable {t : TransactionId} {e : Surroundings t} {P : Trail → Call → Store → Prop} {trail : Trail}
  {s s' : Store} {order : Transfer} {rates : Rates} {context : Context}

/-! ## The references of a transfer -/

theorem outgoing_ne_incoming (order : Transfer) : order.outgoing ≠ order.incoming := by
  intro h
  have := congrArg String.length h
  simp [outgoing, incoming, Reference.outgoing, Reference.incoming] at this
  exact absurd this (by decide)

theorem outgoing_ne_reference (order : Transfer) : order.outgoing ≠ order.reference := by
  intro h
  have := congrArg String.length h
  simp [outgoing, Reference.outgoing] at this

theorem incoming_ne_reference (order : Transfer) : order.incoming ≠ order.reference := by
  intro h
  have := congrArg String.length h
  simp [incoming, Reference.incoming] at this

/-! ## The work of a transfer -/

/-- What a transfer does once both accounts are locked. -/
def draft (order : Transfer) (rates : Rates) (context : Context) (available : Int) :
    Operation (Progress Receipt) := do
  Operation.ofExcept (order.checkFunds available)
  Operation.reach .validated
  let sourceBalance ← Operation.ask (.apply order.source (-order.amount.minor))
  let conversion ← Operation.ofExcept (order.convert rates)
  let targetBalance ← Operation.ask (.apply order.target conversion.converted)
  Operation.reach .mutated
  let _ ← Operation.ask (.append order.outgoingPosting)
  let _ ← Operation.ask (.append (order.incomingPosting conversion.converted))
  let receipt : Receipt :=
    ⟨order.reference, order.source.wallet, order.target.wallet, conversion, sourceBalance,
      targetBalance⟩
  let completion : Completion :=
    { kind := .transfer
      fingerprint := order.fingerprint
      outcome := receipt.toJson.canonical
      context := context
      recorded := ← Operation.clock }
  let _ ← Operation.ask (.append (order.recordPosting completion))
  Operation.reach .ledgerWritten
  pure (.applied receipt)

/-- A transfer looks its references up, locks both accounts, and then does the rest. -/
theorem work_eq (order : Transfer) (rates : Rates) (context : Context) :
    order.work rates context = (do
      match ← Operation.findCompleted order.reference .transfer order.fingerprint with
      | some completion =>
        let receipt ← Operation.ofExcept
          ((completion.outcomeAs Receipt.ofJson? order.reference).mapError LedgerError.ofCompletion)
        pure (.replayed receipt)
      | none =>
        Operation.ensureUnclaimed [order.outgoing, order.incoming]
        Operation.reach .idempotencyChecked
        let locked ← Operation.ofStore (.lockAll [order.source, order.target])
        Operation.reach .balancesLocked
        order.draft rates context ((locked.get? order.source).getD 0)) := rfl

/-- Why the work of a transfer may fail after how many of its stages, by what is stored then. -/
inductive Halts (t : TransactionId) (order : Transfer) (rates : Rates) (s : Store) :
    Nat → LedgerError → Prop where
  /-- An entry under the reference keeps no receipt. -/
  | repeated (entry : Entry) (error : LedgerError)
      (found : Store.findEntry s.entries order.reference = some entry)
      (reads : (Order.move rates order).receiptIn entry = .error error) :
      Halts t order rates s 0 error
  /-- An entry has the reference of a side. -/
  | claimed (reference : String) : Halts t order rates s 0 (.idempotencyConflict reference)
  /-- Waiting for the lock of an account was in vain. -/
  | expired (account : Account) :
      Halts t order rates s 1 (.ofStore (.lockTimeout account.text))
  /-- An account belongs to no wallet. -/
  | homeless (wallet : WalletId) : Halts t order rates s 1 (.ofStore (.walletNotFound wallet))
  /-- The source does not hold enough. -/
  | refused (error : LedgerError) (held : (Order.move rates order).Holds t s)
      (funds : order.checkFunds (s.amount order.source) = .error error) :
      Halts t order rates s 2 error
  /-- The source cannot be debited although it holds enough. -/
  | undebited (error : LedgerError) (held : (Order.move rates order).Holds t s)
      (funds : order.checkFunds (s.amount order.source) = .ok ())
      (debit : (Store.moved order.source (s.amount order.source) (-order.amount.minor)).mapError
        LedgerError.ofStore = .error error) : Halts t order rates s 3 error
  /-- The amount cannot be converted. -/
  | unconverted (error : LedgerError) (convert : order.convert rates = .error error) :
      Halts t order rates s 3 error
  /-- The target cannot be credited. -/
  | uncredited (error : LedgerError) (conversion : Conversion)
      (held : (Order.move rates order).Holds t s) (convert : order.convert rates = .ok conversion)
      (credit : (Store.moved order.target (s.amount order.target) conversion.converted).mapError
        LedgerError.ofStore = .error error) : Halts t order rates s 3 error
  /-- One of the references was taken in the meantime. -/
  | taken (reference : String) :
      Halts t order rates s 4 (.ofStore (.duplicateReference reference))

/-- Whyever the work of a transfer fails, others change nothing about it. -/
theorem Halts.of_others {n : Nat} {error : LedgerError} (halts : order.Halts t rates s n error)
    (others : Store.Others t s s') : order.Halts t rates s' n error := by
  -- What both accounts hold stays, for they are locked.
  have source (held : (Order.move rates order).Holds t s) :
      s'.amount order.source = s.amount order.source :=
    others.amount_eq (held _ List.mem_cons_self)
  have target (held : (Order.move rates order).Holds t s) :
      s'.amount order.target = s.amount order.target :=
    others.amount_eq (held _ (List.mem_cons_of_mem _ (List.mem_singleton_self _)))
  cases halts with
  | repeated entry error found reads =>
    exact .repeated entry error (Store.findEntry_eq_some_of_prefix others.entries found) reads
  | claimed reference => exact .claimed reference
  | expired account => exact .expired account
  | homeless wallet => exact .homeless wallet
  | refused error held funds => exact .refused error (held.of_others others) (source held ▸ funds)
  | undebited error held funds debit =>
    exact .undebited error (held.of_others others) (source held ▸ funds) (source held ▸ debit)
  | unconverted error convert => exact .unconverted error convert
  | uncredited error conversion held convert credit =>
    exact .uncredited error conversion (held.of_others others) convert (target held ▸ credit)
  | taken reference => exact .taken reference

/-- What the work of a transfer promises: a result that work can come to, after the stages that
belong to it. -/
def Kept (e : Surroundings t) (order : Transfer) (rates : Rates) (context : Context)
    (trail : Trail) (result : Except LedgerError (Progress Receipt)) (trail' : Trail)
    (s : Store) : Prop :=
  (Order.move rates order).Worked e context s (result.map (·.map Order.Receipt.moved)) ∧
    match result with
    | .ok (.replayed _) => Trail.Reaches [] trail trail'
    | .ok (.applied _) => Trail.Reaches (Order.move rates order).stages trail trail'
    | .error error => ∃ n, order.Halts t rates s n error ∧
        Trail.Reaches ((Order.move rates order).stages.take n) trail trail'

/-- What a transfer keeps is what orders promise. -/
theorem Kept.promised {result : Except LedgerError (Progress Receipt)} {trail' : Trail}
    (kept : order.Kept e rates context trail result trail' s) :
    (Order.move rates order).Promised e context trail
      (result.map (·.map Order.Receipt.moved)) trail' s := by
  obtain ⟨worked, told⟩ := kept
  rcases result with error | receipt | receipt
  · obtain ⟨n, -, reaches⟩ := told
    exact ⟨worked, _, List.take_prefix n _, reaches⟩
  · exact ⟨worked, [], rfl, told⟩
  · exact ⟨worked, _, rfl, told⟩

/-- A transfer that finds an entry under its reference repeats what the entry keeps. -/
theorem Kept.of_found {trail' : Trail} {entry : Entry} (begun : s.transaction t = {})
    (found : Store.findEntry s.entries order.reference = some entry)
    (within : Trail.Within trail trail') :
    order.Kept e rates context trail (Operation.recalled Receipt.ofJson? order.reference
      (Completion.accepted order.reference .transfer order.fingerprint entry)) trail' s := by
  have same : (Operation.recalled Receipt.ofJson? order.reference
      (Completion.accepted order.reference .transfer order.fingerprint entry)).map
        (·.map Order.Receipt.moved) = ((Order.move rates order).receiptIn entry).map .replayed :=
    Operation.map_recalled _ _ _ _
  have promised : (Order.move rates order).Promised e context trail
      (((Order.move rates order).receiptIn entry).map .replayed) trail' s :=
    .of_found begun found within
  rw [← same] at promised
  refine ⟨promised.1, ?_⟩
  rcases recalled : Operation.recalled Receipt.ofJson? order.reference
    (Completion.accepted order.reference .transfer order.fingerprint entry) with
      error | receipt | receipt
  · rw [recalled] at same
    exact ⟨0, .repeated entry error found (map_eq_error.1 same.symm), within.reaches⟩
  · exact within.reaches
  · -- What is recalled was never done now.
    rw [recalled] at same
    obtain ⟨_, -, impossible⟩ := map_eq_ok.1 same.symm
    cases impossible

/-- Once both accounts are locked, a transfer comes to what work can come to. -/
theorem ensures_draft {trail₀ : Trail} {accounts : Table Account Int}
    (allows : e.Allows P trail₀) (different : order.source ≠ order.target)
    (missed : ∀ r ∈ (Order.move rates order).references, e.Missed r)
    (reaches : Trail.Reaches ((Order.move rates order).stages.take 2) trail trail₀)
    (locked : s.Locked t [order.source, order.target] accounts) :
    (order.draft rates context (s.amount order.source)).run.Ensures e P
      (order.Kept e rates context trail) trail₀ s := by
  have source : order.source ∈ [order.source, order.target] := List.mem_cons_self
  have target : order.target ∈ [order.source, order.target] :=
    List.mem_cons_of_mem _ (List.mem_singleton_self _)
  -- Each step follows `Transfer.evaluate`: where it fails, so does the evaluation.
  unfold draft
  refine Operation.ensures_bind (Operation.ensures_ofExcept ?_)
  cases funds : order.checkFunds (s.amount order.source) with
  | error error =>
    refine ⟨.of_error missed locked.toDrafted ?_, 2, .refused error locked.held funds, reaches⟩
    simp only [Order.evaluate, Transfer.evaluate, funds, bind, Except.bind, Except.map]
  | ok _ =>
    refine Operation.ensures_bind (Operation.ensures_reach ?_)
    have reaches := reaches.reach .validated
    refine Operation.ensures_bind (Operation.ensures_apply (allows.reach _) locked.toDrafted source
      (Table.get?_empty _) (fun error trail₁ s₁ debit within₁ drafted => ?_)
      fun sourceBalance trail₁ s₁ debit within₁ drafted => ?_)
    · refine ⟨.of_error missed drafted ?_, 3, .undebited error drafted.held ?_ ?_,
        reaches.within within₁⟩
      · simp only [Order.evaluate, Transfer.evaluate, funds, debit, bind, Except.bind, Except.map]
      · rw [drafted.known _ source, funds]
      · rw [drafted.known _ source, debit]
    · have allows := (allows.reach .validated).within within₁
      have reaches := reaches.within within₁
      refine Operation.ensures_bind (Operation.ensures_ofExcept ?_)
      cases convert : order.convert rates with
      | error error =>
        refine ⟨.of_error missed drafted ?_, 3, .unconverted error convert, reaches⟩
        simp only [Order.evaluate, Transfer.evaluate, funds, debit, convert, bind, Except.bind,
          Except.map]
      | ok conversion =>
        refine Operation.ensures_bind (Operation.ensures_apply allows drafted target
          (Table.get?_insert_of_ne _ _ different.symm) (fun error trail₂ s₂ credit within₂ drafted => ?_)
          fun targetBalance trail₂ s₂ credit within₂ drafted => ?_)
        · refine ⟨.of_error missed drafted ?_, 3,
            .uncredited error conversion drafted.held convert ?_, reaches.within within₂⟩
          · simp only [Order.evaluate, Transfer.evaluate, funds, debit, convert, credit, bind,
              Except.bind, Except.map]
          · rw [drafted.known _ target, credit]
        · have allows := (allows.within within₂).reach .mutated
          have reaches := (reaches.within within₂).reach .mutated
          have evaluated : (Order.move rates order).evaluate s.amount = .ok (.moved
              ⟨order.reference, order.source.wallet, order.target.wallet, conversion, sourceBalance,
                targetBalance⟩) := by
            simp only [Order.evaluate, Transfer.evaluate, funds, debit, convert, credit, bind,
              Except.bind, Except.map, pure, Except.pure]
          -- Whichever reference is taken by now, the transfer fails in the same way.
          have taken {trail' : Trail} {s' : Store} {postings : List Posting} {entry : Entry}
              {reference : String} (mem : reference ∈ (Order.move rates order).references)
              (drafted : s'.Drafted t [order.source, order.target] s.amount
                ((Table.empty.insert order.source sourceBalance).insert order.target targetBalance)
                postings)
              (found : Store.findEntry s'.entries reference = some entry)
              (reaches : Trail.Reaches ((Order.move rates order).stages.take 4) trail trail') :
              order.Kept e rates context trail
                (.error (.ofStore (.duplicateReference reference))) trail' s' :=
            ⟨.of_findEntry missed drafted evaluated mem found, 4, .taken reference, reaches⟩
          refine Operation.ensures_bind (Operation.ensures_reach ?_)
          refine Operation.ensures_bind (Operation.ensures_append allows drafted source rfl (by simp)
            (fun trail₃ s₃ entry within₃ drafted found => ?_)
            fun entry trail₃ s₃ within₃ drafted => ?_)
          · exact taken (by simp [Order.references, Order.sides]) drafted found
              (reaches.within within₃)
          have allows := allows.within within₃
          have reaches := reaches.within within₃
          refine Operation.ensures_bind (Operation.ensures_append allows drafted target rfl ?_
            (fun trail₄ s₄ entry within₄ drafted found => ?_)
            fun entry trail₄ s₄ within₄ drafted => ?_)
          · simpa [outgoingPosting] using order.outgoing_ne_incoming
          · exact taken (by simp [Order.references, Order.sides]) drafted found
              (reaches.within within₄)
          have allows := allows.within within₄
          have reaches := reaches.within within₄
          refine Operation.ensures_bind (Operation.ensures_clock fun recorded shows => ?_)
          refine Operation.ensures_bind (Operation.ensures_append allows drafted source rfl ?_
            (fun trail₅ s₅ entry within₅ drafted found => ?_)
            fun entry trail₅ s₅ within₅ drafted => ?_)
          · simpa [outgoingPosting, incomingPosting] using
              ⟨order.outgoing_ne_reference, order.incoming_ne_reference⟩
          · exact taken List.mem_cons_self drafted found (reaches.within within₅)
          · refine Operation.ensures_bind (Operation.ensures_reach ?_)
            exact ⟨.of_ok missed shows drafted evaluated,
              (reaches.within within₅).reach .ledgerWritten⟩

/-- The work of a transfer between two accounts comes to what work can come to, after the stages
that belong to it. -/
theorem ensures_kept (allows : e.Allows P trail) (begun : s.transaction t = {})
    (different : order.source ≠ order.target) :
    (order.work rates context).run.Ensures e P (order.Kept e rates context trail) trail s := by
  have within₁ (answer : Except StoreError (Option Entry)) (s₁ : Store) :
      Trail.Within trail (trail.add (.find order.reference) answer s₁) :=
    (Trail.Within.refl trail).add (c := .find order.reference) (Or.inr rfl) answer s₁
  rw [work_eq]
  refine Operation.ensures_recall (fun _ => allows.duty rfl) begun
    (fun s₁ between₁ begun₁ missed => ?_) fun s₁ entry between₁ begun₁ found => ?_
  · have within₁ := within₁ (.ok none) s₁
    refine Operation.ensures_bind (Operation.ensures_ensureUnclaimed (allows.within within₁) begun₁
      (fun trail₂ s₂ within₂ begun₂ free => ?_)
      fun trail₂ s₂ reference entry within₂ begun₂ side found earlier => ?_)
    · have within := within₁.trans within₂
      have missed : ∀ r ∈ (Order.move rates order).references, e.Missed r := by
        intro r mem
        rcases List.mem_cons.1 mem with rfl | mem
        · exact ⟨s₁, ⟨s, between₁⟩, missed⟩
        · exact free r mem
      have allows := (allows.within within).reach .idempotencyChecked
      have reaches := within.reaches.reach .idempotencyChecked
      refine Operation.ensures_bind (Operation.ensures_reach ?_)
      refine Operation.ensures_bind (Operation.ensures_ofStore (StoreScript.ensures_lockAll
        allows begun₂ (fun trail₃ s₃ amounts within₃ locked => ?_)
        (fun trail₃ s₃ account within₃ meets mem expires => ?_)
        fun trail₃ s₃ before account after within₃ meets split owned homeless => ?_))
      · have listed : (amounts.get? order.source).getD 0 = s₃.amount order.source := by
          rw [locked.listed order.source List.mem_cons_self, Option.getD_some]
        refine Operation.ensures_bind (Operation.ensures_reach ?_)
        show Script.Ensures e P _ (order.draft rates context ((amounts.get? order.source).getD 0)).run
          _ _
        rw [listed]
        exact ensures_draft ((allows.within within₃).reach .balancesLocked) different missed
          ((reaches.within within₃).reach .balancesLocked) locked
      · obtain ⟨s₀, between⟩ := meets
        exact ⟨.expired account s₃ missed mem ⟨s₀, between⟩ expires (e.missing between expires),
          1, .expired account, reaches.within within₃⟩
      · exact ⟨.homeless before account after s₃ missed meets split owned homeless.unowned
          homeless.held homeless.unbalanced, 1, .homeless account.wallet, reaches.within within₃⟩
    · exact ⟨.claimed entry reference begun₂ ⟨s₁, ⟨s, between₁⟩, missed⟩ side found earlier,
        0, .claimed reference, (within₁.trans within₂).reaches⟩
  · exact .of_found begun₁ found (within₁ _ s₁)

/-- The work of a transfer between two accounts comes to what work can come to. -/
theorem ensures_work (allows : e.Allows P trail) (begun : s.transaction t = {})
    (different : order.source ≠ order.target) :
    (order.work rates context).run.Ensures e P (fun result =>
      (Order.move rates order).Promised e context trail
        (result.map (·.map Order.Receipt.moved))) trail s :=
  (ensures_kept allows begun different).mono (fun _ _ _ => id) fun _ _ _ => Kept.promised

end Transfer

end CurrencyLedger
