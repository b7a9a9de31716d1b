import CurrencyLedger.Proofs.Operation.Relaying
import CurrencyLedger.Proofs.Order.Legible
import CurrencyLedger.Proofs.World.Once
import CurrencyLedger.Proofs.World.Replay
import CurrencyLedger.Proofs.World.Serial

/-! # Services that nobody disturbs

A ledger that is used by one caller after another never fails through its store: what it looks up
stays as it is while it goes on, so no lock is missed and no reference is taken in the meantime,
and what it has written before can be read. Whatever error it answers with, the request is at fault.

* **`Order.Ended.isClientError`** — if an attempt that is alone fails, the request is at fault;
* **`Script.refusals`** — the errors that a store answers the calls of a script with;
* **`Serial.Calm`** — no transaction is under way, and every entry can be read;
* **`Serial.Smooth`** — a script that begins when everything is calm goes on without errors of
  storage, and leaves everything calm;
* **`Serial.tally`**, **`Serial.Smooth.carryOut`** — an order is attempted once;
* **`Ledger.Service`**, **`Serial.attend`** — what a ledger does for its callers, one after another;
* **`Serial.attend_undisturbed`** — so no service fails through storage. -/

namespace CurrencyLedger

/-! ## Ends of attempts that are alone -/

namespace Order

variable {order : Order} {context : Context} {receipt : Receipt} {entry : Entry} {s s' x : Store}
  {t : TransactionId} {clock : Nat → Instant} {exchange : Exchange}

/-- If the work of an order that is alone fails, the request is at fault. -/
theorem Worked.isClientError {error : LedgerError}
    (worked : order.Worked (.alone clock s.books t) context x (.error error))
    (same : x.books = s.books) (legible : ∀ entry ∈ s.entries, entry.Legible) :
    error.isClientError = true := by
  have entries : x.entries = s.entries := congrArg Store.Books.entries same
  cases worked with
  | repeated entry error begun found reads =>
    rw [entries] at found
    exact legible entry (Store.mem_of_findEntry_eq_some found).1 order error reads
  | claimed entry reference begun missed side found => rfl
  | expired account s₁ missed mem meets expires missing => exact expires.elim
  | homeless before account after s₁ missed meets split owned unowned held unbalanced => rfl
  | rejected error missed owned held refused => exact isClientError_of_evaluate refused
  | taken receipt entry reference missed held evaluated mem found =>
    -- The reference was free when it was looked up, and nothing has happened since.
    rw [entries, findEntry_of_missed (missed reference mem)] at found
    cases found

/-- If an attempt that is alone fails, the request is at fault. -/
theorem Ended.isClientError {error : LedgerError}
    (ended : order.Ended (.alone clock s.books t) context (.error error) exchange s')
    (same : exchange.store.books = s.books) (sound : s.Sound)
    (legible : ∀ entry ∈ s.entries, entry.Legible) : error.isClientError = true := by
  cases ended with
  | collided x receipt reference worked own taken =>
    -- The references were free when they were looked up, so there is no such end.
    have references : x.references = s.references := congrArg Store.Books.references same
    cases worked with
    | applied receipt missed ready =>
      rw [ready.ownReferences_eq, List.mem_append, List.mem_singleton] at own
      have free := findEntry_of_missed (missed reference (List.mem_cons.2 own.symm))
      rw [references, ← sound.isSome_findEntry, free] at taken
      cases taken
  | failed x error worked => exact worked.isClientError same legible

/-- The end of an attempt that is alone leaves legible entries behind. -/
theorem Ended.legible {result : Except LedgerError (Processed Receipt)}
    (ended : order.Ended (.alone clock s.books t) context result exchange s')
    (same : exchange.store.books = s.books) (legible : ∀ entry ∈ s.entries, entry.Legible)
    (countable : order.Countable) (user : ∀ n ∈ context.user, Decimal.isInt64 n = true)
    (datable : ∀ ticks, World.Datable (clock ticks)) : ∀ entry ∈ s'.entries, entry.Legible := by
  have entries : exchange.store.entries = s.entries := congrArg Store.Books.entries same
  have kept : ∀ entry ∈ exchange.store.entries, entry.Legible := by
    rw [entries]
    exact legible
  cases ended with
  | replayed => exact kept
  | collided => exact kept
  | failed => exact kept
  | published x receipt worked free =>
    cases worked with
    | applied receipt missed ready =>
      refine ready.legible kept countable user ?_
      rintro now ⟨ticks, rfl⟩
      exact datable ticks

end Order

/-! ## Attempts that are not repeated -/

namespace Retry

variable {α : Type}

/-- Attempts of a script are carried out as attempts of what is carried out for it. -/
theorem interpret_attempts {m : Type → Type} [Monad m] [LawfulMonad m] (h : Script.Handlers m)
    (backoff : Nat) (operation : Script (Except LedgerError α)) (more number : Nat) :
    (attempts Script.pause backoff operation more number).interpret h =
      attempts h.sleep backoff (operation.interpret h) more number := by
  induction more generalizing number with
  | zero => rfl
  | succ more ih =>
    rw [attempts, attempts, Script.interpret_bind]
    refine bind_congr fun result => ?_
    split
    · rw [Script.interpret_bind, ih]
      simp [Script.pause, Script.interpret]
    · rfl

/-- After an attempt whose result is not worth another one there is none. -/
theorem run_eq_of_final {σ : Type} {sleep : Nat → StateM σ Unit}
    {operation : StateM σ (Except LedgerError α)} {s : σ} (policy : Policy)
    (final : isRetryable (operation.run s).1 = false) :
    (policy.run sleep operation).run s = operation.run s := by
  rw [Policy.run]
  cases max 1 policy.maxAttempts - 1 with
  | zero => rfl
  | succ more =>
    rw [attempts, StateT.run_bind]
    show (if isRetryable (operation.run s).1 = true then _ else pure (operation.run s).1 :
      StateM σ (Except LedgerError α)).run (operation.run s).2 = _
    rw [final]
    rfl

end Retry

/-! ## Calls that are refused -/

namespace Script

variable {α β ε : Type} {clock : Nat → Instant}

/-- The errors that a store answers with while a script is carried out and nobody else uses it. -/
def refusals (clock : Nat → Instant) : Script α → Serial → List StoreError
  | .done _, _ => []
  | .call c next, serial =>
    let answered := ((Serial.handlers clock).call c).run serial
    (match answered.1 with
      | .error error => [error]
      | .ok _ => []) ++ (next answered.1).refusals clock answered.2
  | .sleep _ next, serial => next.refusals clock serial
  | .advance _ next, serial => next.refusals clock serial
  | .now next, serial =>
    (next (clock serial.ticks)).refusals clock ⟨serial.store, serial.ticks + 1⟩

/-- Scripts in a row are refused the calls of one and then those of the other. -/
theorem refusals_bind (script : Script α) (f : α → Script β) (serial : Serial) :
    (script >>= f).refusals clock serial = script.refusals clock serial ++
      (f ((script.interpret (Serial.handlers clock)).run serial).1).refusals clock
        ((script.interpret (Serial.handlers clock)).run serial).2 := by
  induction script generalizing serial with
  | done a => rfl
  | call c next ih =>
    rw [call_bind, refusals, refusals, List.append_assoc]
    exact congrArg _ (ih _ _)
  | sleep ms next ih => exact ih serial
  | advance stage next ih => exact ih serial
  | now next ih => exact ih _ _

/-- What holds of every result of a script holds of the one that it comes to. -/
theorem Always.interpret {Q : α → Prop} {script : Script α} (always : script.Always Q)
    (serial : Serial) : Q ((script.interpret (Serial.handlers clock)).run serial).1 := by
  induction script generalizing serial with
  | done a => exact always
  | call c next ih => exact ih _ (always _) _
  | sleep ms next ih => exact ih always serial
  | advance stage next ih => exact ih always serial
  | now next ih => exact ih _ (always _) _

/-- A script that passes errors on comes to whatever error it is answered with. -/
theorem Relays.eq_of_mem_refusals {inj : StoreError → ε} {script : Script (Except ε α)}
    {serial : Serial} {error : StoreError} (relays : script.Relays inj)
    (mem : error ∈ script.refusals clock serial) :
    ((script.interpret (Serial.handlers clock)).run serial).1 = .error (inj error) := by
  induction script generalizing serial with
  | done a => cases mem
  | call c next ih =>
    rw [refusals, List.mem_append] at mem
    rcases mem with mem | mem
    · -- Giving up a transaction is never refused, and every other error is passed on.
      have counts : c ≠ .rollback := by
        rintro rfl
        cases mem
      cases answer : (((Serial.handlers clock).call c).run serial).1 with
      | ok _ =>
        rw [answer] at mem
        cases mem
      | error refused =>
        rw [answer] at mem
        obtain rfl := List.mem_singleton.1 mem
        have passed := relays.1 counts error
        rw [← answer] at passed
        exact passed.interpret _
    · exact ih _ (relays.2 _) mem
  | sleep ms next ih => exact ih relays mem
  | advance stage next ih => exact ih relays mem
  | now next ih => exact ih _ (relays _) mem

end Script

/-! ## Orders one after another -/

namespace Order

variable {order : Order} {context : Context}

/-- An attempt of an order that gives to the account that it takes from makes no call. -/
theorem attempt_of_isCircular (circular : order.isCircular = true) :
    (order.attempt context).run = .done (.error .invalidTarget) := by
  cases order with
  | adjust direction order => cases circular
  | move rates order =>
    have same : order.source = order.target := of_decide_eq_true circular
    rw [attempt, Transfer.attempt, if_pos same]
    rfl

end Order

namespace Serial

variable {α β : Type} {serial : Serial} {clock : Nat → Instant} {order : Order} {context : Context}

/-- Between services that are given one after another no transaction is under way, and every entry
is legible. -/
structure Calm (serial : Serial) : Prop extends serial.Idle where
  /-- Every entry can be read. -/
  legible : ∀ entry ∈ serial.store.entries, entry.Legible

/-- At the beginning there is nothing. -/
theorem calm_empty : Calm {} :=
  ⟨⟨Store.Sound.empty, fun _ => rfl⟩, fun _ mem => absurd mem List.not_mem_nil⟩

/-- Whether a script goes smoothly when nobody else uses the store: if it fails, or one of its calls
is refused, the request is at fault, and everything is calm again afterwards. -/
structure Smooth (clock : Nat → Instant) (script : Script (Except LedgerError α))
    (serial : Serial) : Prop where
  /-- An error is the fault of the request. -/
  client : ∀ error, ((script.interpret (handlers clock)).run serial).1 = .error error →
    error.isClientError = true
  /-- A call that is refused is the fault of the request, too. -/
  refusals : ∀ error ∈ script.refusals clock serial,
    (LedgerError.ofStore error).isClientError = true
  /-- No transaction is under way afterwards, and every entry is legible. -/
  calm : ((script.interpret (handlers clock)).run serial).2.Calm

namespace Smooth

/-- A script that passes errors on refuses nothing but what it comes to. -/
theorem of_relays {script : Script (Except LedgerError α)}
    (relays : script.Relays LedgerError.ofStore)
    (client : ∀ error, ((script.interpret (handlers clock)).run serial).1 = .error error →
      error.isClientError = true)
    (calm : ((script.interpret (handlers clock)).run serial).2.Calm) :
    Smooth clock script serial :=
  ⟨client, fun _ mem => client _ (relays.eq_of_mem_refusals mem), calm⟩

/-- A result or an error of the request that is known already. -/
theorem done {result : Except LedgerError α} (calm : serial.Calm)
    (client : ∀ error, result = .error error → error.isClientError = true) :
    Smooth clock (.done result) serial :=
  ⟨client, fun _ mem => absurd mem List.not_mem_nil, calm⟩

/-- A result that is known already. -/
theorem ok (calm : serial.Calm) (a : α) :
    Smooth clock (.done (.ok a : Except LedgerError α)) serial :=
  done calm fun _ same => by cases same

/-- Scripts that may fail go smoothly in a row. -/
theorem bind {x : Operation α} {f : α → Operation β} (smooth : Smooth clock x.run serial)
    (rest : ∀ a serial', serial'.Calm → Smooth clock (f a).run serial') :
    Smooth clock (x >>= f).run serial := by
  obtain ⟨client, refusals, calm⟩ := smooth
  -- What follows is the rest, or nothing but the error.
  have goes : Smooth clock
      (ExceptT.bindCont f ((x.run.interpret (handlers clock)).run serial).1)
      ((x.run.interpret (handlers clock)).run serial).2 := by
    cases result : ((x.run.interpret (handlers clock)).run serial).1 with
    | ok a => exact rest a _ calm
    | error error => exact done calm fun _ same => Except.error.inj same ▸ client error result
  have run : (x >>= f).run = x.run >>= ExceptT.bindCont f := rfl
  rw [run]
  refine ⟨?_, fun error mem => ?_, ?_⟩
  · rw [Script.interpret_bind, StateT.run_bind]
    exact goes.client
  · rw [Script.refusals_bind] at mem
    exact (List.mem_append.1 mem).elim (refusals error) (goes.refusals error)
  · rw [Script.interpret_bind, StateT.run_bind]
    exact goes.calm

/-- A rewritten result changes nothing about it. -/
theorem map {x : Operation α} (f : α → β) (smooth : Smooth clock x.run serial) :
    Smooth clock (f <$> x).run serial := by
  rw [map_eq_pure_bind]
  exact smooth.bind fun _ _ calm => ok calm _

end Smooth

/-- Asking for a report goes smoothly. -/
theorem Calm.ask {c : Call} (calm : serial.Calm) (report : c.isReport = true) :
    Smooth clock (Operation.ask c).run serial := by
  refine .of_relays (Operation.relays_ask c) ?_ ?_
  · intro error failed
    cases c <;> first | cases failed | cases report
  · cases c <;> first | exact ⟨⟨calm.sound, calm.live⟩, calm.legible⟩ | cases report

/-- An attempt of an order goes smoothly. -/
theorem Calm.attempt (calm : serial.Calm) (countable : order.Countable)
    (user : ∀ n ∈ context.user, Decimal.isInt64 n = true)
    (datable : ∀ ticks, World.Datable (clock ticks)) :
    Smooth clock (order.attempt context).run serial := by
  by_cases circular : order.isCircular = true
  · rw [Order.attempt_of_isCircular circular]
    refine .done calm ?_
    rintro _ ⟨⟩
    rfl
  have blank : serial.store.transaction 0 = {} := Store.transaction_eq_of_gone (calm.live 0)
  have ensures (e : Surroundings 0) : (order.attempt context).run.Ensures e
      (order.Duty e context 1) (order.Concludes e context {}) {} serial.store :=
    Order.ensures_attempt blank rfl Nat.one_pos
  obtain ⟨trail, concludes, sound, quiet⟩ := Script.Ensures.interpret clock (ensures _) (ensures _)
    (fun _ _ _ duty => duty.1) calm.sound (fun t _ => calm.live t) fun _ => rfl
  rcases concludes with ⟨refused, -⟩ | ⟨-, concluded⟩
  · exact absurd refused circular
  obtain ⟨exchange, calls, -, meets, ended⟩ := concluded.ended
  refine .of_relays (order.relays_attempt context) (fun error failed => ?_)
    ⟨⟨sound, quiet.live ended.live⟩,
      ended.legible meets.books calm.legible countable user datable⟩
  rw [failed] at ended
  exact ended.isClientError meets.books calm.sound calm.legible

/-- What goes smoothly is not worth another attempt. -/
theorem Smooth.isRetryable {script : Script (Except LedgerError α)}
    (smooth : Smooth clock script serial) :
    Retry.isRetryable ((script.interpret (handlers clock)).run serial).1 = false := by
  have client := smooth.client
  cases result : ((script.interpret (handlers clock)).run serial).1 with
  | ok processed => rfl
  | error error =>
    cases retryable : error.isRetryable with
    | false => exact retryable
    | true =>
      have fault := client error result
      rw [LedgerError.isClientError_of_isRetryable retryable] at fault
      cases fault

/-- Carries an order out as often as a policy allows, and counts the attempts. -/
def tally (clock : Nat → Instant) (policy : Retry.Policy) (order : Order) (context : Context) :
    StateM (Nat × Serial) (Except LedgerError (Processed Order.Receipt)) :=
  policy.run (fun _ => pure ()) fun counted =>
    let done := ((order.attempt context).run.interpret (handlers clock)).run counted.2
    (done.1, counted.1 + 1, done.2)

/-- An order whose first attempt goes smoothly is attempted once, whatever the policy is. -/
theorem Smooth.carryOut (policy : Retry.Policy)
    (smooth : Smooth clock (order.attempt context).run serial) :
    Smooth clock (order.carryOut policy context).run serial ∧
    (tally clock policy order context).run (0, serial) =
      let done := ((order.carryOut policy context).run.interpret (handlers clock)).run serial
      (done.1, 1, done.2) := by
  have final := smooth.isRetryable
  have once : ((order.carryOut policy context).run.interpret (handlers clock)).run serial =
      ((order.attempt context).run.interpret (handlers clock)).run serial := by
    rw [Order.carryOut, ExceptT.run_mk, Retry.Policy.run, Retry.interpret_attempts]
    exact Retry.run_eq_of_final policy final
  have refusals : (order.carryOut policy context).run.refusals clock serial =
      (order.attempt context).run.refusals clock serial := by
    rw [Order.carryOut, ExceptT.run_mk, Retry.Policy.run]
    cases max 1 policy.maxAttempts - 1 with
    | zero => rfl
    | succ more =>
      rw [Retry.attempts, Script.refusals_bind, final]
      exact List.append_nil _
  obtain ⟨client, refused, calm⟩ := smooth
  rw [← once] at client calm
  rw [← refusals] at refused
  refine ⟨⟨client, refused, calm⟩, ?_⟩
  rw [once]
  exact Retry.run_eq_of_final policy final

end Serial

/-! ## Requests -/

namespace LedgerError

/-- That a text is no currency is the fault of the request. -/
theorem isClientError_of_currency {α : Type} {x : Except CurrencyError α} {error : LedgerError}
    (h : x.mapError ofCurrency = .error error) : error.isClientError = true := by
  obtain ⟨other, -, rfl⟩ := mapError_eq_error.1 h
  rfl

/-- That a text is no reference is the fault of the request. -/
theorem isClientError_of_reference {reference : String} {error : LedgerError}
    (h : checkReference reference = .error error) : error.isClientError = true := by
  rw [checkReference] at h
  split at h
  · cases h
    rfl
  · cases h

/-- That a text is no name for a wallet is the fault of the request. -/
theorem isClientError_of_walletName {name : String} {error : LedgerError}
    (h : Ledger.walletName name = .error error) : error.isClientError = true := by
  rw [Ledger.walletName] at h
  generalize (if (Text.trim name).isEmpty then "Main" else Text.trim name) = chosen at h
  split at h
  · cases h
    rfl
  · cases h

end LedgerError

namespace Demand

/-- That no order can be made of a demand is the fault of the request. -/
theorem isClientError_of_order {l : Ledger} {demand : Demand} {error : LedgerError}
    (h : demand.order l = .error error) : error.isClientError = true := by
  cases demand with
  | adjust direction order => cases h
  | adjustRequest direction asked =>
    have h := map_eq_error.1 h
    rcases bind_eq_error.1 h with h | ⟨currency, -, h⟩
    · exact LedgerError.isClientError_of_currency h
    rcases bind_eq_error.1 h with h | ⟨amount, -, h⟩
    · exact LedgerError.isClientError_of_isRefusal (LedgerError.isRefusal_of_amount h)
    rcases bind_eq_error.1 h with h | ⟨_, -, h⟩
    · exact LedgerError.isClientError_of_reference h
    · cases h
  | move order => cases h
  | moveRequest asked =>
    have h := map_eq_error.1 h
    rcases bind_eq_error.1 h with h | ⟨source, -, h⟩
    · exact LedgerError.isClientError_of_currency h
    rcases bind_eq_error.1 h with h | ⟨target, -, h⟩
    · exact LedgerError.isClientError_of_currency h
    rcases bind_eq_error.1 h with h | ⟨amount, -, h⟩
    · exact LedgerError.isClientError_of_isRefusal (LedgerError.isRefusal_of_amount h)
    rcases bind_eq_error.1 h with h | ⟨_, -, h⟩
    · exact LedgerError.isClientError_of_reference h
    split at h
    · cases h
      rfl
    · cases h

end Demand

/-! ## Services -/

/-- What a ledger does for its callers. -/
inductive Ledger.Service where
  /-- Makes a wallet for a user. -/
  | createWallet (user : UserId) (name : String)
  /-- Moves money. A context without an identifier gets the fresh one. -/
  | carryOut (demand : Demand) (context : Context) (fresh : Uuid)
  /-- Tells of a wallet and what its accounts hold. -/
  | statement (wallet : WalletId)
  /-- Tells the newest entries of a wallet. -/
  | history (wallet : WalletId) (limit : Int)
  /-- Compares balances and entries. -/
  | reconcile

namespace Ledger.Service

/-- What is done for a service. -/
def operation (l : Ledger) : Service → Operation Reply
  | .createWallet user name => Reply.wallet <$> Ledger.createWallet user name
  | .carryOut demand context fresh => Reply.processed <$> demand.operation l context fresh
  | .statement wallet => Reply.statement <$> Ledger.statement wallet
  | .history wallet limit => Reply.history <$> Ledger.history wallet limit
  | .reconcile => Reply.report <$> Audit.reconcile

/-- Whether the numbers of wallets and users that a service moves money for are of 64 bits. -/
def Countable (l : Ledger) : Service → Prop
  | .carryOut demand context _ => (∀ order, demand.order l = .ok order → order.Countable) ∧
    ∀ n ∈ context.user, Decimal.isInt64 n = true
  | _ => True

end Ledger.Service

namespace Serial

variable {serial : Serial} {clock : Nat → Instant} {l : Ledger} {service : Ledger.Service}

-- How a name is chosen does not matter here, and must not be computed.
seal Ledger.walletName

/-- Looking a wallet up that has to exist goes smoothly. -/
theorem Calm.existing (calm : serial.Calm) (wallet : WalletId) :
    Smooth clock (Ledger.existing wallet).run serial := by
  refine (calm.ask rfl).bind fun found serial' calm => ?_
  cases found with
  | none => exact .done calm fun _ same => Except.error.inj same ▸ rfl
  | some wallet => exact .ok calm wallet

/-- Every service goes smoothly. -/
theorem Calm.serve (calm : serial.Calm) (countable : service.Countable l)
    (datable : ∀ ticks, World.Datable (clock ticks)) :
    Smooth clock (service.operation l).run serial := by
  cases service with
  | createWallet user name =>
    rw [Ledger.Service.operation, Ledger.createWallet]
    refine .map _ (.bind (.done calm fun error => LedgerError.isClientError_of_walletName)
      fun chosen serial' calm => ?_)
    exact .of_relays (Operation.relays_ask _) (fun error refused => by cases refused)
      ⟨⟨calm.sound.createWallet _ _ _, calm.live⟩, calm.legible⟩
  | carryOut demand context fresh =>
    obtain ⟨wallets, user⟩ := countable
    rw [Ledger.Service.operation, Demand.operation_eq]
    cases came : demand.order l with
    | error error =>
      exact .map _ (.done calm fun _ same =>
        Except.error.inj same ▸ Demand.isClientError_of_order came)
    | ok order =>
      have once : Smooth clock (order.attempt (context.ensureCorrelation fresh)).run serial :=
        calm.attempt (wallets order came) user datable
      exact (once.carryOut l.retry).1.map Reply.processed
  | statement wallet =>
    rw [Ledger.Service.operation, Ledger.statement]
    refine .map _ ((calm.existing wallet).bind fun found serial' calm => ?_)
    exact (calm.ask rfl).bind fun holdings serial' calm => .ok calm _
  | history wallet limit =>
    rw [Ledger.Service.operation, Ledger.history]
    refine .map _ ((calm.existing wallet).bind fun found serial' calm => ?_)
    exact calm.ask rfl
  | reconcile =>
    rw [Ledger.Service.operation, Audit.reconcile]
    refine .map _ ((calm.ask rfl).bind fun holdings serial' calm => ?_)
    exact (calm.ask rfl).bind fun totals serial' calm => .ok calm _

/-- A rewritten result changes nothing else. -/
theorem run_map {α β : Type} (f : α → β) (x : Operation α) :
    ((f <$> x).run.interpret (handlers clock)).run serial =
      ((x.run.interpret (handlers clock)).run serial).map (·.map f) id := by
  rw [ExceptT.run_map, map_eq_pure_bind, Script.interpret_bind]
  rfl

/-- What a ledger does for its callers one after another. -/
def attend (l : Ledger) (clock : Nat → Instant) (services : List Ledger.Service) :
    StateM Serial (List (Except LedgerError Reply)) :=
  services.mapM fun service => (service.operation l).run.interpret (handlers clock)

/-- One more service is given after the others. -/
theorem attend_append_singleton (l : Ledger) (clock : Nat → Instant)
    (services : List Ledger.Service) (service : Ledger.Service) (serial : Serial) :
    (attend l clock (services ++ [service])).run serial =
      let before := (attend l clock services).run serial
      let after := ((service.operation l).run.interpret (handlers clock)).run before.2
      (before.1 ++ [after.1], after.2) := by
  rw [attend, List.mapM_append]
  rfl

/-- After services that were given one after another everything is calm, and every error was the
fault of a request. -/
theorem calm_attend {services : List Ledger.Service}
    (datable : ∀ ticks, World.Datable (clock ticks))
    (countable : ∀ service ∈ services, service.Countable l) :
    ((attend l clock services).run {}).2.Calm ∧
      ∀ error, .error error ∈ ((attend l clock services).run {}).1 →
        error.isClientError = true := by
  -- By induction on the services, of which the last one finds everything calm.
  induction services using List.reverseRecOn with
  | nil => exact ⟨calm_empty, fun _ mem => absurd mem List.not_mem_nil⟩
  | append_singleton services service ih =>
    obtain ⟨calm, client⟩ := ih fun other mem => countable other (List.mem_append_left _ mem)
    have smooth : Smooth clock (service.operation l).run _ := calm.serve
      (countable service (List.mem_append_right _ (List.mem_singleton_self _))) datable
    rw [attend_append_singleton]
    refine ⟨smooth.calm, fun error mem => ?_⟩
    rcases List.mem_append.1 mem with mem | mem
    · exact client error mem
    · exact smooth.client error (List.mem_singleton.1 mem).symm

/-- Services that a ledger gives one after another, from an empty store on, never fail through
storage, as long as the clock shows times that have a date and wallets and users have numbers of 64
bits: neither are they answered so, nor does the store refuse a call but by the fault of a request,
so every lock is given at once, and no reference turns out to be taken when it is written. No lock
is held before or after any of them, and every order is attempted once, whatever the policy of the
ledger is. -/
theorem attend_undisturbed (l : Ledger) (clock : Nat → Instant) (services : List Ledger.Service)
    (datable : ∀ ticks, World.Datable (clock ticks))
    (countable : ∀ service ∈ services, service.Countable l) :
    (∀ answer ∈ ((attend l clock services).run {}).1, ∀ text,
      answer ≠ .error (.storageConflict text) ∧ answer ≠ .error (.storageFailure text)) ∧
    ∀ before service after, services = before ++ service :: after →
      let serial := ((attend l clock before).run {}).2
      let done := ((service.operation l).run.interpret (handlers clock)).run serial
      (∀ error ∈ (service.operation l).run.refusals clock serial,
        (LedgerError.ofStore error).isClientError = true) ∧
      (∀ t account, account ∉ (serial.store.transaction t).held) ∧
      (∀ t account, account ∉ (done.2.store.transaction t).held) ∧
      ∀ demand context fresh order, service = .carryOut demand context fresh →
        demand.order l = .ok order → ∃ result,
          (tally clock l.retry order (context.ensureCorrelation fresh)).run (0, serial) =
            (result, 1, done.2) ∧
          done.1 = result.map Reply.processed := by
  refine ⟨fun answer mem text => ?_, ?_⟩
  · have client := (calm_attend datable countable).2
    constructor <;> rintro rfl <;> cases client _ mem
  rintro before service after rfl serial done
  have calm : serial.Calm := (calm_attend datable fun other mem =>
    countable other (List.mem_append_left _ mem)).1
  have here := countable service (List.mem_append_right _ List.mem_cons_self)
  have smooth : Smooth clock (service.operation l).run serial := calm.serve here datable
  have free {serial : Serial} (calm : serial.Calm) (t : TransactionId) (account : Account) :
      account ∉ (serial.store.transaction t).held := by
    rw [Store.transaction, calm.live, Option.getD_none]
    exact List.not_mem_nil
  refine ⟨smooth.refusals, free calm, free smooth.calm, ?_⟩
  rintro demand context fresh order rfl came
  obtain ⟨wallets, user⟩ := here
  have once : Smooth clock (order.attempt (context.ensureCorrelation fresh)).run serial :=
    calm.attempt (wallets order came) user datable
  have same : done = (((order.carryOut l.retry (context.ensureCorrelation fresh)).run.interpret
      (handlers clock)).run serial).map (·.map Reply.processed) id := by
    rw [← run_map]
    simp only [done, Ledger.Service.operation, Demand.operation_eq, came]
  rw [same]
  exact ⟨_, (once.carryOut l.retry).2, rfl⟩

/-- A ledger without rates. -/
def Sample.ledger : Ledger := { rates := .empty }

/-- A deposit under the reference that one side of a transfer is going to need. -/
def Sample.early : Ledger.Service :=
  .carryOut (.adjust .deposit ⟨World.Sample.dollars 1, ⟨90, by decide, by decide⟩, "share-out"⟩) {}
    ⟨7⟩

/-- The transfer. -/
def Sample.late : Ledger.Service :=
  .carryOut (.move ⟨World.Sample.dollars 1, World.Sample.dollars 2, ⟨40, by decide, by decide⟩,
    "share"⟩) {} ⟨8⟩

/-- The deposit and the transfer, and the deposit again. -/
def Sample.claimed : List Ledger.Service :=
  [.createWallet ⟨1⟩ "", .createWallet ⟨2⟩ "", Sample.early, Sample.late, Sample.early, .reconcile]

/-- Whether answers are errors. -/
def Sample.errors (answers : List (Except LedgerError Reply)) : List (Option LedgerError) :=
  answers.map fun
    | .ok _ => none
    | .error error => some error

/-- The transfer is refused, for one of its references belongs to another request, and nothing else
fails; no lock is held after it. -/
theorem attend_undisturbed_claimed :
    (∀ ticks : Nat, World.Datable ((fun _ => .ofMillis 0) ticks)) ∧
    (∀ service ∈ Sample.claimed, service.Countable Sample.ledger) ∧
    Sample.errors ((attend Sample.ledger (fun _ => .ofMillis 0) Sample.claimed).run {}).1 =
      [none, none, none, some (.idempotencyConflict "share-out"), none, none] ∧
    ∀ t account, account ∉ (((attend Sample.ledger (fun _ => .ofMillis 0)
      (Sample.claimed.take 4)).run {}).2.store.transaction t).held := by
  have epoch : World.Datable (.ofMillis 0) := by
    rw [World.Datable]
    decide +kernel
  have datable : ∀ ticks : Nat, World.Datable ((fun _ => .ofMillis 0) ticks) := fun _ => epoch
  have early : Sample.early.Countable Sample.ledger := by
    refine ⟨?_, fun _ user => by cases user⟩
    rintro _ ⟨⟩
    rw [Order.Countable]
    decide
  have late : Sample.late.Countable Sample.ledger := by
    refine ⟨?_, fun _ user => by cases user⟩
    rintro _ ⟨⟩
    rw [Order.Countable]
    decide
  have countable : ∀ service ∈ Sample.claimed, service.Countable Sample.ledger := by
    intro service mem
    simp only [Sample.claimed, List.mem_cons, List.not_mem_nil, or_false] at mem
    rcases mem with rfl | rfl | rfl | rfl | rfl | rfl
    · trivial
    · trivial
    · exact early
    · exact late
    · exact early
    · trivial
  refine ⟨datable, countable, by decide +kernel, ?_⟩
  exact ((attend_undisturbed Sample.ledger (fun _ => .ofMillis 0) Sample.claimed datable
    countable).2 (Sample.claimed.take 4) _ (Sample.claimed.drop 5) rfl).2.1

end Serial

end CurrencyLedger
