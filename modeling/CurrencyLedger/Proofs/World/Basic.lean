import CurrencyLedger.Proofs.Order.Attempt

/-! # A ledger in use by many

Any number of tasks use one store at a time, one call after another in any order. Each task has a
transaction of its own. Waiting for a lock may end in a timeout, and a task may be abandoned
between any two of its calls.

* **`Task`**, **`Task.script`** — what is asked of the ledger, and what is done for it;
* **`World`** — the store, the tasks under way, and those that have ended;
* **`World.act`**, **`World.run`** — one action, and actions one after another. -/

namespace CurrencyLedger

/-- What is asked of a ledger. -/
inductive Task where
  /-- A wallet for a user. -/
  | createWallet (user : UserId) (name : String)
  /-- An order, attempted as often as a policy allows. A context without an identifier gets the
  fresh one. -/
  | carryOut (order : Order) (policy : Retry.Policy) (context : Context) (fresh : Uuid)
  /-- A wallet with what its accounts hold. -/
  | statement (wallet : WalletId)
  /-- The newest entries of a wallet. -/
  | history (wallet : WalletId) (limit : Int)
  /-- A comparison of balances and entries. -/
  | reconcile
  deriving DecidableEq

/-- What a task is answered with. -/
inductive Reply where
  /-- The wallet that was made. -/
  | wallet (wallet : Wallet)
  /-- The receipt of an order. -/
  | processed (processed : Processed Order.Receipt)
  /-- A wallet with what its accounts hold. -/
  | statement (statement : WalletStatement)
  /-- The newest entries of a wallet. -/
  | history (entries : List Entry)
  /-- A comparison of balances and entries. -/
  | report (report : Audit.Report)

/-- Whether an answer tells of something that was not there before. -/
def Reply.isFresh : Reply → Bool
  | .wallet _ => true
  | .processed p => !p.replayed
  | _ => false

/-- Attempts an order as often as a policy allows. -/
def Order.carryOut (order : Order) (policy : Retry.Policy) (context : Context) :
    Operation (Processed Order.Receipt) :=
  ExceptT.mk (policy.run Script.pause (order.attempt context).run)

/-- What is done for a task. -/
def Task.operation : Task → Operation Reply
  | .createWallet user name => Reply.wallet <$> Ledger.createWallet user name
  | .carryOut order policy context fresh =>
    Reply.processed <$> order.carryOut policy (context.ensureCorrelation fresh)
  | .statement wallet => Reply.statement <$> Ledger.statement wallet
  | .history wallet limit => Reply.history <$> Ledger.history wallet limit
  | .reconcile => Reply.report <$> Audit.reconcile

/-- What is done for a task. -/
def Task.script (task : Task) : Script (Except LedgerError Reply) := task.operation.run

/-! ## Orders as the ledger carries them out -/

/-- Rewriting the result of every attempt is rewriting the result of all of them. -/
theorem Retry.attempts_map {m : Type → Type} {α β : Type} [Monad m] [LawfulMonad m]
    (sleep : Nat → m Unit) (backoff : Nat) (f : α → β) (operation : m (Except LedgerError α))
    (more number : Nat) :
    attempts sleep backoff (Except.map f <$> operation) more number =
      Except.map f <$> attempts sleep backoff operation more number := by
  induction more generalizing number with
  | zero => rfl
  | succ more ih =>
    rw [attempts, attempts, bind_map_left, map_bind]
    refine bind_congr fun result => ?_
    cases result with
    | ok a => exact (map_pure _ _).symm
    | error error =>
      have same : isRetryable (Except.map f (.error error)) =
          isRetryable (.error error : Except LedgerError α) := rfl
      rw [same]
      split
      · rw [map_bind]
        exact bind_congr fun _ => ih (number + 1)
      · rw [map_pure]

/-- A deposit or a withdrawal of a ledger is carried out as an order. -/
theorem Ledger.adjust_eq (l : Ledger) (direction : Direction) (order : Adjustment)
    (context : Context) (fresh : Uuid) :
    (fun p => (⟨.adjusted p.receipt, p.replayed⟩ : Processed Order.Receipt)) <$>
        l.adjust direction order context fresh =
      (Order.adjust direction order).carryOut l.retry (context.ensureCorrelation fresh) := by
  refine ExceptT.ext ?_
  rw [Order.carryOut, Order.attempt, ExceptT.run_mk, Retry.Policy.run, ExceptT.run_map,
    ExceptT.run_map, Retry.attempts_map]
  rfl

/-- A transfer of a ledger is carried out as an order. -/
theorem Ledger.move_eq (l : Ledger) (order : Transfer) (context : Context) (fresh : Uuid) :
    (fun p => (⟨.moved p.receipt, p.replayed⟩ : Processed Order.Receipt)) <$>
        l.move order context fresh =
      (Order.move l.rates order).carryOut l.retry (context.ensureCorrelation fresh) := by
  refine ExceptT.ext ?_
  rw [Order.carryOut, Order.attempt, ExceptT.run_mk, Retry.Policy.run, ExceptT.run_map,
    ExceptT.run_map, Retry.attempts_map]
  rfl

/-! ## Worlds -/

/-- A task under way. -/
structure Process where
  /-- What was asked. -/
  task : Task
  /-- What was done for it. -/
  trail : Trail
  /-- What is left to do. -/
  rest : Script (Except LedgerError Reply)

/-- A task that has ended. -/
structure Ending where
  /-- What was asked. -/
  task : Task
  /-- What was done for it. -/
  trail : Trail
  /-- The answer. -/
  result : Except LedgerError Reply

/-- A ledger in use. -/
structure World where
  /-- What is stored. -/
  store : Store := {}
  /-- The number of the next task. -/
  next : TransactionId := 0
  /-- The tasks under way. -/
  running : Table TransactionId Process := .empty
  /-- The tasks that have been answered. -/
  finished : Table TransactionId Ending := .empty
  /-- The tasks that have published something, in the order in which they did. -/
  published : List (TransactionId × Task) := []

/-- What may happen next. -/
inductive Action where
  /-- A task begins. -/
  | launch (task : Task) (now : Instant)
  /-- A task makes its next call, unless it has to wait. -/
  | step (t : TransactionId) (now : Instant)
  /-- A task has waited in vain for the lock that its next call needs. -/
  | expire (t : TransactionId) (now : Instant)
  /-- A task is given up. -/
  | abandon (t : TransactionId)

/-- What the clock shows at an action, if it matters. -/
def Action.time? : Action → Option Instant
  | .launch _ now => some now
  | .step _ now => some now
  | .expire _ now => some now
  | .abandon _ => none

/-- What a script does by itself up to its next call: pauses pass, stages are told, and the clock is
read. -/
def Script.settle {α : Type} (now : Instant) : Script α → Trail → Script α × Trail
  | .sleep _ next, trail => next.settle now trail
  | .advance stage next, trail => next.settle now (trail.reach stage)
  | .now next, trail => (next now).settle now trail
  | script, trail => (script, trail)

namespace World

/-- A task goes on up to its next call or to its answer. -/
def resume (w : World) (t : TransactionId) (task : Task) (now : Instant)
    (rest : Script (Except LedgerError Reply)) (trail : Trail) : World :=
  match rest.settle now trail with
  | (.done result, trail) =>
    { w with
        running := w.running.erase t
        finished := w.finished.insert t ⟨task, trail, result⟩ }
  | (rest, trail) => { w with running := w.running.insert t ⟨task, trail, rest⟩ }

/-- The world after an action. -/
def act (w : World) : Action → World
  | .launch task now => ({ w with next := w.next + 1 } : World).resume w.next task now task.script {}
  | .step t now =>
    match w.running.get? t with
    | some ⟨task, trail, .call c next⟩ =>
      match w.store.step t now c with
      | .blocked => w
      | .answered store answer =>
        ({ w with
            store := store
            published :=
              if Exchange.publishes ⟨c, answer, w.store⟩ then w.published ++ [(t, task)]
              else w.published } : World).resume t task now (next answer)
          (trail.add c answer w.store)
    | _ => w
  | .expire t now =>
    match w.running.get? t with
    | some ⟨task, trail, .call c next⟩ =>
      match c.locks? with
      | some account =>
        if account ∈ (w.store.transaction t).held then w
        else
          w.resume t task now (next (.error (.lockTimeout account.text)))
            (trail.add c (.error (.lockTimeout account.text)) w.store)
      | none => w
    | _ => w
  | .abandon t => { w with store := w.store.drop t, running := w.running.erase t }

/-- The world after actions one after another, from an empty store on. -/
def run (actions : List Action) : World := actions.foldl act {}

/-- One more action. -/
theorem run_append_singleton (actions : List Action) (a : Action) :
    run (actions ++ [a]) = (run actions).act a := by
  rw [run, List.foldl_append]
  rfl

/-! ## A short run

Two wallets are made, a deposit is paid into the first one, and then a transfer and a withdrawal
overlap that cannot both be covered. -/

namespace Sample

/-- The dollars of a wallet. -/
def dollars (wallet : Int) : Account := ⟨⟨wallet⟩, ⟨"USD", by decide⟩⟩

/-- An order to pay a hundred into the first wallet. -/
def deposit : Order := .adjust .deposit ⟨dollars 1, ⟨100, by decide, by decide⟩, "pay"⟩

/-- An order to move sixty from the first wallet to the second. -/
def transfer : Order := .move .empty ⟨dollars 1, dollars 2, ⟨60, by decide, by decide⟩, "share"⟩

/-- The same transfer by other rates. -/
def transferAgain : Order :=
  .move .reference ⟨dollars 1, dollars 2, ⟨60, by decide, by decide⟩, "share"⟩

/-- An order to take fifty out of the first wallet. -/
def withdrawal : Order := .adjust .withdraw ⟨dollars 1, ⟨50, by decide, by decide⟩, "cash"⟩

/-- An order attempted once, with a made up identifier. -/
def once (order : Order) (fresh : Nat) : Task :=
  .carryOut order .single {} ⟨BitVec.ofNat 128 fresh⟩

/-- A task goes on by some calls. -/
def steps (t : TransactionId) (count : Nat) : List Action :=
  List.replicate count (.step t (.ofMillis count))

/-- Two wallets, and a deposit into the first one. -/
def opening : List Action :=
  [.launch (.createWallet ⟨1⟩ "") (.ofMillis 0), .launch (.createWallet ⟨2⟩ "") (.ofMillis 1)] ++
    steps 1 1 ++ steps 0 1 ++ [.launch (once deposit 7) (.ofMillis 2)] ++ steps 2 8

/-- A transfer and a withdrawal that overlap. -/
def overlapping : List Action :=
  opening ++ [.launch (once transfer 8) (.ofMillis 3), .launch (once withdrawal 9) (.ofMillis 4)] ++
    steps 3 2 ++ steps 4 2 ++ steps 3 3 ++ steps 4 1 ++ steps 3 9 ++ steps 4 9

end Sample

end World

end CurrencyLedger
