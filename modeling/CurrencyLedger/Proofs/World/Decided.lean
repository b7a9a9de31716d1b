import CurrencyLedger.Proofs.Operation.Ascending
import CurrencyLedger.Proofs.World.Reuse

/-! # What decides about an order

An order that is alone is decided by what is published. Whether it gives to the account that it takes
from is looked at first, then the entries that carry its references, then the wallets of its
accounts in ascending order, and then what the amounts of its accounts make of it.

* **`Order.Decided`** — what an order is answered, with a constructor for each thing that may decide
  it;
* **`Order.Enters`** — what an order changes about the books if it is published;
* **`Order.Settles.decided`**, **`Order.decided_of_idle`** — every order that is alone is decided so,
  and changes nothing unless it is published;
* **`Order.decided_of_named`** — so is the operation that carries it out, whose receipts have a type
  of their own;
* **`World.ends_alone`**, **`World.exists_decided`** — so is one that is launched in a world where
  nothing is under way. -/

namespace CurrencyLedger

namespace Order

variable {order : Order} {context : Context} {receipt : Receipt} {clock : Nat → Instant}
  {t : TransactionId} {s s' x : Store} {result : Except LedgerError (Processed Receipt)}
  {trail : Trail}

/-- What an order that is alone is answered. Each constructor says that nothing before it applies. -/
inductive Decided (order : Order) (s : Store) : Except LedgerError (Processed Receipt) → Prop where
  /-- It would give to the account that it takes from. -/
  | circular (circular : order.isCircular = true) : Decided order s (.error .invalidTarget)
  /-- The entry under its reference tells a receipt, or why it does not. -/
  | recalled (entry : Entry) (straight : order.isCircular = false)
      (found : Store.findEntry s.entries order.reference = some entry) :
      Decided order s ((order.receiptIn entry).map fun receipt => ⟨receipt, true⟩)
  /-- Some entry has the reference of a side. -/
  | claimed (side : String) (straight : order.isCircular = false)
      (free : Store.findEntry s.entries order.reference = none)
      (first : order.sides.find? (fun r => (Store.findEntry s.entries r).isSome) = some side) :
      Decided order s (.error (.idempotencyConflict side))
  /-- An account belongs to no wallet. -/
  | homeless (account : Account) (straight : order.isCircular = false) (unused : order.Unused s)
      (least : order.homeless? s = some account) :
      Decided order s (.error (.walletNotFound account.wallet))
  /-- The amounts of its accounts allow it, or they do not. -/
  | evaluated (straight : order.isCircular = false) (unused : order.Unused s)
      (housed : order.homeless? s = none) :
      Decided order s ((order.evaluate s.amount).map fun receipt => ⟨receipt, false⟩)

/-- An account without a wallet is the least one among those of an order that have none. -/
theorem least_of_homeless? {account : Account} (h : order.homeless? s = some account) :
    account ∈ order.accounts ∧ s.hasWallet account.wallet = false ∧
      ∀ other ∈ order.accounts, s.hasWallet other.wallet = false →
        (compare account other).isLE = true := by
  have mem : account ∈ Account.ascending order.accounts := List.mem_of_find?_eq_some h
  refine ⟨Account.mem_ascending.1 mem, by simpa using List.find?_some h,
    fun other there homeless => ?_⟩
  exact Table.isLE_of_find? (Account.pairwise_ascending order.accounts) h
    (Account.mem_ascending.2 there) (by rw [homeless, Bool.not_false])

/-- What an order that is published changes about the books. -/
structure Enters (order : Order) (context : Context) (receipt : Receipt) (s s' : Store) : Prop where
  /-- The receipt is what the amounts of its accounts make of it. -/
  evaluated : order.evaluate s.amount = .ok receipt
  /-- Its accounts get the balances that it leaves behind, and no other account gets any. -/
  balances : ∀ account, s'.balances.get? account =
    ((order.balances receipt).get? account).or (s.balances.get? account)
  /-- Its entries are written after those that are there. -/
  entries : ∃ recorded written, s'.entries = s.entries ++ written ∧
    written.map Entry.toPosting =
      order.postings receipt (order.completion receipt context recorded)
  /-- Its references are in use. -/
  references : s'.references = order.sides ++ order.reference :: s.references
  /-- No wallet is made. -/
  wallets : s'.wallets = s.wallets
  /-- So the next one has the number that it had. -/
  nextWallet : s'.nextWallet = s.nextWallet

/-- Publishing a draft that is ready enters its order. -/
theorem Ready.enters {e : Surroundings t} (ready : order.Ready e context receipt x)
    (same : x.books = s.books) (straight : order.isCircular = false) :
    order.Enters context receipt s (x.publish t) where
  evaluated := by
    rw [← ready.evaluated, Store.amount_congr same]
  balances := by
    intro account
    rw [Store.get?_balances_publish, ready.staged_eq straight,
      show x.balances = s.balances from congrArg Store.Books.balances same]
  entries := by
    obtain ⟨recorded, -, drafted⟩ := ready.drafted
    refine ⟨recorded, (x.transaction t).entries, ?_, drafted.posted⟩
    rw [← show x.entries = s.entries from congrArg Store.Books.entries same]
    rfl
  references := by
    have own : (x.publish t).references = x.ownReferences t ++ x.references := rfl
    rw [own, ready.ownReferences_eq,
      show x.references = s.references from congrArg Store.Books.references same,
      List.append_assoc]
    rfl
  wallets := congrArg Store.Books.wallets same
  nextWallet := congrArg Store.Books.nextWallet same

/-- What an answer says about the books. -/
structure Leaves (order : Order) (context : Context)
    (result : Except LedgerError (Processed Receipt)) (s s' : Store) : Prop where
  /-- An order with a receipt that was not there before is entered. -/
  fresh : ∀ receipt, result = .ok ⟨receipt, false⟩ → order.Enters context receipt s s'
  /-- Any other leaves no trace. -/
  silent : (∀ receipt, result ≠ .ok ⟨receipt, false⟩) → s'.books = s.books

/-- An order that is not published leaves the books as they were. -/
theorem Leaves.of_error {error : LedgerError} (books : s'.books = s.books) :
    order.Leaves context (.error error) s s' where
  fresh receipt same := by cases same
  silent _ := books

/-- An order whose references are unused settles by the wallets and the amounts of its accounts. -/
theorem Settles.decided_of_unused
    (settles : order.Settles (.alone clock s.books t) context result trail s') (sound : s.Sound)
    (straight : order.isCircular = false) (unused : order.Unused s) :
    order.Decided s result ∧ order.Leaves context result s s' := by
  rcases settles.of_unused sound straight unused with
    ⟨account, least, rfl, books⟩ | ⟨housed, ⟨error, refused, rfl, books⟩ |
      ⟨receipt, allowed, rfl, x, same, ready, rfl⟩⟩
  · exact ⟨.homeless account straight unused least, .of_error books⟩
  · have decided := Decided.evaluated straight unused housed
    rw [refused] at decided
    exact ⟨decided, .of_error books⟩
  · have decided := Decided.evaluated straight unused housed
    rw [allowed] at decided
    refine ⟨decided, fun _ fresh => ?_, fun silent => absurd rfl (silent receipt)⟩
    cases fresh
    exact ready.enters same straight

/-- An order that is alone is decided by what is published. -/
theorem Settles.decided (settles : order.Settles (.alone clock s.books t) context result trail s')
    (sound : s.Sound) (straight : order.isCircular = false) :
    order.Decided s result ∧ order.Leaves context result s s' := by
  cases found : Store.findEntry s.entries order.reference with
  | some entry =>
    obtain ⟨books, answer⟩ := settles.of_found straight found
    refine ⟨answer ▸ .recalled entry straight found, fun receipt fresh => ?_, fun _ => books⟩
    obtain ⟨_, -, replayed⟩ := map_eq_ok.1 (answer.symm.trans fresh)
    cases replayed
  | none =>
    cases first : order.sides.find? (fun r => (Store.findEntry s.entries r).isSome) with
    | some side =>
      obtain ⟨books, rfl⟩ := settles.of_side straight found first
      exact ⟨.claimed side straight found first, .of_error books⟩
    | none =>
      refine settles.decided_of_unused sound straight fun r mem => ?_
      rcases List.mem_cons.1 mem with rfl | side
      · exact found
      · exact Option.not_isSome_iff_eq_none.1 (List.find?_eq_none.1 first r side)

/-- An order that gives to the account that it takes from is refused without a call. -/
theorem attempt_of_circular (circular : order.isCircular = true) :
    order.attempt context = throw .invalidTarget := by
  cases order with
  | adjust direction order => cases circular
  | move rates order =>
    rw [attempt, Transfer.attempt, if_pos (of_decide_eq_true circular)]
    rfl

/-- Where nothing is under way, every order is decided by what is published, and when it is answered
nothing is under way again. -/
theorem decided_of_idle (order : Order) (context : Context) (clock : Nat → Instant) (ticks : Nat)
    (sound : s.Sound) (idle : ∀ t, s.live.get? t = none) :
    let done := ((order.attempt context).run.interpret (Serial.handlers clock)).run ⟨s, ticks⟩
    order.Decided s done.1 ∧ order.Leaves context done.1 s done.2.store ∧
      ∀ t, done.2.store.live.get? t = none := by
  intro done
  cases straight : order.isCircular with
  | true =>
    have refused : done = (.error .invalidTarget, ⟨s, ticks⟩) := by
      simp only [done, attempt_of_circular straight]
      rfl
    rw [refused]
    exact ⟨.circular straight, .of_error rfl, idle⟩
  | false =>
    have blank : s.transaction 0 = {} := Store.transaction_eq_of_gone (idle 0)
    have ensures (e : Surroundings 0) : (order.attempt context).run.Ensures e
        (order.Duty e context 1) (order.Concludes e context {}) {} s :=
      ensures_attempt blank rfl Nat.one_pos
    obtain ⟨trail, concludes, -, quiet⟩ : ∃ trail,
        order.Concludes (.alone clock s.books 0) context {} done.1 trail done.2.store ∧
          done.2.store.Sound ∧ done.2.store.Quiet 0 :=
      Script.Ensures.interpret clock (ensures _) (ensures _) (fun _ _ _ duty => duty.1) sound
        (fun t _ => idle t) fun _ => rfl
    have settles : order.Settles (.alone clock s.books 0) context done.1 trail done.2.store :=
      ⟨{}, rfl, concludes⟩
    obtain ⟨decided, leaves⟩ := settles.decided sound straight
    obtain ⟨exchange, -, ended⟩ := settles.exists_ended straight
    exact ⟨decided, leaves, quiet.live ended.live⟩

/-! ## Operations of one kind -/

section Named

variable {α : Type} {name : α → Receipt}

/-- Receipts that are named apart are kept apart. -/
theorem named_eq_ok (apart : Function.Injective name)
    {result : Except LedgerError (Processed α)} {receipt : α} {replayed : Bool} :
    result.map (fun p => (⟨name p.receipt, p.replayed⟩ : Processed Receipt)) =
      .ok ⟨name receipt, replayed⟩ ↔ result = .ok ⟨receipt, replayed⟩ := by
  rw [map_eq_ok]
  constructor
  · rintro ⟨⟨other, again⟩, rfl, same⟩
    obtain ⟨named, rfl⟩ := Processed.mk.inj same
    obtain rfl : other = receipt := apart named
    rfl
  · rintro rfl
    exact ⟨_, rfl, rfl⟩

/-- An operation whose result is named otherwise makes the same calls. -/
theorem run_interpret_map {m : Type → Type} [Monad m] [LawfulMonad m] {β : Type}
    (h : Script.Handlers m) (f : α → β) (op : Operation α) :
    (f <$> op).run.interpret h = Except.map f <$> op.run.interpret h := by
  rw [ExceptT.run_map, map_eq_pure_bind, Script.interpret_bind, map_eq_pure_bind]
  rfl

/-- Where nothing is under way, an operation that carries out an order, but for the name of its
receipt, is decided as the order is. -/
theorem decided_of_named (apart : Function.Injective name) {op : Operation (Processed α)}
    (named : order.attempt context = (fun p => ⟨name p.receipt, p.replayed⟩) <$> op)
    (clock : Nat → Instant) (ticks : Nat) (sound : s.Sound)
    (idle : ∀ t, s.live.get? t = none) :
    let done := (op.run.interpret (Serial.handlers clock)).run ⟨s, ticks⟩
    order.Decided s (done.1.map fun p => ⟨name p.receipt, p.replayed⟩) ∧
      (∀ receipt, done.1 = .ok ⟨receipt, false⟩ →
        order.Enters context (name receipt) s done.2.store) ∧
      ((∀ receipt, done.1 ≠ .ok ⟨receipt, false⟩) → done.2.store.books = s.books) ∧
      ∀ t, done.2.store.live.get? t = none := by
  intro done
  have carried : ((order.attempt context).run.interpret (Serial.handlers clock)).run ⟨s, ticks⟩ =
      (done.1.map fun p => ⟨name p.receipt, p.replayed⟩, done.2) := by
    rw [named, run_interpret_map, StateT.run_map]
    rfl
  have settled := decided_of_idle order context clock ticks sound idle
  rw [carried] at settled
  obtain ⟨decided, leaves, calm⟩ := settled
  refine ⟨decided, fun receipt fresh => ?_, fun silent => ?_, calm⟩
  · exact leaves.fresh _ ((named_eq_ok apart).2 fresh)
  · refine leaves.silent fun receipt fresh => ?_
    obtain ⟨⟨own, replayed⟩, is, same⟩ := map_eq_ok.1 fresh
    cases same
    exact silent own is

end Named

end Order

namespace World

variable {w : World} {t : TransactionId} {trail : Trail}
  {rest : Script (Except LedgerError Reply)} {books : Store.Books}
  {P P' : Trail → Call → Store → Prop} {Q Q' : Except LedgerError Reply → Trail → Store → Prop}

/-- A task that goes on alone ends, and keeps what its script ensures when nothing happens around its
calls, if it makes no call after it has published something. -/
theorem ends_alone (task : Task) (now : Instant)
    (ensures : rest.Ensures (.alone (fun _ => now) books t) P Q trail w.store)
    (dutiful : rest.Ensures (.crowd (fun _ => True) t) P' Q' trail w.store)
    (unpublished : ∀ trail c s, P' trail c s → trail.published = false)
    (sound : w.store.Sound) (quiet : w.store.Quiet t)
    (before : trail.published = false → w.store.books = books) :
    ∃ n trail' result,
      let w' := (List.replicate n (.step t now)).foldl act (w.resume t task now rest trail)
      w'.finished.get? t = some ⟨task, trail', result⟩ ∧ Q result trail' w'.store := by
  -- By induction on the script: each of its calls is one step of the task.
  induction rest generalizing w trail with
  | done result => exact ⟨0, trail, result, Table.get?_insert_self _ _ _, ensures⟩
  | call c next ih =>
    obtain ⟨duty, goes_on', -⟩ := dutiful w.store (.refl sound)
    have silent := unpublished trail c w.store duty
    obtain ⟨-, goes_on, -⟩ := ensures w.store ⟨rfl, sound, before silent⟩
    have running : (w.resume t task now (.call c next) trail).running.get? t =
        some ⟨task, trail, .call c next⟩ := Table.get?_insert_self _ _ _
    cases step : w.store.step t now c with
    | blocked => exact absurd step (quiet.step_ne_blocked now c)
    | answered store answer =>
      let turned : World :=
        { w.resume t task now (.call c next) trail with
          store := store
          published :=
            if Exchange.publishes ⟨c, answer, w.store⟩ then w.published ++ [(t, task)]
            else w.published }
      have turn : (w.resume t task now (.call c next) trail).act (.step t now) =
          turned.resume t task now (next answer) (trail.add c answer w.store) := by
        rw [act, running]
        simp only [store_resume, step, published_resume]
        rfl
      obtain ⟨n, trail', result, kept⟩ := ih answer (w := turned)
        (goes_on now store answer step) (goes_on' now store answer step) (sound.step step)
        (quiet.step sound step) fun more => by
          rw [Trail.published_add, silent, Bool.or_false] at more
          exact (Store.books_eq_of_step step more).trans (before silent)
      refine ⟨n + 1, trail', result, ?_⟩
      rw [List.replicate_succ, List.foldl_cons, turn]
      exact kept
  | sleep ms next ih => exact ih ensures dutiful sound quiet before
  | advance stage next ih => exact ih ensures dutiful sound quiet before
  | now next ih => exact ih now (ensures now ⟨0, rfl⟩) (dutiful now trivial) sound quiet before

/-- Where nothing is under way, an order that is launched and goes on alone is decided by what is
published. -/
theorem exists_decided (actions : List Action) (order : Order) (policy : Retry.Policy)
    (context : Context) (fresh : Uuid) (now : Instant) (straight : order.isCircular = false)
    (idle : ∀ t, (run actions).store.live.get? t = none) :
    ∃ n trail result,
      let before := run actions
      let w := run (actions ++ .launch (.carryOut order policy context fresh) now ::
        List.replicate n (.step before.next now))
      w.finished.get? before.next =
        some ⟨.carryOut order policy context fresh, trail, result.map Reply.processed⟩ ∧
      order.Decided before.store result ∧
      order.Leaves (context.ensureCorrelation fresh) result before.store w.store := by
  have sound : (run actions).store.Sound := (sane_run actions).sound
  have blank : (run actions).store.transaction (run actions).next = {} :=
    Store.transaction_eq_of_gone (idle _)
  have ensures (e : Surroundings (run actions).next) :=
    (Task.carryOut order policy context fresh).ensures_script (e := e) blank
  obtain ⟨n, trail, _, done, result, rfl, settles⟩ :=
    ends_alone (w := { run actions with next := (run actions).next + 1 })
      (.carryOut order policy context fresh) now (ensures _) (ensures _)
      (fun _ _ _ duty => duty.unpublished) sound (fun u _ => idle u) fun _ => rfl
  obtain ⟨decided, leaves⟩ := settles.decided sound straight
  have split : run (actions ++ .launch (.carryOut order policy context fresh) now ::
      List.replicate n (.step (run actions).next now)) =
        (List.replicate n (.step (run actions).next now)).foldl act
          ((run actions).act (.launch (.carryOut order policy context fresh) now)) := by
    rw [run, List.foldl_append]
    rfl
  refine ⟨n, trail, result, ?_⟩
  intro before w
  rw [show w = _ from split]
  exact ⟨done, decided, leaves⟩

end World

end CurrencyLedger
