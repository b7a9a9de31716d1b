import CurrencyLedger.Proofs.Operation.Ascending
import CurrencyLedger.Proofs.Order.Attempt
import CurrencyLedger.Proofs.World.Progress
import Mathlib.Data.Set.Basic

/-! # Waiting for locks

Any number of units of work use one store at a time, one call after another in any order. Each of
them may lock whatever accounts it likes, all at once, then does what needs no further locks, and
publishes its transaction, gives it up, or is dropped at any time. As all of them take their locks
in one order, they never wait for each other in a ring.

* **`Errand`**, **`Errand.ascends`** — what a unit of work does, and that it takes its locks in
  ascending order;
* **`Traffic`**, **`Traffic.act`**, **`Traffic.run`** — a store with the units of work under way;
* **`Traffic.Orderly`**, **`Traffic.orderly_run`** — what every action keeps: a script under way
  ascends from the locks that it holds;
* **`Traffic.Waits`** — a unit of work needs a lock that another one holds;
* **`Traffic.no_ring`** — in no set of units of work does each wait for another one of the set, so
  there is always one that goes on. -/

namespace CurrencyLedger

/-! ## Orders ascend -/

namespace Operation

variable {α : Type} {n : Nat}

/-- Work that first looks for an earlier completion ascends if what it does otherwise ascends. -/
theorem ascends_recall {reference : String} {kind : OperationKind} {fingerprint : Fingerprint}
    {read : Json → Option α} {work : Operation (Progress α)}
    (ascends : work.run.Ascends (fun _ _ => True) []) :
    (ExceptT.run do
      match ← findCompleted reference kind fingerprint with
      | some completion =>
        let receipt ← ofExcept
          ((completion.outcomeAs read reference).mapError LedgerError.ofCompletion)
        pure (.replayed receipt)
      | none => work).Ascends (fun _ _ => True) [] := by
  refine ascends_steady_bind (makes_findCompleted rfl) fun found => ?_
  cases found with
  | none => exact ascends
  | some completion => exact ascends_steady_bind (n := 0) trivial fun _ => trivial

/-- Locking accounts all at once may be followed by anything that needs no locks. -/
theorem ascends_lockAll_bind {accounts : List Account} {f : Table Account Int → Operation α}
    (free : ∀ amounts, (f amounts).run.Makes (·.isLockless = true) n) :
    (ofStore (.lockAll accounts) >>= f).run.Ascends (fun _ _ => True) [] := by
  refine ascends_bind (ascends_ofStore ((StoreScript.ascends_lockAll accounts).mono ?_))
  rintro (error | amounts) held -
  · trivial
  · exact (free amounts).ascends

end Operation

namespace Order

/-- An attempt of an order takes its locks in ascending order and leaves none behind. -/
theorem ascends_attempt (order : Order) (context : Context) :
    (order.attempt context).run.Ascends (fun _ held => held = []) [] := by
  cases order with
  | adjust direction order =>
    refine Operation.ascends_map (Operation.ascends_inTransaction (fun _ => trivial) ?_)
    rw [Adjustment.work_eq]
    refine Operation.ascends_recall (Operation.ascends_lockAll_bind (n := 2) fun amounts => ?_)
    exact Adjustment.makes_draft rfl fun _ => rfl
  | move rates order =>
    refine Operation.ascends_map ?_
    rw [Transfer.attempt]
    split
    · exact rfl
    refine Operation.ascends_inTransaction (fun _ => trivial) ?_
    rw [Transfer.work_eq]
    refine Operation.ascends_recall ?_
    refine Operation.ascends_steady_bind (Operation.makes_ensureUnclaimed fun _ _ => rfl)
      fun _ => ?_
    refine Operation.ascends_steady_bind (n := 0) trivial fun _ => ?_
    refine Operation.ascends_lockAll_bind (n := 5) fun amounts => ?_
    refine Operation.makes_bind (m := 0) (n := 5) trivial fun _ => ?_
    exact Transfer.makes_draft rfl (fun _ _ => rfl) fun _ => rfl

/-- So do several attempts. -/
theorem ascends_run (order : Order) (policy : Retry.Policy) (context : Context) :
    (policy.run Script.pause (order.attempt context).run).Ascends (fun _ held => held = []) [] :=
  Retry.ascends_attempts (order.ascends_attempt context) _ 1

end Order

/-! ## Units of work -/

/-- What a unit of work does. -/
inductive Errand where
  /-- Locks accounts all at once, in whatever order and however often they are listed, and then,
  depending on what they hold, makes calls that need no locks. -/
  | locking (accounts : List Account)
      (rest : Except StoreError (Table Account Int) → Script Unit) (calls : Nat)
      (free : ∀ result, (rest result).Makes (·.isLockless = true) calls)
  /-- Carries out an order, attempted as often as a policy allows. -/
  | carryOut (order : Order) (policy : Retry.Policy) (context : Context)
  /-- Makes calls that need no locks, outside of transactions: makes wallets, or asks for
  reports. -/
  | plain (script : Script Unit) (calls : Nat) (free : script.Makes (·.isLockless = true) calls)

namespace Errand

/-- The calls of a unit of work. -/
def script : Errand → Script Unit
  | .locking accounts rest _ _ => do
    let _ ← Script.ask .begin
    rest (← (StoreScript.lockAll accounts).run)
  | .carryOut order policy context => do
    let _ ← (order.carryOut policy context).run
  | .plain script _ _ => script

/-- Every unit of work takes its locks in ascending order. -/
theorem ascends (errand : Errand) : errand.script.Ascends (fun _ _ => True) [] := by
  cases errand with
  | locking accounts rest calls free =>
    refine Script.ascends_bind (Script.ascends_ask ⟨fun _ => rfl, fun _ locks => ?_⟩ fun _ => ?_)
    · cases locks
    · exact Script.ascends_bind ((StoreScript.ascends_lockAll accounts).mono fun result _ _ =>
        (free result).ascends)
  | carryOut order policy context =>
    exact Script.ascends_bind ((order.ascends_run policy context).mono fun _ _ _ => trivial)
  | plain script calls free => exact free.ascends

end Errand

/-- The account whose lock the next call of a script needs. -/
def Script.locks? {α : Type} : Script α → Option Account
  | .call c _ => c.locks?
  | _ => none

/-- A store with the units of work under way. -/
structure Traffic where
  /-- What is stored. -/
  store : Store := {}
  /-- The number of the next unit of work. -/
  next : TransactionId := 0
  /-- What the units of work under way have left to do. -/
  running : Table TransactionId (Script Unit) := .empty

namespace Traffic

/-- What may happen next. -/
inductive Event where
  /-- A unit of work begins. -/
  | launch (errand : Errand) (now : Instant)
  /-- A unit of work makes its next call, unless it has to wait. -/
  | step (t : TransactionId) (now : Instant)
  /-- A unit of work has waited in vain for the lock that its next call needs. -/
  | expire (t : TransactionId) (now : Instant)
  /-- A unit of work is dropped. -/
  | drop (t : TransactionId)

variable {w w' : Traffic} {t u : TransactionId}

/-- A unit of work goes on up to its next call, or to its end, with which it gives its locks
back. -/
def resume (w : Traffic) (t : TransactionId) (now : Instant) (rest : Script Unit) : Traffic :=
  match (rest.settle now {}).1 with
  | .done _ => { w with store := w.store.drop t, running := w.running.erase t }
  | rest => { w with running := w.running.insert t rest }

/-- The traffic after an event. -/
def act (w : Traffic) : Event → Traffic
  | .launch errand now => ({ w with next := w.next + 1 } : Traffic).resume w.next now errand.script
  | .step t now =>
    match w.running.get? t with
    | some (.call c next) =>
      match w.store.step t now c with
      | .blocked => w
      | .answered store answer => ({ w with store := store } : Traffic).resume t now (next answer)
    | _ => w
  | .expire t now =>
    match w.running.get? t with
    | some (.call c next) =>
      match c.locks? with
      | some account =>
        if account ∈ (w.store.transaction t).held then w
        else w.resume t now (next (.error (.lockTimeout account.text)))
      | none => w
    | _ => w
  | .drop t => { w with store := w.store.drop t, running := w.running.erase t }

/-- The traffic after events one after another, from an empty store on. -/
def run (events : List Event) : Traffic := events.foldl act {}

/-- A unit of work needs the lock of an account for its next call. -/
def Needs (w : Traffic) (t : TransactionId) (account : Account) : Prop :=
  ∃ c next, w.running.get? t = some (.call c next) ∧ c.locks? = some account

/-- A unit of work needs a lock that another one holds. -/
def Waits (w : Traffic) (t u : TransactionId) : Prop :=
  t ≠ u ∧ ∃ account, w.Needs t account ∧ account ∈ (w.store.transaction u).held

/-- A unit of work goes on whenever it is its turn. -/
def GoesOn (w : Traffic) (t : TransactionId) : Prop :=
  ∃ c next, w.running.get? t = some (.call c next) ∧
    ∀ now, ∃ store answer, w.store.step t now c = .answered store answer

/-! ## What every event keeps -/

/-- A unit of work that is under way is about to make a call, and its script ascends from the locks
that it holds; one that is not holds none. -/
def InOrder (w : Traffic) (t : TransactionId) : Prop :=
  match w.running.get? t with
  | none => (w.store.transaction t).held = []
  | some script => (∃ c next, script = .call c next) ∧
    ∃ held : List Account, (∀ account, account ∈ held ↔ account ∈ (w.store.transaction t).held) ∧
      script.Ascends (fun _ _ => True) held

/-- The store is sound, units of work have numbers that were given out, and all are in order. -/
structure Orderly (w : Traffic) : Prop where
  /-- The store is sound. -/
  sound : w.store.Sound
  /-- No unit of work has a number that was not given out. -/
  fresh : ∀ t, w.next ≤ t → w.running.get? t = none
  /-- All are in order. -/
  each : ∀ t, w.InOrder t

/-- What is no concern of a unit of work leaves it in order. -/
theorem InOrder.of_others (order : w.InOrder t) (running : w'.running.get? t = w.running.get? t)
    (others : Store.Others t w.store w'.store) : w'.InOrder t := by
  rw [InOrder] at order ⊢
  rw [running, others.transaction]
  exact order

/-- A unit of work goes on up to its end, or up to its next call. -/
theorem resume_cases (w : Traffic) (t : TransactionId) (now : Instant) (rest : Script Unit) :
    w.resume t now rest = { w with store := w.store.drop t, running := w.running.erase t } ∨
    ∃ c next, (rest.settle now {}).1 = .call c next ∧
      w.resume t now rest = { w with running := w.running.insert t (.call c next) } := by
  rcases rest.settle_cases now {} with ⟨a, h⟩ | ⟨c, next, h⟩
  · exact Or.inl (by rw [resume, h])
  · exact Or.inr ⟨c, next, h, by rw [resume, h]⟩

/-- Going on by itself a script ascends as before. -/
theorem ascends_settle {script : Script Unit} {held : List Account} {trail : Trail} (now : Instant)
    (ascends : script.Ascends (fun _ _ => True) held) :
    (script.settle now trail).1.Ascends (fun _ _ => True) held := by
  induction script generalizing trail with
  | done a => exact ascends
  | call c next => exact ascends
  | sleep ms next ih => exact ih ascends
  | advance stage next ih => exact ih ascends
  | now next ih => exact ih now (ascends now)

/-- Traffic stays orderly when a unit of work is dropped. -/
theorem orderly_drop (sound : w.store.Sound)
    (fresh : ∀ u, w.next ≤ u → u ≠ t → w.running.get? u = none)
    (others : ∀ u, u ≠ t → w.InOrder u) :
    ({ w with store := w.store.drop t, running := w.running.erase t } : Traffic).Orderly := by
  refine ⟨sound.drop t, fun u le => ?_, fun u => ?_⟩
  · by_cases same : u = t
    · rw [same]
      exact Table.get?_erase_self _ t
    · exact (Table.get?_erase_of_ne _ same).trans (fresh u le same)
  · by_cases same : u = t
    · subst same
      rw [InOrder, show (w.running.erase u).get? u = none from Table.get?_erase_self _ u,
        Store.transaction_drop_self]
    · exact (others u same).of_others (Table.get?_erase_of_ne _ same) (sound.others_drop same)

/-- Traffic stays orderly when a unit of work goes on with a script that ascends from its locks. -/
theorem orderly_resume {rest : Script Unit} {held : List Account} (now : Instant)
    (sound : w.store.Sound) (fresh : ∀ u, w.next ≤ u → w.running.get? u = none) (given : t < w.next)
    (others : ∀ u, u ≠ t → w.InOrder u)
    (same : ∀ account, account ∈ held ↔ account ∈ (w.store.transaction t).held)
    (ascends : rest.Ascends (fun _ _ => True) held) : (w.resume t now rest).Orderly := by
  rcases w.resume_cases t now rest with eq | ⟨c, next, settled, eq⟩
  · rw [eq]
    exact orderly_drop sound (fun u le _ => fresh u le) others
  · have rises : (rest.settle now {}).1.Ascends (fun _ _ => True) held :=
      ascends_settle now ascends
    rw [settled] at rises
    rw [eq]
    refine ⟨sound, fun u le => ?_, fun u => ?_⟩
    · have different : u ≠ t := Nat.ne_of_gt (Nat.lt_of_lt_of_le given le)
      exact (Table.get?_insert_of_ne _ _ different).trans (fresh u le)
    · by_cases own : u = t
      · subst own
        rw [InOrder, show (w.running.insert u (.call c next)).get? u = some (.call c next) from
          Table.get?_insert_self _ u _]
        exact ⟨⟨c, next, rfl⟩, held, same, rises⟩
      · exact (others u own).of_others (Table.get?_insert_of_ne _ _ own) (.refl sound)

/-- The locks that a script is told of are those that the store has given it. -/
theorem mem_holding_of_step {s s' : Store} {now : Instant} {c : Call}
    {answer : Except StoreError c.Answer} {held : List Account}
    (same : ∀ account, account ∈ held ↔ account ∈ (s.transaction t).held)
    (step : s.step t now c = .answered s' answer) (account : Account) :
    account ∈ c.holding held answer ↔ account ∈ (s'.transaction t).held := by
  cases c with
  | begin =>
    cases step
    rw [Store.begin, Store.transaction_update_self]
    exact Iff.rfl
  | lock other =>
    obtain ⟨-, rfl, rfl⟩ := Store.lock_eq_answered step
    rw [Store.transaction_update_self, Transaction.mem_held_hold, ← same]
    exact List.mem_cons
  | create other initial =>
    rcases Store.create_eq_answered step with
      ⟨-, rfl, rfl⟩ | ⟨-, -, ⟨-, rfl, rfl⟩ | ⟨-, rfl, rfl⟩⟩
    · exact same account
    · rw [Store.transaction_update_self, Transaction.mem_held_hold, ← same]
      exact List.mem_cons
    · rw [Store.transaction_update_self]
      show account ∈ other :: held ↔ account ∈ ((s.transaction t).hold other).held
      rw [Transaction.mem_held_hold, ← same]
      exact List.mem_cons
  | apply other delta =>
    cases step
    rcases Store.apply_cases s t other delta with ⟨_, h⟩ | ⟨_, _, -, -, -, h⟩
    · rw [h]
      exact same account
    · rw [h, Store.transaction_update_self]
      exact same account
  | append posting =>
    cases step
    rcases Store.append_cases s t now posting with ⟨-, h⟩ | ⟨_, -, -, h⟩ | ⟨-, h⟩
    · rw [h]
      exact same account
    · rw [h]
      exact same account
    · rw [h, Store.transaction_update_self]
      exact same account
  | commit =>
    cases step
    rcases Store.commit_cases s t with ⟨_, -, -, h⟩ | ⟨-, h⟩
    · rw [h, Store.transaction_drop_self]
      exact Iff.rfl
    · rw [h]
      have gone : (s.publish t).transaction t = {} := Store.transaction_drop_self s t
      rw [gone]
      exact Iff.rfl
  | rollback =>
    cases step
    rw [Store.transaction_drop_self]
    exact Iff.rfl
  | _ =>
    cases step
    exact same account

/-- Traffic stays orderly whatever happens. -/
theorem Orderly.act (orderly : w.Orderly) (event : Event) : (w.act event).Orderly := by
  have lt_next {t : TransactionId} {script : Script Unit}
      (running : w.running.get? t = some script) : t < w.next := by
    by_contra h
    rw [orderly.fresh t (Nat.le_of_not_lt h)] at running
    cases running
  have order {t : TransactionId} {script : Script Unit}
      (running : w.running.get? t = some script) : ∃ held : List Account,
        (∀ account, account ∈ held ↔ account ∈ (w.store.transaction t).held) ∧
        script.Ascends (fun _ _ => True) held := by
    have each := orderly.each t
    rw [InOrder, running] at each
    exact each.2
  cases event with
  | launch errand now =>
    have vacant := orderly.each w.next
    rw [InOrder, orderly.fresh w.next (Nat.le_refl _)] at vacant
    refine orderly_resume (w := { w with next := w.next + 1 }) now orderly.sound
      (fun u le => orderly.fresh u (Nat.le_of_succ_le le)) (Nat.lt_succ_self _)
      (fun u _ => orderly.each u) (fun account => ?_) errand.ascends
    show account ∈ [] ↔ account ∈ (w.store.transaction w.next).held
    rw [vacant]
  | step t now =>
    rw [Traffic.act]
    split
    case h_1 c next running =>
      split
      case h_1 => exact orderly
      case h_2 store answer step =>
        obtain ⟨held, same, ascends⟩ := order running
        exact orderly_resume (w := { w with store := store }) now (orderly.sound.step step)
          orderly.fresh (lt_next running)
          (fun u different => (orderly.each u).of_others rfl
            (orderly.sound.others_step different step))
          (mem_holding_of_step same step) (ascends.2 answer)
    case h_2 => exact orderly
  | expire t now =>
    rw [Traffic.act]
    split
    case h_1 c next running =>
      split
      case h_1 account locks =>
        split
        case isTrue => exact orderly
        case isFalse =>
          obtain ⟨held, same, ascends⟩ := order running
          have kept : c.holding held (.error (.lockTimeout account.text)) = held := by
            cases c <;> simp_all [Call.holding, Call.locks?]
          refine orderly_resume now orderly.sound orderly.fresh (lt_next running)
            (fun u _ => orderly.each u) same ?_
          have rest := ascends.2 (.error (.lockTimeout account.text))
          rw [kept] at rest
          exact rest
      case h_2 => exact orderly
    case h_2 => exact orderly
  | drop t =>
    exact orderly_drop orderly.sound (fun u le _ => orderly.fresh u le) fun u _ => orderly.each u

/-- All traffic that can come about is orderly. -/
theorem orderly_run (events : List Event) : (run events).Orderly := by
  induction events using List.reverseRecOn with
  | nil => exact ⟨Store.Sound.empty, fun _ _ => rfl, fun _ => rfl⟩
  | append_singleton events event ih =>
    rw [run, List.foldl_append]
    exact ih.act event

/-! ## Rings -/

/-- A unit of work that needs a lock that it does not hold has only locks below it. -/
theorem Orderly.compare_eq_lt (orderly : w.Orderly) {account other : Account}
    (needs : w.Needs t account) (lacks : account ∉ (w.store.transaction t).held)
    (has : other ∈ (w.store.transaction t).held) : compare other account = .lt := by
  obtain ⟨c, next, running, locks⟩ := needs
  have each := orderly.each t
  rw [InOrder, running] at each
  obtain ⟨-, held, same, ⟨-, rises⟩, -⟩ := each
  rcases rises account locks with mem | above
  · exact absurd ((same account).1 mem) lacks
  · exact above other ((same other).2 has)

/-- A unit of work needs one lock at a time. -/
theorem Needs.unique {account other : Account} (needs : w.Needs t account)
    (needs' : w.Needs t other) : other = account := by
  obtain ⟨c, next, running, locks⟩ := needs
  obtain ⟨c', next', running', locks'⟩ := needs'
  cases running.symm.trans running'
  exact Option.some.inj (locks'.symm.trans locks)

/-- A unit of work that waits does not hold what it waits for. -/
theorem Orderly.not_mem_held (orderly : w.Orderly) {account : Account}
    (needs : w.Needs t account) (waits : w.Waits t u) :
    account ∉ (w.store.transaction t).held := by
  obtain ⟨different, other, needs', held⟩ := waits
  obtain rfl := needs.unique needs'
  exact fun own => different (orderly.sound.exclusive own held)

/-- Of some accounts there is one that is below none of the others. -/
theorem exists_greatest {accounts : List Account} (some : accounts ≠ []) :
    ∃ a ∈ accounts, ∀ b ∈ accounts, compare a b ≠ .lt := by
  induction accounts with
  | nil => exact absurd rfl some
  | cons first accounts ih =>
    have self : compare first first ≠ .lt := by
      rw [Std.ReflOrd.compare_self]
      exact nofun
    by_cases none : accounts = []
    · subst none
      exact ⟨first, List.mem_cons_self, fun b mem => List.mem_singleton.1 mem ▸ self⟩
    · obtain ⟨a, mem, greatest⟩ := ih none
      by_cases above : compare a first = .lt
      · refine ⟨first, List.mem_cons_self, fun b there less => ?_⟩
        rcases List.mem_cons.1 there with rfl | there
        · exact self less
        · exact greatest b there (Std.TransCmp.lt_trans above less)
      · refine ⟨a, List.mem_cons_of_mem _ mem, fun b there => ?_⟩
        rcases List.mem_cons.1 there with rfl | there
        · exact above
        · exact greatest b there

/-- Only finitely many accounts are needed. -/
theorem exists_needed (w : Traffic) :
    ∃ needed : List Account, ∀ t account, w.Needs t account → account ∈ needed := by
  refine ⟨w.running.rows.filterMap fun row => row.2.locks?, fun t account needs => ?_⟩
  obtain ⟨c, next, running, locks⟩ := needs
  exact List.mem_filterMap.2 ⟨_, Table.mem_rows_iff.2 running, locks⟩

/-- In orderly traffic no units of work wait for each other in a ring. -/
theorem Orderly.not_ring (orderly : w.Orderly) {ring : Set TransactionId} (some : ring.Nonempty)
    (waits : ∀ t ∈ ring, ∃ u ∈ ring, w.Waits t u) : False := by
  classical
  -- Of all accounts that are needed in the ring, look at a greatest one.
  obtain ⟨needed, all⟩ := w.exists_needed
  obtain ⟨first, mem⟩ := some
  have start : needed.filter (fun account => ∃ t ∈ ring, w.Needs t account) ≠ [] := by
    obtain ⟨_, _, -, account, needs, -⟩ := waits first mem
    refine List.ne_nil_of_mem (a := account) (List.mem_filter.2 ⟨all _ _ needs, ?_⟩)
    exact decide_eq_true ⟨first, mem, needs⟩
  obtain ⟨account, there, greatest⟩ := exists_greatest start
  obtain ⟨t, mem, needs⟩ := of_decide_eq_true (List.mem_filter.1 there).2
  -- Whoever holds it waits for one that is greater still.
  obtain ⟨u, mem', -, account', needs', held⟩ := waits t mem
  obtain rfl := needs.unique needs'
  obtain ⟨v, -, waits'⟩ := waits u mem'
  obtain ⟨-, other, further, -⟩ := id waits'
  have above := orderly.compare_eq_lt further (orderly.not_mem_held further waits') held
  refine greatest other (List.mem_filter.2 ⟨all _ _ further, ?_⟩) above
  exact decide_eq_true ⟨u, mem', further⟩

/-- A call that is not answered needs a lock that another transaction holds. -/
theorem exists_held_of_blocked {s : Store} {now : Instant} {c : Call}
    (blocked : s.step t now c = .blocked) :
    ∃ account u, c.locks? = some account ∧ t ≠ u ∧ account ∈ (s.transaction u).held := by
  have taken {account : Account} (other : s.isHeldByOther t account = true) :
      ∃ u, t ≠ u ∧ account ∈ (s.transaction u).held := by
    by_contra nobody
    have free : s.isHeldByOther t account = false :=
      Store.isHeldByOther_eq_false_iff.2 fun u different held =>
        nobody ⟨u, Ne.symm different, held⟩
    rw [free] at other
    cases other
  cases c with
  | lock account =>
    cases other : s.isHeldByOther t account with
    | true =>
      obtain ⟨u, different, held⟩ := taken other
      exact ⟨account, u, rfl, different, held⟩
    | false => simp [Store.step, Store.lock, other] at blocked
  | create account initial =>
    cases other : s.isHeldByOther t account with
    | true =>
      obtain ⟨u, different, held⟩ := taken other
      exact ⟨account, u, rfl, different, held⟩
    | false =>
      simp only [Store.step, Store.create, other, Bool.false_eq_true, if_false] at blocked
      split at blocked
      · cases blocked
      · split at blocked <;> cases blocked
  | _ => cases blocked

/-- A unit of work under way goes on whenever it is its turn, or it waits for another one that is
under way. -/
theorem Orderly.goesOn_or_waits (orderly : w.Orderly)
    (running : (w.running.get? t).isSome = true) :
    w.GoesOn t ∨ ∃ u, (w.running.get? u).isSome = true ∧ w.Waits t u := by
  obtain ⟨script, running⟩ := Option.isSome_iff_exists.1 running
  have each := orderly.each t
  rw [InOrder, running] at each
  obtain ⟨⟨c, next, rfl⟩, -⟩ := each
  refine or_iff_not_imp_left.2 fun stuck => ?_
  -- If it did not wait, its call would be answered at any time.
  obtain ⟨now, blocked⟩ : ∃ now, w.store.step t now c = .blocked := by
    by_contra never
    refine stuck ⟨c, next, running, fun now => ?_⟩
    cases step : w.store.step t now c with
    | blocked => exact absurd ⟨now, step⟩ never
    | answered store answer => exact ⟨store, answer, rfl⟩
  obtain ⟨account, u, locks, different, held⟩ := exists_held_of_blocked blocked
  refine ⟨u, ?_, different, account, ⟨c, next, running, locks⟩, held⟩
  -- Whoever holds a lock is under way.
  have other := orderly.each u
  rw [InOrder] at other
  cases there : w.running.get? u with
  | some script => rfl
  | none =>
    rw [there] at other
    rw [other] at held
    cases held

/-- However units of work come and go that lock accounts all at once, and whichever accounts these
are, there is never a ring of units of work each of which needs a lock that another one of them
holds. So whenever some are under way, one of them goes on without waiting. -/
theorem no_ring (events : List Event) :
    (¬ ∃ ring : Set TransactionId, ring.Nonempty ∧
      ∀ t ∈ ring, ∃ u ∈ ring, (run events).Waits t u) ∧
    ((∃ t, ((run events).running.get? t).isSome = true) → ∃ t, (run events).GoesOn t) := by
  have orderly := orderly_run events
  refine ⟨fun ⟨ring, members, waits⟩ => orderly.not_ring members waits, fun ⟨t, running⟩ => ?_⟩
  by_contra stuck
  -- If nobody went on, all that are under way would be such a ring.
  let ring : Set TransactionId := fun t => ((run events).running.get? t).isSome = true
  have waits : ∀ u ∈ ring, ∃ v ∈ ring, (run events).Waits u v := by
    intro u mem
    rcases orderly.goesOn_or_waits mem with goes_on | ⟨v, there, waits⟩
    · exact absurd ⟨u, goes_on⟩ stuck
    · exact ⟨v, there, waits⟩
  exact orderly.not_ring ⟨t, running⟩ waits

namespace Sample

/-- A unit of work that makes a wallet. -/
def wallet (user : Int) : Errand :=
  .plain (do let _ ← Script.ask (.createWallet ⟨user⟩ "")) 1 ⟨rfl, Nat.one_pos, fun _ => trivial⟩

/-- A unit of work that locks two accounts and publishes that they have balances. -/
def pair (first second : Account) : Errand :=
  .locking [first, second] (fun _ => do let _ ← Script.ask .commit) 1
    fun _ => ⟨rfl, Nat.one_pos, fun _ => trivial⟩

/-- Two units of work that lock the accounts of two wallets, listed in opposite orders. -/
def crossing : List Event :=
  [.launch (wallet 1) (.ofMillis 0), .step 0 (.ofMillis 1), .launch (wallet 2) (.ofMillis 2),
    .step 1 (.ofMillis 3),
    .launch (pair (World.Sample.dollars 1) (World.Sample.dollars 2)) (.ofMillis 4),
    .launch (pair (World.Sample.dollars 2) (World.Sample.dollars 1)) (.ofMillis 5),
    .step 2 (.ofMillis 6), .step 3 (.ofMillis 7), .step 2 (.ofMillis 8), .step 3 (.ofMillis 9)]

end Sample

/-- The second one waits for the first one, but not the other way round, so one of them goes on. -/
theorem no_ring_crossing :
    (run Sample.crossing).Waits 3 2 ∧ ¬ (run Sample.crossing).Waits 2 3 ∧
      ∃ t, (run Sample.crossing).GoesOn t := by
  have needs : ((run Sample.crossing).running.get? 3).bind Script.locks? =
      some (World.Sample.dollars 1) := by decide +kernel
  have running : ((run Sample.crossing).running.get? 3).isSome = true := by decide +kernel
  have held : World.Sample.dollars 1 ∈ ((run Sample.crossing).store.transaction 2).held := by
    decide +kernel
  have waits : (run Sample.crossing).Waits 3 2 := by
    refine ⟨by decide, World.Sample.dollars 1, ?_, held⟩
    obtain ⟨script, there, locks⟩ := Option.bind_eq_some_iff.1 needs
    cases script with
    | call c next => exact ⟨c, next, there, locks⟩
    | _ => cases locks
  obtain ⟨none, goes_on⟩ := no_ring Sample.crossing
  refine ⟨waits, fun back => none ⟨{2, 3}, ⟨2, Set.mem_insert _ _⟩, ?_⟩, goes_on ⟨3, running⟩⟩
  rintro t (rfl | rfl)
  · exact ⟨3, Set.mem_insert_of_mem _ rfl, back⟩
  · exact ⟨2, Set.mem_insert _ _, waits⟩

end Traffic

end CurrencyLedger
