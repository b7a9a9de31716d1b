import CurrencyLedger.Proofs.Operation.Ascending
import CurrencyLedger.Proofs.Operation.Locking
import CurrencyLedger.Proofs.Store.Secured
import CurrencyLedger.Proofs.Units.Updates

/-! # A unit of work locks its accounts

Before a unit of work moves anything, it locks all accounts that it is about to move. They may be
listed in any order and more than once, may be locked already, and may have been moved.

* **`Units.handlers`**, **`Units.carryOut`** — a unit of work at a script;
* **`Units.carryOut_lockOne_of_homed`** — what locking one more account comes to;
* **`Units.Locks`**, **`Units.locks_lockAll`** — what locking several accounts comes to;
* **`Units.lockAll_exact`** — so it is whatever units of work have done, and doing it again changes
  nothing. -/

namespace CurrencyLedger

/-- Accounts in two lists are locked as those of the one and then those of the other. -/
theorem StoreScript.lockEach_append (amounts : Table Account Int) (accounts more : List Account) :
    lockEach amounts (accounts ++ more) =
      lockEach amounts accounts >>= fun amounts => lockEach amounts more := by
  induction accounts generalizing amounts with
  | nil => rw [List.nil_append, lockEach, pure_bind]
  | cons account accounts ih => simp only [List.cons_append, lockEach, ih, bind_assoc]

namespace Units

variable {α β : Type} {w w' : Units} {s : Store} {t : TransactionId} {now : Instant}
  {account : Account} {accounts : List Account}

/-! ## A unit of work at a script -/

/-- How the calls of a unit of work are answered. Waiting for a lock is in vain as long as nobody
else moves. -/
def handlers (t : TransactionId) (now : Instant) : Script.Handlers (StateM Units) where
  call c := fun w =>
    match w.store.step t now c with
    | .answered _ answer => (answer, w.act (.ask t c now))
    | .blocked =>
      (.error (.lockTimeout ((c.locks?.map Account.text).getD "")), w.act (.expire t c))
  sleep _ := pure ()
  advance _ := pure ()
  now := pure now

/-- How a call of a unit of work is answered. -/
theorem run_call (t : TransactionId) (now : Instant) (c : Call) (w : Units) :
    ((handlers t now).call c).run w =
      match w.store.step t now c with
      | .answered _ answer => (answer, w.act (.ask t c now))
      | .blocked =>
        (.error (.lockTimeout ((c.locks?.map Account.text).getD "")), w.act (.expire t c)) := rfl

/-- Carries out a script with the calls of a unit of work. -/
def carryOut (t : TransactionId) (now : Instant) (script : Script α) (w : Units) : α × Units :=
  (script.interpret (handlers t now)).run w

/-- Scripts in a row are carried out in a row. -/
theorem carryOut_bind (script : Script α) (f : α → Script β) :
    carryOut t now (script >>= f) w =
      carryOut t now (f (carryOut t now script w).1) (carryOut t now script w).2 := by
  rw [carryOut, Script.interpret_bind, StateT.run_bind]
  rfl

/-- Whatever a unit of work does at a script, it makes moves of its own. -/
theorem exists_moves_carryOut (t : TransactionId) (now : Instant) (script : Script α) (w : Units) :
    ∃ moves : List Move, (∀ move ∈ moves, move.unit? = some t) ∧
      (carryOut t now script w).2 = moves.foldl act w := by
  induction script generalizing w with
  | done a => exact ⟨[], fun _ mem => absurd mem List.not_mem_nil, rfl⟩
  | call c next ih =>
    -- The call is a move, and so is waiting for it in vain.
    obtain ⟨move, own, called⟩ : ∃ move : Move, move.unit? = some t ∧
        (((handlers t now).call c).run w).2 = w.act move := by
      rw [run_call]
      cases w.store.step t now c with
      | blocked => exact ⟨.expire t c, rfl, rfl⟩
      | answered store answer => exact ⟨.ask t c now, rfl, rfl⟩
    obtain ⟨moves, others, rest⟩ := ih (((handlers t now).call c).run w).1 (w.act move)
    refine ⟨move :: moves, ?_, ?_⟩
    · rintro other (_ | ⟨_, mem⟩)
      · exact own
      · exact others other mem
    · rw [List.foldl_cons, ← rest, ← called]
      rfl
  | sleep ms next ih => exact ih w
  | advance stage next ih => exact ih w
  | now next ih => exact ih now w

/-- After a result the rest is carried out. -/
theorem carryOut_bind_of_ok {x : StoreScript α} {f : α → StoreScript β} {a : α}
    (first : carryOut t now x.run w = (.ok a, w')) :
    carryOut t now (x >>= f).run w = carryOut t now (f a).run w' := by
  rw [ExceptT.run_bind, carryOut_bind, first]

/-- After an error nothing is. -/
theorem carryOut_bind_of_error {x : StoreScript α} {f : α → StoreScript β} {e : StoreError}
    (first : carryOut t now x.run w = (.error e, w')) :
    carryOut t now (x >>= f).run w = (.error e, w') := by
  rw [ExceptT.run_bind, carryOut_bind, first]
  rfl

/-- A call that is answered. -/
theorem carryOut_ask {c : Call} {store : Store} {answer : Except StoreError c.Answer}
    (live : w.isLive t = true) (own : c.isOwn = true)
    (step : w.store.step t now c = .answered store answer) :
    ∃ w' : Units, w'.store = store ∧
      carryOut t now (StoreScript.ask c).run w = (answer, w') := by
  have moved : w.act (.ask t c now) = w.note store ⟨some t, c, answer⟩ := by
    rw [act, live, own, step]
    rfl
  refine ⟨w.note store ⟨some t, c, answer⟩, rfl, ?_⟩
  have called : carryOut t now (StoreScript.ask c).run w = ((handlers t now).call c).run w := rfl
  rw [called, run_call, step, ← moved]

/-- A unit of work with a state is under way. -/
theorem isLive_of_update {x : Transaction} (store : w.store = s.update t x) :
    w.isLive t = true := by
  rw [isLive, store, Store.update, Table.get?_insert_self, Option.isSome_some]

/-- An account that is free is locked, and what it holds is told. -/
theorem carryOut_lock (now : Instant) (live : w.isLive t = true)
    (free : w.store.isHeldByOther t account = false) :
    ∃ w' : Units, w'.store = w.store.update t ((w.store.transaction t).hold account) ∧
      carryOut t now (StoreScript.ask (.lock account)).run w =
        (.ok (w.store.current? t account), w') := by
  refine carryOut_ask live rfl ?_
  rw [Store.step, Store.lock, free, if_neg Bool.false_ne_true]

/-- A free account that has a balance is locked, and its balance is told. -/
theorem carryOut_lockOne_of_current? (now : Instant) {amount : Int} (live : w.isLive t = true)
    (free : w.store.isHeldByOther t account = false)
    (current : w.store.current? t account = some amount) :
    ∃ w' : Units, w'.store = w.store.secure t account ∧
      carryOut t now (StoreScript.lockOne account).run w = (.ok amount, w') := by
  obtain ⟨w₁, store₁, locked⟩ := carryOut_lock now live free
  rw [current] at locked
  refine ⟨w₁, store₁.trans (Store.secure_of_current? current).symm, ?_⟩
  rw [StoreScript.lockOne, carryOut_bind_of_ok locked]
  rfl

/-- A free account that has neither a balance nor a wallet is locked, and refused. -/
theorem carryOut_lockOne_of_unowned (now : Instant) (live : w.isLive t = true)
    (free : w.store.isHeldByOther t account = false)
    (missing : w.store.current? t account = none)
    (unowned : w.store.hasWallet account.wallet = false) :
    ∃ w' : Units, w'.store = w.store.secure t account ∧
      carryOut t now (StoreScript.lockOne account).run w =
        (.error (.walletNotFound account.wallet), w') := by
  obtain ⟨w₁, store₁, locked⟩ := carryOut_lock now live free
  rw [missing] at locked
  have refused : w₁.store.step t now (.create account 0) =
      .answered w₁.store (.error (.walletNotFound account.wallet)) := by
    have unowned₁ : w₁.store.hasWallet account.wallet = false := by
      rw [store₁]
      exact unowned
    rw [Store.step, Store.create, unowned₁, Bool.not_false, if_pos rfl]
  obtain ⟨w₂, store₂, failed⟩ := carryOut_ask (isLive_of_update store₁) rfl refused
  refine ⟨w₂, store₂.trans (store₁.trans (Store.secure_of_unowned unowned).symm), ?_⟩
  rw [StoreScript.lockOne, carryOut_bind_of_ok locked]
  exact carryOut_bind_of_error failed

/-- A free account of a wallet that has no balance is locked, and gets an empty one. -/
theorem carryOut_lockOne_of_missing (now : Instant) (live : w.isLive t = true)
    (free : w.store.isHeldByOther t account = false)
    (missing : w.store.current? t account = none)
    (owned : w.store.hasWallet account.wallet = true) :
    ∃ w' : Units, w'.store = w.store.secure t account ∧
      carryOut t now (StoreScript.lockOne account).run w = (.ok 0, w') := by
  obtain ⟨w₁, store₁, locked⟩ := carryOut_lock now live free
  rw [missing] at locked
  have held : account ∈ ((w.store.transaction t).hold account).held :=
    Transaction.mem_held_hold.2 (Or.inl rfl)
  have made : w₁.store.step t now (.create account 0) =
      .answered (w.store.secure t account) (.ok true) := by
    have free₁ : w₁.store.isHeldByOther t account = false := by
      rw [store₁, Store.isHeldByOther_update_self, free]
    have missing₁ : w₁.store.current? t account = none := by
      rw [store₁, Store.current?, Store.transaction_update_self, Transaction.staged_hold]
      exact missing
    have owned₁ : w₁.store.hasWallet account.wallet = true := by
      rw [store₁]
      exact owned
    simp only [Store.step, Store.create, owned₁, free₁, missing₁, Bool.not_true,
      Bool.false_eq_true, if_false]
    rw [store₁, Store.transaction_update_self, Transaction.hold_of_mem_held held,
      Store.update_update, Transaction.staged_hold, Store.secure_of_missing missing owned]
  obtain ⟨w₂, store₂, created⟩ := carryOut_ask (isLive_of_update store₁) rfl made
  -- The lock is held by then, and the new balance is what is told.
  have live₂ := isLive_of_update store₂
  have free₂ : w₂.store.isHeldByOther t account = false := by
    rw [store₂, Store.secure, Store.isHeldByOther_update_self, free]
  obtain ⟨w₃, store₃, told⟩ := carryOut_lock now live₂ free₂
  have same : w₃.store = w₂.store := by
    have held₂ : account ∈ (w₂.store.transaction t).held := by
      rw [store₂, Store.secure, Store.transaction_update_self]
      exact held
    rw [store₃, Transaction.hold_of_mem_held held₂, Store.update_transaction live₂]
  have empty : w₂.store.current? t account = some 0 := by
    rw [store₂, Store.secure_of_missing missing owned, Store.current?,
      Store.transaction_update_self, Table.get?_insert_self, Option.some_or]
  rw [empty] at told
  refine ⟨w₃, same.trans store₂, ?_⟩
  rw [StoreScript.lockOne, carryOut_bind_of_ok locked]
  refine (carryOut_bind_of_ok created).trans ?_
  rw [carryOut_bind_of_ok told]
  rfl

/-! ## Several accounts -/

section Secured

variable {before more : List Account}

/-- An account above those that are locked is locked, and what it holds is told, if it has a balance
or a wallet. -/
theorem carryOut_lockOne_of_homed (now : Instant) (secured : s.Secured t before w.store)
    (above : ∀ other ∈ before, compare other account = .lt)
    (free : s.isHeldByOther t account = false) (homed : s.isHomeless t account = false) :
    ∃ w' : Units, s.Secured t (before ++ [account]) w'.store ∧
      carryOut t now (StoreScript.lockOne account).run w =
        (.ok ((s.current? t account).getD 0), w') := by
  have live := isLive_of_update secured.same
  have fresh : account ∉ before := fun mem => Table.ne_of_compare_lt (above account mem) rfl
  have free' : w.store.isHeldByOther t account = false := by rw [secured.isHeldByOther_eq, free]
  have current' : w.store.current? t account = s.current? t account := by
    rw [secured.current?_eq, if_neg fun h => fresh h.1]
  cases current : s.current? t account with
  | some amount =>
    obtain ⟨w', store, told⟩ :=
      carryOut_lockOne_of_current? now live free' (current'.trans current)
    exact ⟨w', store ▸ secured.add above, told⟩
  | none =>
    have owned : w.store.hasWallet account.wallet = true := by
      rw [secured.hasWallet_eq]
      simpa [Store.isHomeless, current] using homed
    obtain ⟨w', store, told⟩ :=
      carryOut_lockOne_of_missing now live free' (current'.trans current) owned
    exact ⟨w', store ▸ secured.add above, told⟩

/-- An account above those that are locked is locked and refused, if it has neither. -/
theorem carryOut_lockOne_of_isHomeless (now : Instant) (secured : s.Secured t before w.store)
    (above : ∀ other ∈ before, compare other account = .lt)
    (free : s.isHeldByOther t account = false) (homeless : s.isHomeless t account = true) :
    ∃ w' : Units, s.Secured t (before ++ [account]) w'.store ∧
      carryOut t now (StoreScript.lockOne account).run w =
        (.error (.walletNotFound account.wallet), w') := by
  have fresh : account ∉ before := fun mem => Table.ne_of_compare_lt (above account mem) rfl
  obtain ⟨missing, unowned⟩ : s.current? t account = none ∧ s.hasWallet account.wallet = false := by
    simpa [Store.isHomeless] using homeless
  have free' : w.store.isHeldByOther t account = false := by rw [secured.isHeldByOther_eq, free]
  have missing' : w.store.current? t account = none := by
    rw [secured.current?_eq, if_neg fun h => fresh h.1, missing]
  have unowned' : w.store.hasWallet account.wallet = false := by
    rw [secured.hasWallet_eq, unowned]
  obtain ⟨w', store, failed⟩ :=
    carryOut_lockOne_of_unowned now (isLive_of_update secured.same) free' missing' unowned'
  exact ⟨w', store ▸ secured.add above, failed⟩

/-- Accounts in ascending order that have balances or wallets are locked one after another, and what
they hold is told. -/
theorem carryOut_lockEach_of_homed (now : Instant) (amounts : Table Account Int)
    (secured : s.Secured t before w.store)
    (free : ∀ account ∈ more, s.isHeldByOther t account = false)
    (homed : ∀ account ∈ more, s.isHomeless t account = false)
    (ascending : (before ++ more).Pairwise fun a b => compare a b = .lt) :
    ∃ (w' : Units) (amounts' : Table Account Int), s.Secured t (before ++ more) w'.store ∧
      carryOut t now (StoreScript.lockEach amounts more).run w = (.ok amounts', w') ∧
      ∀ account, amounts'.get? account =
        if account ∈ more then some ((s.current? t account).getD 0) else amounts.get? account := by
  -- By induction on the accounts that are left: those before are locked.
  induction more generalizing before amounts w with
  | nil =>
    refine ⟨w, amounts, ?_, rfl, fun account => by simp⟩
    rw [List.append_nil]
    exact secured
  | cons first more ih =>
    obtain ⟨-, ascending', above⟩ := List.pairwise_append.1 ascending
    obtain ⟨below, -⟩ := List.pairwise_cons.1 ascending'
    obtain ⟨w₁, secured₁, told⟩ := carryOut_lockOne_of_homed now secured
      (fun other mem => above other mem first List.mem_cons_self)
      (free first List.mem_cons_self) (homed first List.mem_cons_self)
    rw [List.append_cons] at ascending ⊢
    obtain ⟨w₂, amounts', secured₂, rest, listed⟩ :=
      ih (amounts.insert first ((s.current? t first).getD 0)) secured₁
        (fun account mem => free account (List.mem_cons_of_mem _ mem))
        (fun account mem => homed account (List.mem_cons_of_mem _ mem)) ascending
    refine ⟨w₂, amounts', secured₂, ?_, fun account => ?_⟩
    · rw [StoreScript.lockEach, carryOut_bind_of_ok told, rest]
    · rw [listed, Table.get?_insert]
      by_cases here : account = first
      · subst here
        simp [show account ∉ more from fun mem => Table.ne_of_compare_lt (below account mem) rfl]
      · simp [here]

/-- They are locked as far as the first one that has neither, which is refused. -/
theorem carryOut_lockEach_of_isHomeless (now : Instant) (amounts : Table Account Int)
    {after : List Account} (secured : s.Secured t before w.store)
    (free : ∀ other ∈ more ++ account :: after, s.isHeldByOther t other = false)
    (homed : ∀ other ∈ more, s.isHomeless t other = false)
    (homeless : s.isHomeless t account = true)
    (ascending : (before ++ (more ++ account :: after)).Pairwise fun a b => compare a b = .lt) :
    ∃ w' : Units, s.Secured t (before ++ more ++ [account]) w'.store ∧
      carryOut t now (StoreScript.lockEach amounts (more ++ account :: after)).run w =
        (.error (.walletNotFound account.wallet), w') := by
  rw [← List.append_assoc] at ascending
  obtain ⟨ascending', -, above⟩ := List.pairwise_append.1 ascending
  obtain ⟨w₁, amounts', secured₁, told, -⟩ := carryOut_lockEach_of_homed now amounts secured
    (fun other mem => free other (List.mem_append_left _ mem)) homed ascending'
  obtain ⟨w₂, secured₂, failed⟩ := carryOut_lockOne_of_isHomeless now secured₁
    (fun other mem => above other mem account List.mem_cons_self)
    (free account (List.mem_append_right _ List.mem_cons_self)) homeless
  refine ⟨w₂, secured₂, ?_⟩
  rw [StoreScript.lockEach_append, carryOut_bind_of_ok told]
  exact carryOut_bind_of_error failed

end Secured

/-- What locking several accounts comes to, if nobody else holds one of them. -/
inductive Locks (w : Units) (t : TransactionId) (accounts : List Account) :
    Except StoreError (Table Account Int) × Units → Prop
  /-- Every account has a balance or a wallet: all are locked, and what they hold is told. -/
  | locked (amounts : Table Account Int) (w' : Units)
      (homed : ∀ account ∈ accounts, w.store.current? t account = none →
        w.store.hasWallet account.wallet = true)
      (told : ∀ account, amounts.get? account =
        if account ∈ accounts then some ((w.store.current? t account).getD 0) else none)
      (secured : w.store.Secured t accounts w'.store) : Locks w t accounts (.ok amounts, w')
  /-- Some account has neither: the least one is refused, and only those up to it are locked. -/
  | refused (account : Account) (w' : Units) (mem : account ∈ accounts)
      (missing : w.store.current? t account = none)
      (unowned : w.store.hasWallet account.wallet = false)
      (least : ∀ other ∈ accounts, w.store.current? t other = none →
        w.store.hasWallet other.wallet = false → (compare account other).isLE = true)
      (secured : w.store.Secured t (accounts.filter fun other => (compare other account).isLE)
        w'.store) :
      Locks w t accounts (.error (.walletNotFound account.wallet), w')

/-- Locking several accounts comes to one of these. -/
theorem locks_lockAll (now : Instant) (live : w.isLive t = true)
    (free : ∀ account ∈ accounts, w.store.isHeldByOther t account = false) :
    w.Locks t accounts (carryOut t now (StoreScript.lockAll accounts).run w) := by
  have begun : w.store.Secured t [] w.store := .nil live
  have ascending := Account.pairwise_ascending accounts
  have free' : ∀ account ∈ Account.ascending accounts,
      w.store.isHeldByOther t account = false :=
    fun account mem => free account (Account.mem_ascending.1 mem)
  -- The first account in ascending order that has neither a balance nor a wallet decides.
  cases found : (Account.ascending accounts).find? (w.store.isHomeless t) with
  | none =>
    have homed : ∀ account ∈ Account.ascending accounts, w.store.isHomeless t account = false :=
      fun account mem => by simpa using List.find?_eq_none.1 found account mem
    obtain ⟨w', amounts, secured, told, listed⟩ :=
      carryOut_lockEach_of_homed now .empty begun free' homed ascending
    rw [StoreScript.lockAll, told]
    refine .locked amounts w' (fun account mem missing => ?_) (fun account => ?_)
      (secured.congr fun account => Account.mem_ascending.symm)
    · simpa [Store.isHomeless, missing] using homed account (Account.mem_ascending.2 mem)
    · simp only [listed, Account.mem_ascending, Table.get?_empty]
  | some account =>
    obtain ⟨homeless, before, after, split, homed⟩ := List.find?_eq_some_iff_append.1 found
    obtain ⟨missing, unowned⟩ :
        w.store.current? t account = none ∧ w.store.hasWallet account.wallet = false := by
      simpa [Store.isHomeless] using homeless
    have least : ∀ other ∈ accounts, w.store.current? t other = none →
        w.store.hasWallet other.wallet = false → (compare account other).isLE = true :=
      fun other mem missing' unowned' =>
        Table.isLE_of_find? ascending found (Account.mem_ascending.2 mem)
          (by simp [Store.isHomeless, missing', unowned'])
    have mem := Account.mem_ascending.1 (List.mem_of_find?_eq_some found)
    rw [split] at ascending free'
    obtain ⟨w', secured, failed⟩ := carryOut_lockEach_of_isHomeless now .empty begun free'
      (fun other mem => by simpa using homed other mem) homeless ascending
    rw [StoreScript.lockAll, split, failed]
    refine .refused account w' mem missing unowned least (secured.congr fun other => ?_)
    rw [List.mem_filter, ← Account.mem_ascending, split]
    exact (Table.mem_upTo_iff ascending).symm

/-! ## Once more -/

/-- What others do one after another is no concern of a unit of work that is under way. -/
theorem Accounted.others_foldl (accounted : w.Accounted) (live : w.isLive t = true)
    {moves : List Move} (others : ∀ move ∈ moves, move.unit? ≠ some t) :
    Store.Others t w.store (moves.foldl act w).store := by
  induction moves generalizing w with
  | nil => exact .refl accounted.sound
  | cons move moves ih =>
    have acts := acts_act w move
    have first := accounted.others_acts live (others move List.mem_cons_self) acts
    exact first.trans (ih (accounted.acts acts) (by rw [isLive_of_others first, live])
      fun move mem => others move (List.mem_cons_of_mem _ mem))

/-- Locking accounts that are locked already, and have balances, tells their balances and changes
nothing. -/
theorem lockAll_of_held (sound : w.store.Sound) (live : w.isLive t = true)
    {amounts : Table Account Int}
    (held : ∀ account ∈ accounts, account ∈ (w.store.transaction t).held)
    (told : ∀ account, amounts.get? account =
      if account ∈ accounts then w.store.current? t account else none)
    (present : ∀ account ∈ accounts, w.store.current? t account ≠ none) :
    (carryOut t now (StoreScript.lockAll accounts).run w).1 = .ok amounts ∧
      (carryOut t now (StoreScript.lockAll accounts).run w).2.store = w.store := by
  have free : ∀ account ∈ accounts, w.store.isHeldByOther t account = false := fun account mem =>
    Store.isHeldByOther_eq_false_iff.2 (sound.free_of_mem_held (held account mem))
  have locks := locks_lockAll now live free
  generalize carryOut t now (StoreScript.lockAll accounts).run w = outcome at locks
  cases locks with
  | locked amounts' w' _ told' secured =>
    refine ⟨congrArg Except.ok (Table.ext_get? fun account => ?_),
      secured.eq_self live held present⟩
    rw [told, told']
    split
    case isFalse => rfl
    case isTrue mem =>
      obtain ⟨amount, current⟩ := Option.ne_none_iff_exists'.1 (present account mem)
      rw [current, Option.getD_some]
  | refused account w' mem missing => exact absurd missing (present account mem)

/-- Whatever units of work have done: a unit of work that locks accounts, in whatever order and
however often they are listed, of which nobody else holds one, locks all of them and is told what
they hold, or is refused for the least one that has neither a balance nor a wallet. Whatever others
do afterwards, to lock the same accounts once more tells the same and changes nothing. -/
theorem lockAll_exact (moves : List Move) (t : TransactionId) (accounts : List Account)
    (now : Instant) (live : (run moves).isLive t = true)
    (free : ∀ account ∈ accounts, (run moves).store.isHeldByOther t account = false) :
    let after := carryOut t now (StoreScript.lockAll accounts).run (run moves)
    (run moves).Locks t accounts after ∧
    (∃ own : List Move, (∀ move ∈ own, move.unit? = some t) ∧ after.2 = run (moves ++ own)) ∧
    ∀ (amounts : Table Account Int) (others : List Move) (later : Instant),
      after.1 = .ok amounts → (∀ move ∈ others, move.unit? ≠ some t) →
      let again := carryOut t later (StoreScript.lockAll accounts).run (others.foldl act after.2)
      again.1 = .ok amounts ∧ again.2.store = (others.foldl act after.2).store := by
  intro after
  have locks : (run moves).Locks t accounts after := locks_lockAll now live free
  obtain ⟨own, mine, reached⟩ :=
    exists_moves_carryOut t now (StoreScript.lockAll accounts).run (run moves)
  have reached : after.2 = run (moves ++ own) := by
    rw [run, List.foldl_append]
    exact reached
  refine ⟨locks, ⟨own, mine, reached⟩, ?_⟩
  intro amounts others later result apart
  have accounted : after.2.Accounted := reached ▸ accounted_run _
  generalize after = outcome at locks result accounted
  cases locks with
  | refused => cases result
  | locked amounts' w' homed told secured =>
    cases result
    have live' : w'.isLive t = true := isLive_of_update secured.same
    have between := accounted.others_foldl live' apart
    have held : ∀ account ∈ accounts, account ∈ (w'.store.transaction t).held :=
      fun account mem => secured.mem_held.2 (Or.inl mem)
    -- Nobody else moves what is locked, so the accounts hold what was told.
    have current : ∀ account ∈ accounts, (others.foldl act w').store.current? t account =
        some (((run moves).store.current? t account).getD 0) := by
      intro account mem
      rw [between.current?_eq (held account mem),
        secured.current?_of_mem mem (homed account mem)]
    refine lockAll_of_held between.sound ?_ ?_ ?_ ?_
    · rw [isLive_of_others between, live']
    · intro account mem
      rw [between.transaction]
      exact held account mem
    · intro account
      rw [told]
      split
      case isTrue mem => rw [current account mem]
      case isFalse => rfl
    · intro account mem
      rw [current account mem]
      exact Option.some_ne_none _

namespace Sample

/-- The crowns of the first wallet, which has none. -/
def crowns : Account := ⟨⟨1⟩, ⟨"SEK", by decide⟩⟩

end Sample

/-- A unit of work that has a hundred francs, not yet published, and no crowns locks crowns, francs
and crowns. It is told of a hundred and of none, and of the same after another one has begun. -/
theorem lockAll_exact_contended :
    (run Sample.contended).isLive 1 = true ∧
    (∀ account ∈ [Sample.crowns, Sample.account, Sample.crowns],
      (run Sample.contended).store.isHeldByOther 1 account = false) ∧
    ∃ (amounts : Table Account Int) (w' : Units),
      carryOut 1 (.ofMillis 9)
          (StoreScript.lockAll [Sample.crowns, Sample.account, Sample.crowns]).run
          (run Sample.contended) = (.ok amounts, w') ∧
      amounts.get? Sample.account = some 100 ∧ amounts.get? Sample.crowns = some 0 ∧
      (carryOut 1 (.ofMillis 10)
          (StoreScript.lockAll [Sample.crowns, Sample.account, Sample.crowns]).run
          (w'.act .begin)).1 = .ok amounts := by
  have live : (run Sample.contended).isLive 1 = true := by decide +kernel
  have free : ∀ account ∈ [Sample.crowns, Sample.account, Sample.crowns],
      (run Sample.contended).store.isHeldByOther 1 account = false := by decide +kernel
  obtain ⟨locks, -, again⟩ := lockAll_exact Sample.contended 1
    [Sample.crowns, Sample.account, Sample.crowns] (.ofMillis 9) live free
  refine ⟨live, free, ?_⟩
  generalize carryOut 1 (.ofMillis 9)
    (StoreScript.lockAll [Sample.crowns, Sample.account, Sample.crowns]).run
    (run Sample.contended) = outcome at locks again
  cases locks with
  | locked amounts w' _ told =>
    have francs : amounts.get? Sample.account = some 100 := (told _).trans (by decide +kernel)
    have crowns : amounts.get? Sample.crowns = some 0 := (told _).trans (by decide +kernel)
    have twice := (again amounts [.begin] (.ofMillis 10) rfl (by decide)).1
    exact ⟨amounts, w', rfl, francs, crowns, twice⟩
  | refused account _ mem _ unowned =>
    have owned : ∀ account ∈ [Sample.crowns, Sample.account, Sample.crowns],
        (run Sample.contended).store.hasWallet account.wallet = true := by decide +kernel
    rw [owned account mem] at unowned
    cases unowned

end Units

end CurrencyLedger
