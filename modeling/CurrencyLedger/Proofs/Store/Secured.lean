import CurrencyLedger.Proofs.Store.Sound

/-! # What is left when accounts are locked

A transaction locks accounts in ascending order, some of which it may hold already, and gives those
of them that have a wallet and no balance an empty one.

* **`Store.secure`** — the store after one account is locked;
* **`Store.Acquired`** — which locks are taken, and in which order;
* **`Store.Secured`**, **`Store.Secured.add`** — what is left when some accounts are locked, and one
  more;
* **`Store.Secured.eq_self`** — where all of it was done before, nothing changes. -/

namespace CurrencyLedger

/-- A lock that is held is not taken again. -/
theorem Transaction.hold_of_mem_held {x : Transaction} {account : Account}
    (held : account ∈ x.held) : x.hold account = x := by
  rw [hold, if_pos (by simpa using held)]

namespace Store

variable {s s' : Store} {t : TransactionId} {account : Account} {accounts : List Account}

/-! ## One account -/

/-- A transaction that is under way stays as it is when its state is replaced by its state. -/
theorem update_transaction (live : (s.live.get? t).isSome = true) :
    s.update t (s.transaction t) = s := by
  obtain ⟨x, live⟩ := Option.isSome_iff_exists.1 live
  have rows : s.live.insert t (s.transaction t) = s.live := by
    refine Table.ext_get? fun u => ?_
    rw [Table.get?_insert]
    split
    case isTrue same => rw [same, transaction, live, Option.getD_some]
    case isFalse => rfl
  rw [update, rows]

/-- Of two states of a transaction the later one stands. -/
theorem update_update (s : Store) (t : TransactionId) (x y : Transaction) :
    (s.update t x).update t y = s.update t y := by
  have rows : (s.live.insert t x).insert t y = s.live.insert t y := by
    refine Table.ext_get? fun u => ?_
    rw [Table.get?_insert, Table.get?_insert, Table.get?_insert]
    split <;> rfl
  rw [update, update, update, rows]

/-- Whether an account is free for a transaction does not depend on its own state. -/
theorem isHeldByOther_update_self (s : Store) (t : TransactionId) (x : Transaction)
    (account : Account) : (s.update t x).isHeldByOther t account = s.isHeldByOther t account := by
  rw [Bool.eq_iff_iff, ← not_iff_not, Bool.not_eq_true, Bool.not_eq_true,
    isHeldByOther_eq_false_iff, isHeldByOther_eq_false_iff]
  exact forall₂_congr fun u different => by rw [transaction_update_of_ne s x different]

/-- Whether an account has neither a balance, as a transaction sees it, nor a wallet. -/
def isHomeless (s : Store) (t : TransactionId) (account : Account) : Bool :=
  (s.current? t account).isNone && !s.hasWallet account.wallet

/-- The store after a transaction has locked an account and given it an empty balance, if it had
none and has a wallet. -/
def secure (s : Store) (t : TransactionId) (account : Account) : Store :=
  s.update t { (s.transaction t).hold account with
    staged :=
      if (s.current? t account).isNone && s.hasWallet account.wallet then
        (s.transaction t).staged.insert account 0
      else (s.transaction t).staged }

/-- An account with a balance is locked and no more. -/
theorem secure_of_current? {amount : Int} (current : s.current? t account = some amount) :
    s.secure t account = s.update t ((s.transaction t).hold account) := by
  rw [secure, current, Option.isNone_some, Bool.false_and, if_neg Bool.false_ne_true,
    ← Transaction.staged_hold (s.transaction t) account]

/-- So is an account without a wallet. -/
theorem secure_of_unowned (unowned : s.hasWallet account.wallet = false) :
    s.secure t account = s.update t ((s.transaction t).hold account) := by
  rw [secure, unowned, Bool.and_false, if_neg Bool.false_ne_true,
    ← Transaction.staged_hold (s.transaction t) account]

/-- An account of a wallet without a balance is locked and gets an empty one. -/
theorem secure_of_missing (missing : s.current? t account = none)
    (owned : s.hasWallet account.wallet = true) :
    s.secure t account = s.update t { (s.transaction t).hold account with
      staged := (s.transaction t).staged.insert account 0 } := by
  rw [secure, missing, owned, Option.isNone_none, Bool.and_true, if_pos rfl]

/-- The account is locked, and no other one besides those that were. -/
theorem held_secure (s : Store) (t : TransactionId) (account : Account) :
    ((s.secure t account).transaction t).held = ((s.transaction t).hold account).held := by
  rw [secure, transaction_update_self]

/-- Nothing is collected but an empty balance for an account of a wallet that had none. -/
theorem staged_secure (s : Store) (t : TransactionId) (account other : Account) :
    ((s.secure t account).transaction t).staged.get? other =
      if other = account ∧ s.current? t other = none ∧ s.hasWallet other.wallet = true then some 0
      else (s.transaction t).staged.get? other := by
  rw [secure, transaction_update_self]
  by_cases here : other = account
  · subst here
    split <;> simp_all
  · split <;> simp_all [Table.get?_insert_of_ne]

/-- Nothing is written. -/
theorem entries_secure (s : Store) (t : TransactionId) (account : Account) :
    ((s.secure t account).transaction t).entries = (s.transaction t).entries := by
  rw [secure, transaction_update_self]
  exact Transaction.entries_hold _ _

/-! ## Several accounts -/

/-- Which locks are taken for some accounts: those that are not held, in ascending order. -/
structure Acquired (held accounts new : List Account) : Prop where
  /-- They are taken in ascending order. -/
  ascending : new.Pairwise fun a b => compare a b = .lt
  /-- Those of the accounts that are not held are taken. -/
  mem : ∀ account, account ∈ new ↔ account ∈ accounts ∧ account ∉ held

namespace Acquired

variable {held new : List Account}

/-- A lock that is held is not taken. -/
theorem add_of_mem (acquired : Acquired held accounts new) (old : account ∈ held) :
    Acquired held (accounts ++ [account]) new := by
  refine ⟨acquired.ascending, fun other => ?_⟩
  rw [acquired.mem, List.mem_append, List.mem_singleton]
  constructor
  · exact fun ⟨listed, free⟩ => ⟨Or.inl listed, free⟩
  · rintro ⟨listed | rfl, free⟩
    · exact ⟨listed, free⟩
    · exact absurd old free

/-- A lock above the others that is not held is taken after them. -/
theorem add_of_not_mem (acquired : Acquired held accounts new) (old : account ∉ held)
    (above : ∀ other ∈ accounts, compare other account = .lt) :
    Acquired held (accounts ++ [account]) (new ++ [account]) := by
  refine ⟨?_, fun other => ?_⟩
  · refine List.pairwise_append.2 ⟨acquired.ascending, List.pairwise_singleton _ _, ?_⟩
    intro other listed last here
    rw [List.mem_singleton.1 here]
    exact above other ((acquired.mem other).1 listed).1
  · rw [List.mem_append, List.mem_append, List.mem_singleton, acquired.mem]
    constructor
    · rintro (⟨listed, free⟩ | rfl)
      · exact ⟨Or.inl listed, free⟩
      · exact ⟨Or.inr rfl, old⟩
    · rintro ⟨listed | rfl, free⟩
      · exact Or.inl ⟨listed, free⟩
      · exact Or.inr rfl

end Acquired

/-- What is left of a store when a transaction has locked some accounts: it alone has changed. -/
structure Secured (s : Store) (t : TransactionId) (accounts : List Account) (s' : Store) :
    Prop where
  /-- All else is as it was. -/
  same : s' = s.update t (s'.transaction t)
  /-- The locks of the accounts were taken, the last one standing first. -/
  acquired : ∃ new, Acquired (s.transaction t).held accounts new ∧
    (s'.transaction t).held = new.reverse ++ (s.transaction t).held
  /-- Those of the accounts that had no balance have an empty one, if they have a wallet, and no
  other balance was collected or moved. -/
  staged : ∀ account, (s'.transaction t).staged.get? account =
    if account ∈ accounts ∧ s.current? t account = none ∧ s.hasWallet account.wallet = true then
      some 0
    else (s.transaction t).staged.get? account
  /-- Nothing was written. -/
  entries : (s'.transaction t).entries = (s.transaction t).entries

namespace Secured

/-- At first no account is locked. -/
theorem nil (live : (s.live.get? t).isSome = true) : s.Secured t [] s where
  same := (update_transaction live).symm
  acquired := ⟨[], ⟨.nil, by simp⟩, rfl⟩
  staged account := by simp
  entries := rfl

/-- Only which accounts are meant matters. -/
theorem congr (secured : s.Secured t accounts s') {accounts' : List Account}
    (same : ∀ account, account ∈ accounts' ↔ account ∈ accounts) : s.Secured t accounts' s' where
  same := secured.same
  acquired := by
    obtain ⟨new, acquired, held⟩ := secured.acquired
    exact ⟨new, ⟨acquired.ascending, fun account => by rw [acquired.mem, same]⟩, held⟩
  staged account := by simp only [secured.staged, same]
  entries := secured.entries

/-- The accounts are locked, and those that were are locked still. -/
theorem mem_held (secured : s.Secured t accounts s') :
    account ∈ (s'.transaction t).held ↔ account ∈ accounts ∨ account ∈ (s.transaction t).held := by
  obtain ⟨new, acquired, held⟩ := secured.acquired
  rw [held, List.mem_append, List.mem_reverse, acquired.mem]
  by_cases old : account ∈ (s.transaction t).held <;> simp [old]

/-- The wallets are what they were. -/
theorem hasWallet_eq (secured : s.Secured t accounts s') (wallet : WalletId) :
    s'.hasWallet wallet = s.hasWallet wallet := by
  rw [secured.same]
  rfl

/-- The locks of others are what they were. -/
theorem isHeldByOther_eq (secured : s.Secured t accounts s') (account : Account) :
    s'.isHeldByOther t account = s.isHeldByOther t account := by
  rw [secured.same, isHeldByOther_update_self]

/-- What accounts hold for the transaction. -/
theorem current?_eq (secured : s.Secured t accounts s') (account : Account) :
    s'.current? t account =
      if account ∈ accounts ∧ s.current? t account = none ∧ s.hasWallet account.wallet = true then
        some 0
      else s.current? t account := by
  have balances : s'.balances = s.balances := by
    rw [secured.same]
    rfl
  rw [current?, secured.staged, balances]
  split
  case isTrue => rfl
  case isFalse => rfl

/-- An account with a balance or a wallet has a balance when it is locked. -/
theorem current?_of_mem (secured : s.Secured t accounts s') (mem : account ∈ accounts)
    (homed : s.current? t account = none → s.hasWallet account.wallet = true) :
    s'.current? t account = some ((s.current? t account).getD 0) := by
  rw [secured.current?_eq]
  cases current : s.current? t account with
  | none => rw [if_pos ⟨mem, rfl, homed current⟩, Option.getD_none]
  | some amount => rw [if_neg fun h => Option.some_ne_none _ h.2.1, Option.getD_some]

/-- Another state of the transaction may replace either one. -/
theorem update_eq (secured : s.Secured t accounts s') (x : Transaction) :
    s'.update t x = s.update t x := by
  rw [secured.same, update_update]

/-- An account above the others is locked after them. -/
theorem add (secured : s.Secured t accounts s')
    (above : ∀ other ∈ accounts, compare other account = .lt) :
    s.Secured t (accounts ++ [account]) (s'.secure t account) := by
  have fresh : account ∉ accounts := fun mem => Table.ne_of_compare_lt (above account mem) rfl
  constructor
  case same => rw [secure, transaction_update_self, secured.update_eq]
  case entries => rw [entries_secure, secured.entries]
  case acquired =>
    obtain ⟨new, acquired, held⟩ := secured.acquired
    rw [held_secure]
    by_cases old : account ∈ (s.transaction t).held
    · -- The account is locked already, so it is not locked now.
      refine ⟨new, acquired.add_of_mem old, ?_⟩
      rw [Transaction.hold_of_mem_held (secured.mem_held.2 (Or.inr old)), held]
    · have free : account ∉ (s'.transaction t).held := by
        rw [secured.mem_held]
        exact not_or.2 ⟨fresh, old⟩
      refine ⟨new ++ [account], acquired.add_of_not_mem old above, ?_⟩
      rw [Transaction.hold, if_neg (by simpa using free), held, List.reverse_append,
        List.reverse_singleton, List.singleton_append, List.cons_append]
  case staged =>
    intro other
    rw [staged_secure, secured.hasWallet_eq, secured.current?_eq, secured.staged]
    by_cases here : other = account
    · subst here
      simp [fresh]
    · simp [here]

/-- Where the accounts are locked already and have balances, nothing is left to be done. -/
theorem eq_self (secured : s.Secured t accounts s') (live : (s.live.get? t).isSome = true)
    (locked : ∀ account ∈ accounts, account ∈ (s.transaction t).held)
    (present : ∀ account ∈ accounts, s.current? t account ≠ none) : s' = s := by
  have held : (s'.transaction t).held = (s.transaction t).held := by
    obtain ⟨new, acquired, held⟩ := secured.acquired
    have none : new = [] := List.eq_nil_iff_forall_not_mem.2 fun account listed =>
      ((acquired.mem account).1 listed).2 (locked account ((acquired.mem account).1 listed).1)
    rw [held, none, List.reverse_nil, List.nil_append]
  have staged : (s'.transaction t).staged = (s.transaction t).staged := by
    refine Table.ext_get? fun account => ?_
    rw [secured.staged, if_neg fun h => present account h.1 h.2.1]
  have fields : ∀ {x y : Transaction}, x.held = y.held → x.staged = y.staged →
      x.entries = y.entries → x = y := by
    rintro ⟨⟩ ⟨⟩ ⟨⟩ ⟨⟩ ⟨⟩
    rfl
  rw [secured.same, fields held staged secured.entries, update_transaction live]

end Secured

end Store

end CurrencyLedger
