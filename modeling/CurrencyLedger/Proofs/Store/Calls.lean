import CurrencyLedger.Proofs.Store.Sound

/-! # What the calls of a store do

* **`Store.Change`** — what a call can do to a store, other than publish a transaction;
* **`Store.publish`**, **`commit_cases`** — what publishing does, and when it is refused;
* **`lock_eq_answered`**, **`create_eq_answered`**, **`apply_cases`**, **`append_cases`** — what
  becomes of a call about an account;
* **`step_cases`** — every answered call is one of these. -/

namespace CurrencyLedger.Store

variable {s s' s'' : Store} {t t' : TransactionId}

/-! ## What a call can do -/

/-- Everything that is published, apart from the transactions under way. -/
structure Books where
  /-- The wallets. -/
  wallets : List Wallet
  /-- The number of the next wallet. -/
  nextWallet : Int
  /-- The balances. -/
  balances : Table Account Int
  /-- The entries. -/
  entries : List Entry
  /-- The references of the entries. -/
  references : List String

/-- What a store has published. -/
def books (s : Store) : Books := ⟨s.wallets, s.nextWallet, s.balances, s.entries, s.references⟩

/-- The published amount of an account, zero if it has no balance. -/
def amount (s : Store) (account : Account) : Int := (s.balances.get? account).getD 0

/-- Which wallets there are is published. -/
theorem hasWallet_congr (same : s'.books = s.books) (wallet : WalletId) :
    s'.hasWallet wallet = s.hasWallet wallet := by
  rw [hasWallet, hasWallet, show s'.wallets = s.wallets from congrArg Books.wallets same]

/-- What accounts hold is published. -/
theorem amount_congr (same : s'.books = s.books) : s'.amount = s.amount := by
  funext account
  rw [amount, amount, show s'.balances = s.balances from congrArg Books.balances same]

/-- What a call of a transaction can do to a store, other than publish the transaction. -/
inductive Change (t : TransactionId) (s : Store) : Store → Prop where
  /-- Nothing. -/
  | same : Change t s s
  /-- The transaction goes on. -/
  | own (x : Transaction) (nextEntry : Int)
      (free : ∀ account ∈ x.held, ∀ t', t' ≠ t → account ∉ (s.transaction t').held)
      (staged : ∀ account value, x.staged.get? account = some value →
        account ∈ x.held ∧ s.hasWallet account.wallet = true)
      (distinct : Entry.Distinct x.entries) :
      Change t s (({ s with nextEntry := nextEntry } : Store).update t x)
  /-- The transaction ends without a trace. -/
  | drop : Change t s (s.drop t)
  /-- A wallet is made. -/
  | createWallet (now : Instant) (user : UserId) (name : String) :
      Change t s (s.createWallet now user name).1

/-- The references that a transaction is about to publish. -/
def ownReferences (s : Store) (t : TransactionId) : List String :=
  (s.transaction t).entries.filterMap (·.reference)

/-- The store after a transaction is published. -/
def publish (s : Store) (t : TransactionId) : Store :=
  { s.drop t with
      balances := (s.transaction t).staged.rows.foldl (fun b row => b.insert row.1 row.2) s.balances
      entries := s.entries ++ (s.transaction t).entries
      references := s.ownReferences t ++ s.references }

/-- Publishing a transaction fails and drops it, if one of its references is taken by then;
otherwise everything it has collected is published. -/
theorem commit_cases (s : Store) (t : TransactionId) :
    (∃ reference ∈ s.ownReferences t, reference ∈ s.references ∧
      s.commit t = (s.drop t, .error (.duplicateReference reference))) ∨
    ((∀ reference ∈ s.ownReferences t, reference ∉ s.references) ∧
      s.commit t = (s.publish t, .ok ())) := by
  -- The commit looks for the first reference of its own that is taken.
  cases h : (s.ownReferences t).find? s.references.contains with
  | some reference =>
    refine Or.inl ⟨reference, List.mem_of_find?_eq_some h, ?_, ?_⟩
    · simpa using List.find?_some h
    · rw [ownReferences] at h
      simp only [commit, h]
  | none =>
    refine Or.inr ⟨fun reference mem taken => ?_, ?_⟩
    · simpa [taken] using List.find?_eq_none.1 h reference mem
    · rw [ownReferences] at h
      simp only [commit, h]
      rfl

/-- A lock is granted when no other transaction holds it. -/
theorem lock_eq_answered {account : Account} {answer : Except StoreError (Option Int)}
    (h : s.lock t account = .answered s' answer) :
    s.isHeldByOther t account = false ∧ s' = s.update t ((s.transaction t).hold account) ∧
      answer = .ok (s.current? t account) := by
  cases free : s.isHeldByOther t account with
  | true => simp [lock, free] at h
  | false =>
    simp only [lock, free, Bool.false_eq_true, if_false, Outcome.answered.injEq] at h
    exact ⟨rfl, h.1.symm, h.2.symm⟩

/-- An account is given a balance when it has a wallet, no other transaction holds it and it has no
balance yet. -/
theorem create_eq_answered {account : Account} {initial : Int} {answer : Except StoreError Bool}
    (h : s.create t account initial = .answered s' answer) :
    (s.hasWallet account.wallet = false ∧ s' = s ∧
      answer = .error (.walletNotFound account.wallet)) ∨
    (s.hasWallet account.wallet = true ∧ s.isHeldByOther t account = false ∧
      (((s.current? t account).isSome = true ∧
          s' = s.update t ((s.transaction t).hold account) ∧ answer = .ok false) ∨
        (s.current? t account = none ∧
          s' = s.update t { (s.transaction t).hold account with
            staged := (s.transaction t).staged.insert account initial } ∧
          answer = .ok true))) := by
  cases owned : s.hasWallet account.wallet with
  | false =>
    simp only [create, owned, Bool.not_false, if_true, Outcome.answered.injEq] at h
    exact Or.inl ⟨rfl, h.1.symm, h.2.symm⟩
  | true =>
    cases free : s.isHeldByOther t account with
    | true => simp [create, owned, free] at h
    | false =>
      cases current : s.current? t account with
      | some amount =>
        simp only [create, owned, free, current, Bool.not_true, Bool.false_eq_true, if_false,
          Outcome.answered.injEq] at h
        exact Or.inr ⟨rfl, rfl, Or.inl ⟨rfl, h.1.symm, h.2.symm⟩⟩
      | none =>
        simp only [create, owned, free, current, Bool.not_true, Bool.false_eq_true, if_false,
          Transaction.staged_hold, Outcome.answered.injEq] at h
        exact Or.inr ⟨rfl, rfl, Or.inr ⟨rfl, h.1.symm, h.2.symm⟩⟩

/-- The balance that an account of some amount is moved to, if it can be. -/
def moved (account : Account) (available delta : Int) : Except StoreError Int :=
  if !Decimal.isInt64 (available + delta) then .error (.overflow account)
  else if available + delta < 0 then .error (.insufficientFunds account (-delta) available)
  else .ok (available + delta)

/-- A balance that an account is moved to is the sum, not negative, and can be counted. -/
theorem moved_eq_ok {account : Account} {available delta balance : Int}
    (h : moved account available delta = .ok balance) :
    balance = available + delta ∧ 0 ≤ balance ∧ Decimal.isInt64 balance = true := by
  rw [moved] at h
  split at h
  · cases h
  · split at h
    · cases h
    · cases h
      exact ⟨rfl, by omega, by simpa using ‹¬(!_) = true›⟩

/-- An account that gets something is moved unless it would hold more than can be counted. -/
theorem moved_add (account : Account) {available change : Int} (nonneg : 0 ≤ available)
    (positive : 0 < change) :
    moved account available change =
      if available + change ≤ Decimal.maxInt64 then .ok (available + change)
      else .error (.overflow account) := by
  have low : 0 ≤ available + change := by omega
  rw [moved, Decimal.isInt64_of_nonneg low, if_neg (Int.not_lt.2 low)]
  by_cases fits : available + change ≤ Decimal.maxInt64
  · simp [fits]
  · simp [fits]

/-- An account that gives no more than it holds is moved. -/
theorem moved_sub (account : Account) {available change : Int} (positive : 0 < change)
    (covered : change ≤ available) (le_max : available ≤ Decimal.maxInt64) :
    moved account available (-change) = .ok (available - change) := by
  have counted : Decimal.isInt64 (available + -change) = true := by
    rw [Decimal.maxInt64] at le_max
    rw [Decimal.isInt64_iff, Decimal.minInt64, Decimal.maxInt64]
    omega
  rw [moved, counted, Bool.not_true, if_neg Bool.false_ne_true, if_neg (by omega)]
  rfl

/-- Moving the balance of a locked account that has one changes what the transaction sees of it, or
nothing at all. -/
theorem apply_of_mem_held {account : Account} {available : Int} (delta : Int)
    (held : account ∈ (s.transaction t).held) (current : s.current? t account = some available) :
    s.apply t account delta =
      match moved account available delta with
      | .error e => (s, .error e)
      | .ok balance =>
        (s.update t { s.transaction t with
          staged := (s.transaction t).staged.insert account balance }, .ok balance) := by
  have locked : (s.transaction t).held.contains account = true := by simpa using held
  simp only [apply, locked, Bool.not_true, Bool.false_eq_true, if_false, current, moved]
  split <;> [rfl; (split <;> rfl)]

/-- Moving a balance is an error that changes nothing, or changes what the transaction sees of an
account that it holds. -/
theorem apply_cases (s : Store) (t : TransactionId) (account : Account) (delta : Int) :
    (∃ e, s.apply t account delta = (s, .error e)) ∨
    (∃ available balance, account ∈ (s.transaction t).held ∧
      s.current? t account = some available ∧ moved account available delta = .ok balance ∧
      s.apply t account delta =
        (s.update t { s.transaction t with
          staged := (s.transaction t).staged.insert account balance }, .ok balance)) := by
  -- Without the lock, or without a balance, nothing is moved.
  by_cases held : account ∈ (s.transaction t).held
  · cases current : s.current? t account with
    | none =>
      have locked : (s.transaction t).held.contains account = true := by simpa using held
      exact Or.inl ⟨.missingBalance account, by simp [apply, held, current]⟩
    | some available =>
      rw [apply_of_mem_held delta held current]
      cases h : moved account available delta with
      | error e => exact Or.inl ⟨e, rfl⟩
      | ok balance => exact Or.inr ⟨available, balance, held, rfl, h, rfl⟩
  · exact Or.inl ⟨.notLocked account, by simp [apply, held]⟩

/-- A posting whose wallet exists and whose reference is free becomes the next entry of the
transaction; any other is refused and changes nothing. -/
theorem append_cases (s : Store) (t : TransactionId) (now : Instant) (posting : Posting) :
    (s.hasWallet posting.account.wallet = false ∧
      s.append t now posting = (s, .error (.walletNotFound posting.account.wallet))) ∨
    (∃ reference, posting.reference = some reference ∧ s.isTaken t reference = true ∧
      s.append t now posting = (s, .error (.duplicateReference reference))) ∨
    ((∀ reference, posting.reference = some reference → s.isTaken t reference = false) ∧
      s.append t now posting =
        (({ s with nextEntry := s.nextEntry + 1 } : Store).update t
          { s.transaction t with
            entries := (s.transaction t).entries ++
              [{ posting with id := s.nextEntry, created := now }] },
          .ok { posting with id := s.nextEntry, created := now })) := by
  cases wallet : s.hasWallet posting.account.wallet with
  | false => exact Or.inl ⟨rfl, by simp [append, wallet]⟩
  | true =>
    refine Or.inr ?_
    cases taken : posting.reference.filter (s.isTaken t) with
    | some reference =>
      obtain ⟨named, taken'⟩ := Option.filter_eq_some_iff.1 taken
      exact Or.inl ⟨reference, named, taken', by simp [append, wallet, taken]⟩
    | none =>
      refine Or.inr ⟨fun reference named => ?_, by simp [append, wallet, taken]⟩
      rw [named] at taken
      simpa using taken

/-! ## Every call -/

/-- What a transaction is about to change it holds, and belongs to a wallet. -/
theorem Sound.staged (sound : s.Sound) (account : Account) (value : Int)
    (h : (s.transaction t).staged.get? account = some value) :
    account ∈ (s.transaction t).held ∧ s.hasWallet account.wallet = true :=
  ⟨sound.staged_held h, sound.staged_owned h⟩

/-- With a free lock taken, a transaction holds nothing that others hold. -/
theorem Sound.free_of_mem_hold (sound : s.Sound) {account other : Account}
    (free : s.isHeldByOther t account = false) (mem : other ∈ ((s.transaction t).hold account).held) :
    ∀ t', t' ≠ t → other ∉ (s.transaction t').held := by
  rcases Transaction.mem_held_hold.1 mem with rfl | mem
  · exact isHeldByOther_eq_false_iff.1 free
  · exact sound.free_of_mem_held mem

/-- A transaction that takes a free lock goes on. -/
theorem Sound.change_hold (sound : s.Sound) {account : Account}
    (free : s.isHeldByOther t account = false) :
    Change t s (s.update t ((s.transaction t).hold account)) := by
  refine Change.own (s := s) _ s.nextEntry (fun _ mem => sound.free_of_mem_hold free mem) ?_ ?_
  · intro other value h
    rw [Transaction.staged_hold] at h
    exact (sound.staged other value h).imp_left fun mem => Transaction.mem_held_hold.2 (Or.inr mem)
  · rw [Transaction.entries_hold]
    exact sound.own_distinct t

/-- A transaction that takes a free lock and is about to change the account goes on. -/
theorem Sound.change_hold_insert (sound : s.Sound) {account : Account} {balance : Int}
    (free : s.isHeldByOther t account = false) (owned : s.hasWallet account.wallet = true) :
    Change t s (s.update t { (s.transaction t).hold account with
      staged := (s.transaction t).staged.insert account balance }) := by
  refine Change.own (s := s) _ s.nextEntry (fun _ mem => sound.free_of_mem_hold free mem) ?_ ?_
  · intro other value h
    rw [Table.get?_insert] at h
    split at h
    case isTrue same =>
      rw [same]
      exact ⟨Transaction.mem_held_hold.2 (Or.inl rfl), owned⟩
    case isFalse =>
      exact (sound.staged other value h).imp_left
        fun mem => Transaction.mem_held_hold.2 (Or.inr mem)
  · show Entry.Distinct ((s.transaction t).hold account).entries
    rw [Transaction.entries_hold]
    exact sound.own_distinct t

/-- A transaction that is about to change an account that it holds goes on. -/
theorem Sound.change_insert (sound : s.Sound) {account : Account} {balance : Int}
    (held : account ∈ (s.transaction t).held) (owned : s.hasWallet account.wallet = true) :
    Change t s (s.update t { s.transaction t with
      staged := (s.transaction t).staged.insert account balance }) := by
  refine Change.own (s := s) _ s.nextEntry (fun other mem => sound.free_of_mem_held mem) ?_
    (sound.own_distinct t)
  intro other value h
  rw [Table.get?_insert] at h
  split at h
  case isTrue same =>
    rw [same]
    exact ⟨held, owned⟩
  case isFalse => exact sound.staged other value h

/-- A transaction that writes an entry whose reference is not taken goes on. -/
theorem Sound.change_append (sound : s.Sound) {entry : Entry} (nextEntry : Int)
    (free : ∀ reference, entry.reference = some reference → s.isTaken t reference = false) :
    Change t s (({ s with nextEntry := nextEntry } : Store).update t
      { s.transaction t with entries := (s.transaction t).entries ++ [entry] }) := by
  refine Change.own (s := s) _ nextEntry (fun other mem => sound.free_of_mem_held mem)
    sound.staged ?_
  refine Entry.distinct_append.2 ⟨sound.own_distinct t, List.pairwise_singleton _ _, ?_⟩
  intro own mem other same reference named again
  rw [List.mem_singleton] at same
  have absent := free reference (same ▸ again)
  rw [isTaken, Bool.or_eq_false_iff, Option.isSome_eq_false_iff, Option.isNone_iff_eq_none] at absent
  exact findEntry_eq_none.1 absent.1 own mem named

/-- Every answered call of a transaction changes a sound store in one of the ways of `Change`, or
publishes the transaction. -/
theorem Sound.step_cases (sound : s.Sound) {now : Instant} {c : Call}
    {answer : Except StoreError c.Answer} (h : s.step t now c = .answered s' answer) :
    Change t s s' ∨ (c = .commit ∧ s.commit t = (s', .ok ())) := by
  cases c with
  | begin =>
    cases h
    exact Or.inl (Change.own (s := s) {} s.nextEntry (by simp) (by simp) List.Pairwise.nil)
  | createWallet user name => cases h; exact Or.inl (.createWallet now user name)
  | findWallet wallet => cases h; exact Or.inl .same
  | holdings wallet => cases h; exact Or.inl .same
  | allHoldings => cases h; exact Or.inl .same
  | entries wallet limit => cases h; exact Or.inl .same
  | totals => cases h; exact Or.inl .same
  | lock account =>
    obtain ⟨free, rfl, -⟩ := lock_eq_answered h
    exact Or.inl (sound.change_hold free)
  | create account initial =>
    rcases create_eq_answered h with ⟨-, rfl, -⟩ | ⟨owned, free, ⟨-, rfl, -⟩ | ⟨-, rfl, -⟩⟩
    · exact Or.inl .same
    · exact Or.inl (sound.change_hold free)
    · exact Or.inl (sound.change_hold_insert free owned)
  | apply account delta =>
    cases h
    refine Or.inl ?_
    rcases apply_cases s t account delta with ⟨e, h⟩ | ⟨available, balance, held, current, -, h⟩
    · rw [h]
      exact .same
    · rw [h]
      exact sound.change_insert held (sound.hasWallet_of_current? current)
  | find reference => cases h; exact Or.inl .same
  | append posting =>
    cases h
    refine Or.inl ?_
    rcases append_cases s t now posting with ⟨-, h⟩ | ⟨reference, -, -, h⟩ | ⟨free, h⟩
    · rw [h]
      exact .same
    · rw [h]
      exact .same
    · rw [h]
      exact sound.change_append _ free
  | commit =>
    cases h
    rcases commit_cases s t with ⟨reference, -, -, h⟩ | ⟨-, h⟩
    · rw [h]
      exact Or.inl .drop
    · rw [h]
      exact Or.inr ⟨rfl, rfl⟩
  | rollback => cases h; exact Or.inl .drop

end CurrencyLedger.Store
