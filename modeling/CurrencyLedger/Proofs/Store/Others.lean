import CurrencyLedger.Proofs.Store.Calls

/-! # Transactions among others

What a transaction can count on while others go on: its own state stays, the accounts it holds keep
their balances, and nothing that was published is lost.

* **`Store.Others`** — what may have happened to a store from the point of view of a transaction
  that was not asked;
* **`Sound.step`** — every answered call keeps a store sound;
* **`Sound.others_step`**, **`Sound.others_drop`** — calls and ends of other transactions are such
  changes. -/

namespace CurrencyLedger.Store

variable {s s' s'' : Store} {t t' : TransactionId}

/-- What may have happened to a store from the point of view of a transaction that was not
asked. -/
structure Others (t : TransactionId) (s s' : Store) : Prop where
  /-- The store is sound. -/
  sound : s'.Sound
  /-- The transaction has not moved. -/
  live : s'.live.get? t = s.live.get? t
  /-- The accounts it holds have kept their balances. -/
  balances : ∀ account ∈ (s.transaction t).held, s'.balances.get? account = s.balances.get? account
  /-- No wallet is lost. -/
  wallets : ∀ wallet, s.hasWallet wallet = true → s'.hasWallet wallet = true
  /-- Entries are only added. -/
  entries : s.entries <+: s'.entries

/-- The state of the transaction is the same afterwards. -/
theorem Others.transaction (others : Others t s s') : s'.transaction t = s.transaction t :=
  transaction_eq_of_get?_eq others.live

/-- Nothing may have happened. -/
theorem Others.refl (sound : s.Sound) : Others t s s where
  sound := sound
  live := rfl
  balances _ _ := rfl
  wallets _ owned := owned
  entries := List.prefix_refl _

/-- One thing after another may have happened. -/
theorem Others.trans (first : Others t s s') (second : Others t s' s'') : Others t s s'' where
  sound := second.sound
  live := second.live.trans first.live
  balances account mem :=
    (second.balances account (first.transaction ▸ mem)).trans (first.balances account mem)
  wallets wallet owned := second.wallets wallet (first.wallets wallet owned)
  entries := first.entries.trans second.entries

/-- What the transaction sees of an account that it holds is the same afterwards. -/
theorem Others.current?_eq (others : Others t s s') {account : Account}
    (held : account ∈ (s.transaction t).held) : s'.current? t account = s.current? t account := by
  rw [current?, current?, others.transaction, others.balances account held]

/-- The amount of an account that the transaction holds is the same afterwards. -/
theorem Others.amount_eq (others : Others t s s') {account : Account}
    (held : account ∈ (s.transaction t).held) : s'.amount account = s.amount account := by
  rw [amount, amount, others.balances account held]

/-- An entry that was found under a reference is found afterwards. -/
theorem findEntry_eq_some_of_prefix {entries entries' : List Entry} {reference : String}
    {entry : Entry} (more : entries <+: entries')
    (h : findEntry entries reference = some entry) :
    findEntry entries' reference = some entry := by
  obtain ⟨new, rfl⟩ := more
  rw [findEntry, List.find?_append]
  rw [findEntry] at h
  rw [h, Option.some_or]

/-! ## Changes by other transactions -/

/-- A store that differs only in the next number of an entry is as sound. -/
theorem Sound.withNextEntry (sound : s.Sound) (nextEntry : Int) :
    ({ s with nextEntry := nextEntry } : Store).Sound :=
  ⟨sound.exclusive, sound.staged_held, sound.staged_owned, sound.owned, sound.indexed,
    sound.distinct, sound.own_distinct⟩

/-- A store stays sound when a transaction ends. -/
theorem Sound.drop (sound : s.Sound) (t : TransactionId) : (s.drop t).Sound := by
  have gone : ∀ {u account}, account ∈ ((s.drop t).transaction u).held →
      u ≠ t ∧ account ∈ (s.transaction u).held := by
    intro u account mem
    by_cases same : u = t
    · simp [same] at mem
    · exact ⟨same, transaction_drop_of_ne s same ▸ mem⟩
  have staged : ∀ {u account value}, ((s.drop t).transaction u).staged.get? account = some value →
      u ≠ t ∧ (s.transaction u).staged.get? account = some value := by
    intro u account value h
    by_cases same : u = t
    · simp [same] at h
    · exact ⟨same, transaction_drop_of_ne s same ▸ h⟩
  refine ⟨fun first second => sound.exclusive (gone first).2 (gone second).2, fun h => ?_,
    fun h => sound.staged_owned (staged h).2, sound.owned, sound.indexed, sound.distinct, ?_⟩
  · rw [transaction_drop_of_ne s (staged h).1]
    exact sound.staged_held (staged h).2
  · intro u
    by_cases same : u = t
    · rw [same, transaction_drop_self]
      exact List.Pairwise.nil
    · rw [transaction_drop_of_ne s same]
      exact sound.own_distinct u

/-- Wallets are not lost when one is made. -/
theorem hasWallet_createWallet {wallet : WalletId} (now : Instant) (user : UserId) (name : String)
    (h : s.hasWallet wallet = true) : (s.createWallet now user name).1.hasWallet wallet = true := by
  rw [hasWallet] at h
  rw [createWallet, hasWallet, List.any_append, h, Bool.true_or]

/-- A store stays sound when a wallet is made. -/
theorem Sound.createWallet (sound : s.Sound) (now : Instant) (user : UserId) (name : String) :
    (s.createWallet now user name).1.Sound :=
  ⟨sound.exclusive, sound.staged_held,
    fun h => hasWallet_createWallet now user name (sound.staged_owned h),
    fun h => hasWallet_createWallet now user name (sound.owned h), sound.indexed, sound.distinct,
    sound.own_distinct⟩

/-- A store stays sound when a call changes it other than by publishing. -/
theorem Sound.change (sound : s.Sound) (change : Change t s s') : s'.Sound := by
  cases change with
  | same => exact sound
  | own x nextEntry free staged distinct =>
    exact (sound.withNextEntry nextEntry).update free staged distinct
  | drop => exact sound.drop t
  | createWallet now user name => exact sound.createWallet now user name

/-- What is published after a transaction was: its own balance, or else the one before. -/
theorem get?_balances_publish (s : Store) (t : TransactionId) (account : Account) :
    (s.publish t).balances.get? account =
      ((s.transaction t).staged.get? account).or (s.balances.get? account) :=
  Table.get?_foldl_insert (s.transaction t).staged s.balances account

/-- A reference of a transaction is one of its entries'. -/
theorem mem_ownReferences {reference : String} :
    reference ∈ s.ownReferences t ↔
      ∃ e ∈ (s.transaction t).entries, e.reference = some reference := by
  rw [ownReferences, List.mem_filterMap]

/-- A store stays sound when a transaction is published whose references are free. -/
theorem Sound.publish (sound : s.Sound)
    (free : ∀ reference ∈ s.ownReferences t, reference ∉ s.references) : (s.publish t).Sound where
  exclusive := (sound.drop t).exclusive
  staged_held := (sound.drop t).staged_held
  staged_owned := (sound.drop t).staged_owned
  owned := by
    intro account value h
    rw [get?_balances_publish, Option.or_eq_some_iff] at h
    rcases h with h | ⟨-, h⟩
    · exact sound.staged_owned h
    · exact sound.owned h
  indexed := by
    intro reference
    show reference ∈ s.ownReferences t ++ s.references ↔
      ∃ e ∈ s.entries ++ (s.transaction t).entries, e.reference = some reference
    rw [List.mem_append, mem_ownReferences, sound.indexed]
    simp only [List.mem_append, or_and_right, exists_or]
    exact or_comm
  distinct := by
    -- A reference that both had would be taken, while those of the transaction are free.
    refine Entry.distinct_append.2 ⟨sound.distinct, sound.own_distinct t, ?_⟩
    intro old mem own own_mem reference named again
    exact free reference (mem_ownReferences.2 ⟨own, own_mem, again⟩)
      ((sound.indexed reference).2 ⟨old, mem, named⟩)
  own_distinct := (sound.drop t).own_distinct

/-- Every answered call keeps a store sound. -/
theorem Sound.step (sound : s.Sound) {now : Instant} {c : Call}
    {answer : Except StoreError c.Answer} (h : s.step t now c = .answered s' answer) :
    s'.Sound := by
  rcases sound.step_cases h with change | ⟨rfl, committed⟩
  · exact sound.change change
  · rcases commit_cases s t with ⟨_, -, -, h⟩ | ⟨free, h⟩
    · simp [committed] at h
    · rw [committed] at h
      cases h
      exact sound.publish free

/-- The end of another transaction is no concern of a transaction. -/
theorem Sound.others_drop (sound : s.Sound) (different : t' ≠ t) : Others t' s (s.drop t) where
  sound := sound.drop t
  live := Table.get?_erase_of_ne _ different
  balances _ _ := rfl
  wallets _ owned := owned
  entries := List.prefix_refl _

/-- Whatever a call of another transaction does, short of publishing it, is no concern of a
transaction. -/
theorem Sound.others_change (sound : s.Sound) (different : t' ≠ t) (change : Change t s s') :
    Others t' s s' := by
  have sound' := sound.change change
  cases change with
  | same => exact .refl sound
  | own x nextEntry free staged distinct =>
    exact ⟨sound', Table.get?_insert_of_ne _ _ different, fun _ _ => rfl, fun _ owned => owned,
      List.prefix_refl _⟩
  | drop => exact sound.others_drop different
  | createWallet now user name =>
    exact ⟨sound', rfl, fun _ _ => rfl,
      fun _ owned => hasWallet_createWallet now user name owned, List.prefix_refl _⟩

/-- Publishing another transaction is no concern of a transaction: what is published was locked by
the other. -/
theorem Sound.others_publish (sound : s.Sound) (different : t' ≠ t)
    (free : ∀ reference ∈ s.ownReferences t, reference ∉ s.references) :
    Others t' s (s.publish t) where
  sound := sound.publish free
  live := Table.get?_erase_of_ne _ different
  balances := by
    intro account held
    -- What the other one is about to change it has locked, so it is none of the accounts held.
    rw [get?_balances_publish]
    cases h : (s.transaction t).staged.get? account with
    | none => rw [Option.none_or]
    | some value => exact absurd (sound.exclusive held (sound.staged_held h)) different
  wallets _ owned := owned
  entries := List.prefix_append _ _

/-- Every answered call of another transaction is no concern of a transaction. -/
theorem Sound.others_step (sound : s.Sound) (different : t' ≠ t) {now : Instant} {c : Call}
    {answer : Except StoreError c.Answer} (h : s.step t now c = .answered s' answer) :
    Others t' s s' := by
  rcases sound.step_cases h with change | ⟨rfl, committed⟩
  · exact sound.others_change different change
  · rcases commit_cases s t with ⟨_, -, -, h⟩ | ⟨free, h⟩
    · simp [committed] at h
    · rw [committed] at h
      cases h
      exact sound.others_publish different free

end CurrencyLedger.Store
