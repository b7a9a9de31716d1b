import CurrencyLedger.Proofs.World.Publishing

/-! # Balanced books

Balances and entries are written by different calls, and only the operations tie them together. They
never come apart, however many tasks are under way.

* **`Store.Balanced`** — every balance is what the entries of its account add up to, every entry has
  a balance, and both belong to wallets;
* **`Store.Balanced.publish`** — an order that is ready keeps the books balanced;
* **`World.balances_eq_sum_entries`** — so they are in every world that can be reached. -/

namespace CurrencyLedger

variable {t : TransactionId} {s s' : Store} {account : Account}

namespace Store

/-- What the published entries of an account add up to. -/
def entered (s : Store) (account : Account) : Int :=
  ((s.entries.filter (·.account = account)).map (·.signed)).sum

/-- Balances and entries that belong together. -/
structure Balanced (s : Store) : Prop where
  /-- A balance is not negative, can be counted, and is what the entries of its account add up
  to. -/
  counted : ∀ account balance, s.balances.get? account = some balance →
    0 ≤ balance ∧ balance ≤ Decimal.maxInt64 ∧ balance = s.entered account
  /-- The account of an entry has a balance. -/
  covered : ∀ entry ∈ s.entries, (s.balances.get? entry.account).isSome = true
  /-- An account with a balance belongs to a wallet. -/
  owned : ∀ account balance, s.balances.get? account = some balance →
    s.hasWallet account.wallet = true
  /-- The account of an entry belongs to a wallet. -/
  entry_owned : ∀ entry ∈ s.entries, s.hasWallet entry.account.wallet = true

/-- What the entries add up to is what their postings do. -/
theorem entered_eq_total (s : Store) (account : Account) :
    s.entered account = Posting.total account (s.entries.map (·.toPosting)) := by
  rw [entered, Posting.total, List.filter_map, List.map_map]
  rfl

/-- The store in which nothing has happened has balanced books. -/
theorem balanced_empty : Balanced {} := by
  constructor <;> simp

namespace Balanced

/-- Whether books are balanced can be told from them. -/
theorem of_books (balanced : s.Balanced) (books : s'.books = s.books) : s'.Balanced := by
  have balances : s'.balances = s.balances := congrArg Books.balances books
  have entries : s'.entries = s.entries := congrArg Books.entries books
  have total (account : Account) : s'.entered account = s.entered account := by
    rw [entered, entered, entries]
  refine ⟨fun account balance h => ?_, fun entry mem => ?_, fun account balance h => ?_,
    fun entry mem => ?_⟩
  · rw [total]
    exact balanced.counted account balance (balances ▸ h)
  · rw [balances]
    exact balanced.covered entry (entries ▸ mem)
  · rw [hasWallet_congr books]
    exact balanced.owned account balance (balances ▸ h)
  · rw [hasWallet_congr books]
    exact balanced.entry_owned entry (entries ▸ mem)

/-- A new wallet has neither balances nor entries. -/
theorem createWallet (balanced : s.Balanced) (now : Instant) (user : UserId) (name : String) :
    (s.createWallet now user name).1.Balanced :=
  ⟨balanced.counted, balanced.covered,
    fun account balance h => hasWallet_createWallet now user name (balanced.owned account balance h),
    fun entry mem => hasWallet_createWallet now user name (balanced.entry_owned entry mem)⟩

/-- The amount of every account is what its entries add up to: without a balance it has none. -/
theorem amount_eq (balanced : s.Balanced) (account : Account) :
    s.amount account = s.entered account := by
  rw [amount]
  cases h : s.balances.get? account with
  | some balance => exact (balanced.counted account balance h).2.2
  | none =>
    rw [entered_eq_total, Posting.total_eq_zero]
    · rfl
    · intro posting mem here
      obtain ⟨entry, published, rfl⟩ := List.mem_map.1 mem
      have covered := balanced.covered entry published
      rw [here, h] at covered
      cases covered

/-- What an account holds is not negative and can be counted. -/
theorem amount_bounds (balanced : s.Balanced) (account : Account) :
    0 ≤ s.amount account ∧ s.amount account ≤ Decimal.maxInt64 := by
  rw [amount]
  cases h : s.balances.get? account with
  | none => exact ⟨Int.le_refl 0, by decide⟩
  | some balance =>
    obtain ⟨nonneg, le_max, -⟩ := balanced.counted account balance h
    exact ⟨nonneg, le_max⟩

/-- Publishing an order that is ready keeps the books balanced. -/
theorem publish {e : Surroundings t} {order : Order} {context : Context} {receipt : Order.Receipt}
    (balanced : s.Balanced) (straight : order.isCircular = false)
    (ready : order.Ready e context receipt s) : (s.publish t).Balanced := by
  obtain ⟨recorded, -, drafted⟩ := ready.drafted
  have updated {account : Account} (mem : account ∈ order.accounts) :=
    Order.get?_balances straight ready.evaluated mem (order.completion receipt context recorded)
  -- What is published replaces the balances of the accounts of the order, and adds its postings.
  have get? (account : Account) : (s.publish t).balances.get? account =
      ((order.balances receipt).get? account).or (s.balances.get? account) := by
    rw [get?_balances_publish, ready.staged_eq straight]
  have entered (account : Account) : (s.publish t).entered account = s.amount account +
      Posting.total account (order.postings receipt (order.completion receipt context recorded)) := by
    have more : (s.publish t).entries.map (·.toPosting) = s.entries.map (·.toPosting) ++
        order.postings receipt (order.completion receipt context recorded) := by
      rw [← drafted.posted]
      exact List.map_append
    rw [entered_eq_total, more, Posting.total_append, ← entered_eq_total, balanced.amount_eq]
  -- Nothing is posted to an account that the order does not move.
  have untouched {account : Account} (other : account ∉ order.accounts) :
      Posting.total account (order.postings receipt (order.completion receipt context recorded)) =
        0 := by
    refine Posting.total_eq_zero fun posting mem here => other ?_
    rw [← here]
    exact Order.account_mem_of_mem_postings mem
  have of_own {entry : Entry} (mem : entry ∈ (s.transaction t).entries) :
      entry.account ∈ order.accounts := by
    have posted : entry.toPosting ∈ (s.transaction t).entries.map (·.toPosting) :=
      List.mem_map_of_mem mem
    rw [drafted.posted] at posted
    exact Order.account_mem_of_mem_postings posted
  refine ⟨fun account balance h => ?_, fun entry mem => ?_, fun account balance h => ?_,
    fun entry mem => ?_⟩
  · rw [get?] at h
    rw [entered]
    by_cases mem : account ∈ order.accounts
    · obtain ⟨value, given, sum, nonneg, le_max⟩ := updated mem
      rw [given, Option.some_or] at h
      obtain rfl := Option.some.inj h
      exact ⟨nonneg, le_max, sum⟩
    · have none : (order.balances receipt).get? account = none := by
        rw [Option.eq_none_iff_forall_ne_some]
        exact fun value given => mem (Order.mem_accounts_of_get?_balances given)
      rw [none, Option.none_or] at h
      rw [untouched mem, Int.add_zero, balanced.amount_eq]
      exact balanced.counted account balance h
  · rw [get?]
    rcases List.mem_append.1 mem with old | own
    · have covered := balanced.covered entry old
      cases h : (order.balances receipt).get? entry.account with
      | some value => rfl
      | none => exact covered
    · obtain ⟨value, given, -⟩ := updated (of_own own)
      rw [given]
      rfl
  · rw [get?, Option.or_eq_some_iff] at h
    rcases h with given | ⟨-, old⟩
    · exact drafted.owned account (Order.mem_accounts_of_get?_balances given)
    · exact balanced.owned account balance old
  · rcases List.mem_append.1 mem with old | own
    · exact balanced.entry_owned entry old
    · exact drafted.owned _ (of_own own)

end Balanced

end Store

namespace World

variable {w w' : World} {shows : Instant → Prop}

/-- Whatever an action publishes, the books stay balanced. -/
theorem Publishes.balanced (publishes : w.Publishes shows w') (balanced : w.store.Balanced) :
    w'.store.Balanced := by
  cases publishes with
  | nothing books published => exact balanced.of_books books
  | wallet t user name chosen now trail named vacant store published finished =>
    rw [store]
    exact balanced.createWallet now user chosen
  | order t order policy context fresh receipt trail straight missed ready free vacant store
      published finished =>
    rw [store]
    exact balanced.publish straight ready

/-- In every world that can be reached the books are balanced. -/
theorem balanced_run (actions : List Action) : (run actions).store.Balanced := by
  induction actions using List.reverseRecOn with
  | nil => exact Store.balanced_empty
  | append_singleton actions a ih =>
    have publishes : (run actions).Publishes (fun _ => True) (run (actions ++ [a])) :=
      publishes_run fun _ _ _ _ => trivial
    exact publishes.balanced ih

/-- Whatever tasks are under way, have waited in vain, were repeated or were given up: every balance
is neither negative nor beyond what can be counted and is the sum of the entries of its account,
every entry has a balance, and balances and entries belong to wallets. -/
theorem balances_eq_sum_entries (actions : List Action) :
    (∀ row ∈ (run actions).store.balances.rows, 0 ≤ row.2 ∧ row.2 ≤ Decimal.maxInt64 ∧
      row.2 = (((run actions).store.entries.filter (·.account = row.1)).map (·.signed)).sum) ∧
    (∀ entry ∈ (run actions).store.entries, entry.account ∈ (run actions).store.balances.keys) ∧
    (∀ row ∈ (run actions).store.balances.rows,
      ∃ wallet ∈ (run actions).store.wallets, wallet.id = row.1.wallet) ∧
    ∀ entry ∈ (run actions).store.entries,
      ∃ wallet ∈ (run actions).store.wallets, wallet.id = entry.account.wallet := by
  have balanced := balanced_run actions
  have exists_of {wallet : WalletId} (h : (run actions).store.hasWallet wallet = true) :
      ∃ found ∈ (run actions).store.wallets, found.id = wallet := by
    obtain ⟨found, mem, same⟩ := List.any_eq_true.1 h
    exact ⟨found, mem, eq_of_beq same⟩
  refine ⟨fun row mem => ?_, fun entry mem => ?_, fun row mem => ?_, fun entry mem => ?_⟩
  · exact balanced.counted row.1 row.2 (Table.mem_rows_iff.1 mem)
  · exact Table.mem_keys_iff.2 (balanced.covered entry mem)
  · exact exists_of (balanced.owned row.1 row.2 (Table.mem_rows_iff.1 mem))
  · exact exists_of (balanced.entry_owned entry mem)

end World

end CurrencyLedger
