import CurrencyLedger.Proofs.Units.Updates

/-! # What drafts are made of

Until a transaction is published, its balances and entries are its own. Every balance among them was
given to an account that had none, or was checked when the account was moved; every entry has a
number that was the next one when it was written.

* **`Store.Drafts`**, **`Store.drafts_of_step`** — what a call adds to the draft of its transaction;
* **`Store.Ranged`** — balances that can be counted, and numbers that were given out;
* **`Store.Ranged.step`** — so it stays, if no account is given a balance that cannot be counted. -/

namespace CurrencyLedger.Store

variable {s s' : Store} {t u : TransactionId} {c : Call}

/-- Whether an amount is not negative and can be counted. -/
def IsBalance (amount : Int) : Prop := 0 ≤ amount ∧ amount ≤ Decimal.maxInt64

/-- What a call adds to the draft of its transaction. -/
structure Drafts (t : TransactionId) (c : Call) (s s' : Store) : Prop where
  /-- Numbers are not given back. -/
  next : s.nextEntry ≤ s'.nextEntry
  /-- A balance was there before, is the first one of its account, or was checked. -/
  staged : ∀ account amount, (s'.transaction t).staged.get? account = some amount →
    (s.transaction t).staged.get? account = some amount ∨ c = .create account amount ∨
      IsBalance amount
  /-- An entry was there before, or has the next number. -/
  entries : ∀ entry ∈ (s'.transaction t).entries, entry ∈ (s.transaction t).entries ∨
    entry.id = s.nextEntry ∧ s.nextEntry < s'.nextEntry

/-- A call that leaves the draft alone adds nothing to it. -/
theorem Drafts.of_same (next : s'.nextEntry = s.nextEntry)
    (staged : (s'.transaction t).staged = (s.transaction t).staged)
    (entries : (s'.transaction t).entries = (s.transaction t).entries) : Drafts t c s s' where
  next := Int.le_of_eq next.symm
  staged _ _ h := Or.inl (staged ▸ h)
  entries _ mem := Or.inl (entries ▸ mem)

/-- A call that empties the draft adds nothing to it. -/
theorem Drafts.of_empty (next : s'.nextEntry = s.nextEntry) (empty : s'.transaction t = {}) :
    Drafts t c s s' := by
  refine ⟨Int.le_of_eq next.symm, fun account amount h => ?_, fun entry mem => ?_⟩
  · rw [empty] at h
    cases h
  · rw [empty] at mem
    cases mem

/-- Every answered call adds this to the draft of its transaction. -/
theorem drafts_of_step {now : Instant} {answer : Except StoreError c.Answer}
    (step : s.step t now c = .answered s' answer) : Drafts t c s s' := by
  -- Taking a lock changes neither balances nor entries.
  have locked (account : Account) :
      Drafts t c s (s.update t ((s.transaction t).hold account)) := by
    refine .of_same rfl ?_ ?_
    · rw [transaction_update_self, Transaction.staged_hold]
    · rw [transaction_update_self, Transaction.entries_hold]
  cases c with
  | begin =>
    cases step
    exact .of_empty rfl (transaction_update_self s t {})
  | lock account =>
    obtain ⟨-, rfl, -⟩ := lock_eq_answered step
    exact locked account
  | create account initial =>
    rcases create_eq_answered step with ⟨-, rfl, -⟩ | ⟨-, -, ⟨-, rfl, -⟩ | ⟨-, rfl, -⟩⟩
    · exact .of_same rfl rfl rfl
    · exact locked account
    · refine ⟨Int.le_refl _, fun other amount h => ?_, fun entry mem => ?_⟩
      · rw [transaction_update_self, Table.get?_insert] at h
        split at h
        case isTrue here =>
          rw [here, Option.some.inj h]
          exact Or.inr (Or.inl rfl)
        case isFalse => exact Or.inl h
      · rw [transaction_update_self] at mem
        rw [← Transaction.entries_hold (s.transaction t) account]
        exact Or.inl mem
  | apply account delta =>
    cases step
    rcases apply_cases s t account delta with ⟨e, h⟩ | ⟨available, balance, -, -, moved, h⟩
    · rw [h]
      exact .of_same rfl rfl rfl
    · obtain ⟨-, nonneg, counted⟩ := moved_eq_ok moved
      rw [h]
      refine ⟨Int.le_refl _, fun other amount given => ?_, fun entry mem => ?_⟩
      · rw [transaction_update_self, Table.get?_insert] at given
        split at given
        · rw [← Option.some.inj given]
          exact Or.inr (Or.inr ⟨nonneg, (Decimal.isInt64_iff.1 counted).2⟩)
        · exact Or.inl given
      · rw [transaction_update_self] at mem
        exact Or.inl mem
  | append posting =>
    cases step
    rcases append_cases s t now posting with ⟨-, h⟩ | ⟨_, -, -, h⟩ | ⟨-, h⟩
    · rw [h]
      exact .of_same rfl rfl rfl
    · rw [h]
      exact .of_same rfl rfl rfl
    · have more : s.nextEntry < s.nextEntry + 1 := by omega
      rw [h]
      refine ⟨Int.le_of_lt more, fun account amount given => ?_, fun entry mem => ?_⟩
      · rw [transaction_update_self] at given
        exact Or.inl given
      · rw [transaction_update_self, List.mem_append, List.mem_singleton] at mem
        rcases mem with old | rfl
        · exact Or.inl old
        · exact Or.inr ⟨rfl, more⟩
  | commit =>
    cases step
    have gone : (s.drop t).live.get? t = none := Table.get?_erase_self _ t
    rcases commit_cases s t with ⟨_, -, -, h⟩ | ⟨-, h⟩
    · rw [h]
      exact .of_empty rfl (transaction_eq_of_gone gone)
    · rw [h]
      exact .of_empty rfl (transaction_eq_of_gone gone)
  | rollback =>
    cases step
    exact .of_empty rfl (transaction_drop_self s t)
  | _ =>
    cases step
    exact .of_same rfl rfl rfl

/-- Balances that can be counted, and numbers that were given out. -/
structure Ranged (s : Store) : Prop where
  /-- Numbers begin with one. -/
  positive : 0 < s.nextEntry
  /-- What a transaction is about to publish can be counted. -/
  staged : ∀ {t account amount}, (s.transaction t).staged.get? account = some amount →
    IsBalance amount
  /-- The entries that a transaction has written have numbers that were given out. -/
  drafted : ∀ {t}, ∀ entry ∈ (s.transaction t).entries, 0 < entry.id ∧ entry.id < s.nextEntry
  /-- So have those that were published. -/
  written : ∀ entry ∈ s.entries, 0 < entry.id ∧ entry.id < s.nextEntry

/-- In the store in which nothing has happened there is nothing to be counted. -/
theorem Ranged.empty : Ranged {} := by
  constructor <;> simp [transaction]

/-- Dropping a transaction takes its draft away. -/
theorem Ranged.drop (ranged : s.Ranged) (t : TransactionId) : (s.drop t).Ranged := by
  have fewer (u : TransactionId) :
      (s.drop t).transaction u = {} ∨ (s.drop t).transaction u = s.transaction u := by
    by_cases same : u = t
    · exact Or.inl (same ▸ transaction_drop_self s t)
    · exact Or.inr (transaction_drop_of_ne s same)
  refine ⟨ranged.positive, fun {u account amount} h => ?_, fun {u} entry mem => ?_, ranged.written⟩
  · rcases fewer u with gone | kept
    · rw [gone] at h
      cases h
    · exact ranged.staged (kept ▸ h)
  · rcases fewer u with gone | kept
    · rw [gone] at mem
      cases mem
    · exact ranged.drafted entry (kept ▸ mem)

/-- Whatever is answered, balances can be counted and numbers were given out, if no account is given
a balance that cannot be counted. -/
theorem Ranged.step (ranged : s.Ranged) (sound : s.Sound) {now : Instant}
    {answer : Except StoreError c.Answer} (step : s.step t now c = .answered s' answer)
    (counted : ∀ account initial, c = .create account initial → IsBalance initial) :
    s'.Ranged := by
  have drafts := drafts_of_step step
  have later {entry : Entry} (given : 0 < entry.id ∧ entry.id < s.nextEntry) :
      0 < entry.id ∧ entry.id < s'.nextEntry := ⟨given.1, Int.lt_of_lt_of_le given.2 drafts.next⟩
  refine ⟨Int.lt_of_lt_of_le ranged.positive drafts.next, fun {u account amount} h => ?_,
    fun {u} entry mem => ?_, fun entry mem => ?_⟩
  · by_cases same : u = t
    · subst same
      rcases drafts.staged account amount h with old | first | checked
      · exact ranged.staged old
      · exact counted account amount first
      · exact checked
    · rw [(sound.others_step same step).transaction] at h
      exact ranged.staged h
  · by_cases same : u = t
    · subst same
      rcases drafts.entries entry mem with old | ⟨next, more⟩
      · exact later (ranged.drafted entry old)
      · rw [next]
        exact ⟨ranged.positive, more⟩
    · rw [(sound.others_step same step).transaction] at mem
      exact later (ranged.drafted entry mem)
  · -- A published entry was published before, or was written by the transaction.
    rcases sound.step_cases step with change | ⟨-, committed⟩
    · exact later (ranged.written entry (change.published.2 ▸ mem))
    · rcases commit_cases s t with ⟨_, -, -, failed⟩ | ⟨-, published⟩
      · simp [committed] at failed
      · rw [committed] at published
        cases published
        rcases List.mem_append.1 mem with old | own
        · exact later (ranged.written entry old)
        · exact later (ranged.drafted entry own)

end CurrencyLedger.Store
