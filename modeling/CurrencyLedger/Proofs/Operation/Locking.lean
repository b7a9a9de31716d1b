import CurrencyLedger.Operation.Locking
import CurrencyLedger.Proofs.Operation.Drafting

/-! # Taking locks among others

* **`Store.Locked`** — which accounts a transaction has locked so far, and what they hold;
* **`StoreScript.ensures_lockOne`** — what locking one more account comes to: the account is locked,
  waiting was in vain, or the account has no wallet;
* **`StoreScript.ensures_lockAll`** — the same for several accounts. -/

namespace CurrencyLedger

variable {t : TransactionId} {e : Surroundings t} {P : Trail → Call → Store → Prop} {trail : Trail}
  {s s' : Store}

/-! ## Calls that need a lock -/

/-- Asking for a lock ensures what each of its two answers ensures. -/
theorem Script.ensures_lock {account : Account}
    {Q : Except StoreError (Option Int) → Trail → Store → Prop}
    (h : ∀ s', e.between s s' →
      P trail (.lock account) s' ∧
      (s'.isHeldByOther t account = false →
        Q (.ok (s'.current? t account))
          (trail.add (.lock account) (.ok (s'.current? t account)) s')
          (s'.update t ((s'.transaction t).hold account))) ∧
      (e.expires s' account →
        Q (.error (.lockTimeout account.text))
          (trail.add (.lock account) (.error (.lockTimeout account.text)) s') s')) :
    (Script.ask (.lock account)).Ensures e P Q trail s := by
  intro s' between
  obtain ⟨met, granted, expired⟩ := h s' between
  refine ⟨met, fun now s'' answer step => ?_, fun other locks expires => ?_⟩
  · obtain ⟨free, rfl, rfl⟩ := Store.lock_eq_answered step
    exact granted free
  · obtain rfl : account = other := Option.some.inj locks
    exact expired expires

/-- Asking for a balance of a locked account ensures what each of its answers ensures. -/
theorem Script.ensures_create {account : Account}
    {Q : Except StoreError Bool → Trail → Store → Prop}
    (held : account ∈ (s.transaction t).held)
    (h : ∀ s', e.between s s' →
      P trail (.create account 0) s' ∧
      (s'.hasWallet account.wallet = false →
        Q (.error (.walletNotFound account.wallet))
          (trail.add (.create account 0) (.error (.walletNotFound account.wallet)) s') s') ∧
      (s'.hasWallet account.wallet = true → (s'.current? t account).isSome = true →
        Q (.ok false) (trail.add (.create account 0) (.ok false) s')
          (s'.update t ((s'.transaction t).hold account))) ∧
      (s'.hasWallet account.wallet = true → s'.current? t account = none →
        Q (.ok true) (trail.add (.create account 0) (.ok true) s')
          (s'.update t { (s'.transaction t).hold account with
            staged := (s'.transaction t).staged.insert account 0 }))) :
    (Script.ask (.create account 0)).Ensures e P Q trail s := by
  intro s' between
  obtain ⟨met, unknown, kept, made⟩ := h s' between
  refine ⟨met, fun now s'' answer step => ?_, fun other locks expires => ?_⟩
  · rcases Store.create_eq_answered step with
      ⟨absent, rfl, rfl⟩ | ⟨owned, -, ⟨current, rfl, rfl⟩ | ⟨current, rfl, rfl⟩⟩
    · exact unknown absent
    · exact kept owned current
    · exact made owned current
  · obtain rfl : account = other := Option.some.inj locks
    rw [← (e.rely between).transaction] at held
    exact absurd held (e.missing between expires)

/-! ## Locked accounts -/

/-- A transaction has locked some accounts, and what they hold is known; it has changed nothing but
that accounts without a balance have an empty one. -/
structure Store.Locked (s : Store) (t : TransactionId) (accounts : List Account)
    (amounts : Table Account Int) : Prop extends s.Drafted t accounts s.amount .empty [] where
  /-- What the accounts hold is in the table. -/
  listed : ∀ account ∈ accounts, amounts.get? account = some (s.amount account)

namespace Store.Locked

variable {accounts : List Account} {amounts : Table Account Int} {account : Account}

/-- A transaction that has just begun has locked nothing. -/
theorem nil (begun : s.transaction t = {}) : s.Locked t [] .empty := by
  refine ⟨⟨?_, ?_, ?_, ?_, ?_, ?_, ?_⟩, ?_⟩ <;> simp [begun]

/-- Others change nothing about it. -/
theorem of_others (locked : s.Locked t accounts amounts) (others : Others t s s') :
    s'.Locked t accounts amounts := by
  refine ⟨(locked.toDrafted.of_others others).rebase, fun account mem => ?_⟩
  rw [others.amount_eq (locked.held account mem)]
  exact locked.listed account mem

/-- What a transaction sees of one of the accounts is what is published. -/
theorem current?_of_mem (locked : s.Locked t accounts amounts) (mem : account ∈ accounts) :
    s.current? t account = some (s.amount account) :=
  locked.current account mem (Table.get?_empty account)

/-- Only which accounts are meant matters, not their order. -/
theorem congr {accounts' : List Account} (locked : s.Locked t accounts amounts)
    (same : ∀ account, account ∈ accounts' ↔ account ∈ accounts) :
    s.Locked t accounts' amounts where
  held account mem := locked.held account ((same account).1 mem)
  owned account mem := locked.owned account ((same account).1 mem)
  staged account value h := (same account).2 (locked.staged account value h)
  changed := locked.changed
  current account mem := locked.current account ((same account).1 mem)
  known _ _ := rfl
  posted := locked.posted
  listed account mem := locked.listed account ((same account).1 mem)

/-- Taking one more lock changes nothing about it. -/
theorem hold (locked : s.Locked t accounts amounts) (account : Account) :
    (s.update t ((s.transaction t).hold account)).Locked t accounts amounts := by
  refine ⟨⟨?_, locked.owned, ?_, ?_, ?_, fun _ _ => rfl, ?_⟩, locked.listed⟩
  · intro other mem
    rw [transaction_update_self]
    exact Transaction.mem_held_hold.2 (Or.inr (locked.held other mem))
  · rw [transaction_update_self, Transaction.staged_hold]
    exact locked.staged
  · rw [transaction_update_self, Transaction.staged_hold]
    exact locked.changed
  · intro other mem _
    rw [current?, transaction_update_self, Transaction.staged_hold]
    exact locked.current?_of_mem mem
  · rw [transaction_update_self, Transaction.entries_hold]
    exact locked.posted

/-- An account that is locked and has a balance is one more of the accounts. -/
theorem add (locked : s.Locked t accounts amounts) (held : account ∈ (s.transaction t).held)
    (owned : s.hasWallet account.wallet = true)
    (current : s.current? t account = some (s.amount account)) :
    s.Locked t (account :: accounts) (amounts.insert account (s.amount account)) := by
  refine ⟨⟨?_, ?_, ?_, locked.changed, ?_, fun _ _ => rfl, locked.posted⟩, ?_⟩
  · rintro other (_ | ⟨_, mem⟩)
    · exact held
    · exact locked.held other mem
  · rintro other (_ | ⟨_, mem⟩)
    · exact owned
    · exact locked.owned other mem
  · exact fun other value h => List.mem_cons_of_mem _ (locked.staged other value h)
  · rintro other (_ | ⟨_, mem⟩) _
    · exact current
    · exact locked.current?_of_mem mem
  · intro other mem
    by_cases same : other = account
    · rw [same, Table.get?_insert_self]
    · rw [Table.get?_insert_of_ne _ _ same]
      exact locked.listed other ((List.mem_cons.1 mem).resolve_left same)

/-- What a transaction sees of an account that is none of the accounts is what is published. -/
theorem current?_of_not_mem (locked : s.Locked t accounts amounts) (fresh : account ∉ accounts) :
    s.current? t account = s.balances.get? account := by
  have unstaged : (s.transaction t).staged.get? account = none := by
    rw [Option.eq_none_iff_forall_ne_some]
    exact fun value h => fresh (locked.staged account value h)
  rw [current?, unstaged, Option.none_or]

/-- An account that gets an empty balance is one more of the accounts. -/
theorem create (locked : s.Locked t accounts amounts) (fresh : account ∉ accounts)
    (owned : s.hasWallet account.wallet = true) (current : s.current? t account = none) :
    (s.update t { (s.transaction t).hold account with
      staged := (s.transaction t).staged.insert account 0 }).Locked t (account :: accounts)
        (amounts.insert account (s.amount account)) := by
  -- An account without a balance counts as empty before and after.
  have empty : s.amount account = 0 := by
    rw [locked.current?_of_not_mem fresh] at current
    rw [amount, current, Option.getD_none]
  refine ⟨⟨?_, ?_, ?_, ?_, ?_, fun _ _ => rfl, ?_⟩, ?_⟩
  · intro other mem
    rw [transaction_update_self]
    refine Transaction.mem_held_hold.2 ?_
    exact (List.mem_cons.1 mem).imp_right (locked.held other)
  · rintro other (_ | ⟨_, mem⟩)
    · exact owned
    · exact locked.owned other mem
  · intro other value h
    rw [transaction_update_self, Table.get?_insert] at h
    split at h
    case isTrue same => exact List.mem_cons.2 (Or.inl same)
    case isFalse => exact List.mem_cons_of_mem _ (locked.staged other value h)
  · intro other value h
    simp at h
  · intro other mem _
    rw [current?, transaction_update_self, Table.get?_insert]
    show _ = some (s.amount other)
    by_cases same : other = account
    · rw [if_pos same, Option.some_or, same, empty]
    · rw [if_neg same]
      exact locked.current?_of_mem ((List.mem_cons.1 mem).resolve_left same)
  · rw [transaction_update_self]
    show ((s.transaction t).hold account).entries.map _ = []
    rw [Transaction.entries_hold]
    exact locked.posted
  · intro other mem
    show (amounts.insert account (s.amount account)).get? other = some (s.amount other)
    by_cases same : other = account
    · rw [same, Table.get?_insert_self]
    · rw [Table.get?_insert_of_ne _ _ same]
      exact locked.listed other ((List.mem_cons.1 mem).resolve_left same)

end Store.Locked

/-! ## Accounts in ascending order -/

namespace Account

/-- The accounts in ascending order are those of the list. -/
theorem mem_ascending {accounts : List Account} {account : Account} :
    account ∈ ascending accounts ↔ account ∈ accounts := by
  rw [ascending, Table.mem_keys_ofList]
  simp

/-- No account stands twice among accounts in ascending order. -/
theorem nodup_ascending (accounts : List Account) : (ascending accounts).Nodup := by
  rw [ascending, Table.keys, List.Nodup, List.pairwise_map]
  exact (Table.ofList _).ascending.imp Table.ne_of_compare_lt

end Account

/-! ## Locking one account after another -/

/-- A transaction has locked an account that has no wallet and no balance. -/
structure Store.Homeless (s : Store) (t : TransactionId) (account : Account) : Prop where
  /-- The account is locked. -/
  held : account ∈ (s.transaction t).held
  /-- It has no balance. -/
  unbalanced : s.balances.get? account = none
  /-- It belongs to no wallet. -/
  unowned : s.hasWallet account.wallet = false

namespace StoreScript

variable {accounts : List Account} {amounts : Table Account Int} {account : Account}

/-- Locking one more account: it is locked, waiting was in vain, or it has no wallet. -/
theorem ensures_lockOne {Q : Except StoreError Int → Trail → Store → Prop}
    (allows : e.Allows P trail) (locked : s.Locked t accounts amounts)
    (fresh : account ∉ accounts)
    (taken : ∀ trail' s', Trail.Within trail trail' →
      s'.Locked t (account :: accounts) (amounts.insert account (s'.amount account)) →
      Q (.ok (s'.amount account)) trail' s')
    (expired : ∀ trail' s', Trail.Within trail trail' → e.Meets s' → e.expires s' account →
      Q (.error (.lockTimeout account.text)) trail' s')
    (unknown : ∀ trail' s', Trail.Within trail trail' → e.Meets s' →
      s'.Locked t accounts amounts → s'.Homeless t account →
      Q (.error (.walletNotFound account.wallet)) trail' s') :
    (lockOne account).run.Ensures e P Q trail s := by
  refine Operation.ensures_bind (Script.ensures_lock fun s₁ between₁ => ?_)
  have within₁ := fun answer => (Trail.Within.refl trail).add (c := .lock account) (Or.inr rfl) answer s₁
  have locked₁ := locked.of_others (e.rely between₁)
  refine ⟨allows.duty rfl between₁, fun _ => ?_,
    fun expires => expired _ _ (within₁ _) ⟨s, between₁⟩ expires⟩
  -- The lock is granted; what follows depends on whether the account has a balance.
  have held₂ : account ∈ ((s₁.update t ((s₁.transaction t).hold account)).transaction t).held := by
    rw [Store.transaction_update_self]
    exact Transaction.mem_held_hold.2 (Or.inl rfl)
  have locked₂ := locked₁.hold account
  have current₂ : (s₁.update t ((s₁.transaction t).hold account)).current? t account =
      s₁.current? t account := by
    rw [Store.current?, Store.transaction_update_self, Transaction.staged_hold]
    rfl
  cases current : s₁.current? t account with
  | some amount =>
    have balance : s₁.amount account = amount := by
      rw [locked₁.current?_of_not_mem fresh] at current
      rw [Store.amount, current, Option.getD_some]
    -- A balance tells that there is a wallet, and that one call was enough.
    have owned := (e.rely between₁).sound.hasWallet_of_current? current
    have locked₃ := locked₂.add held₂ owned (current₂.trans (current.trans (congrArg some balance.symm)))
    show Q (.ok amount) _ _
    rw [← balance]
    exact taken _ _ (within₁ _) locked₃
  | none =>
    -- Nobody else can have given the account a balance: its lock is held.
    refine Operation.ensures_bind (Script.ensures_create held₂ fun s₃ between₃ => ?_)
    have within₃ := fun answer => (within₁ (.ok none)).add (c := .create account 0) (Or.inr rfl) answer s₃
    have locked₃ := locked₂.of_others (e.rely between₃)
    have current₃ : s₃.current? t account = none := by
      rw [(e.rely between₃).current?_eq held₂, current₂, current]
    have held₃ : account ∈ (s₃.transaction t).held := by
      rw [(e.rely between₃).transaction]
      exact held₂
    have unbalanced : s₃.balances.get? account = none := by
      rw [← locked₃.current?_of_not_mem fresh, current₃]
    refine ⟨(allows.within (within₁ _)).duty rfl between₃,
      fun absent => unknown _ _ (within₃ _) ⟨_, between₃⟩ locked₃ ⟨held₃, unbalanced, absent⟩,
      fun _ again => ?_,
      fun owned _ => ?_⟩
    · simp [current₃] at again
    · have locked₄ := locked₃.create fresh owned current₃
      -- The second lock is that of an account which is held already, so it cannot be waited for.
      refine Operation.ensures_bind (Script.ensures_lock fun s₅ between₅ => ?_)
      have locked₅ := locked₄.of_others (e.rely between₅)
      have held₅ := locked₅.held account List.mem_cons_self
      refine ⟨(allows.within (within₃ _)).duty rfl between₅, fun _ => ?_,
        fun expires => absurd held₅ (e.missing between₅ expires)⟩
      rw [locked₅.current?_of_mem List.mem_cons_self]
      have known : s₃.amount account = s₅.amount account := by
        have h := locked₅.listed account List.mem_cons_self
        rw [Table.get?_insert_self] at h
        exact Option.some.inj h
      rw [known] at locked₅
      exact taken _ _ ((within₃ _).add (Or.inr rfl) _ _) (locked₅.hold account)

/-- Locking accounts one after another: all of them are locked, waiting for one was in vain, or one
has no wallet while those before it have. -/
theorem ensures_lockEach {Q : Except StoreError (Table Account Int) → Trail → Store → Prop}
    {more : List Account} (allows : e.Allows P trail) (locked : s.Locked t accounts amounts)
    (fresh : ∀ account ∈ more, account ∉ accounts) (nodup : more.Nodup)
    (taken : ∀ trail' s' amounts', Trail.Within trail trail' →
      s'.Locked t (more.reverse ++ accounts) amounts' → Q (.ok amounts') trail' s')
    (expired : ∀ trail' s' account, Trail.Within trail trail' → e.Meets s' → account ∈ more →
      e.expires s' account → Q (.error (.lockTimeout account.text)) trail' s')
    (unknown : ∀ trail' s' before account after amounts', Trail.Within trail trail' →
      e.Meets s' → more = before ++ account :: after →
      s'.Locked t (before.reverse ++ accounts) amounts' → s'.Homeless t account →
      Q (.error (.walletNotFound account.wallet)) trail' s') :
    (lockEach amounts more).run.Ensures e P Q trail s := by
  -- By induction on the accounts that are left: those before are `accounts`, all of them locked.
  induction more generalizing accounts amounts trail s with
  | nil => exact taken _ _ _ (.refl _) locked
  | cons first more ih =>
    obtain ⟨absent, nodup⟩ := List.nodup_cons.1 nodup
    refine Operation.ensures_bind (ensures_lockOne allows locked (fresh first List.mem_cons_self)
      (fun trail₁ s₁ within₁ locked₁ => ?_) (fun trail₁ s₁ within₁ meets₁ expires => ?_)
      fun trail₁ s₁ within₁ meets₁ locked₁ absent₁ => ?_)
    -- The first one is locked, and stands for one more of those before.
    · have fresh₁ : ∀ account ∈ more, account ∉ first :: accounts := by
        intro account mem again
        rcases List.mem_cons.1 again with rfl | again
        · exact absent mem
        · exact fresh account (List.mem_cons_of_mem _ mem) again
      refine ih (allows.within within₁) locked₁ fresh₁ nodup
        (fun trail₂ s₂ amounts' within₂ locked₂ => ?_)
        (fun trail₂ s₂ account within₂ meets₂ mem => ?_)
        fun trail₂ s₂ before account after amounts' within₂ meets₂ split locked₂ => ?_
      · refine taken _ _ _ (within₁.trans within₂) (locked₂.congr fun account => ?_)
        simp only [List.reverse_cons, List.append_assoc, List.singleton_append]
      · exact expired _ _ _ (within₁.trans within₂) meets₂ (List.mem_cons_of_mem _ mem)
      · rw [split] at unknown
        refine unknown _ _ (first :: before) account after amounts' (within₁.trans within₂) meets₂ rfl
          (locked₂.congr fun account => ?_)
        simp only [List.reverse_cons, List.append_assoc, List.singleton_append]
    · exact expired _ _ _ within₁ meets₁ List.mem_cons_self expires
    · exact unknown _ _ [] first more _ within₁ meets₁ rfl locked₁ absent₁

/-- Locking several accounts: all of them are locked, waiting for one was in vain, or one has no
wallet while those below it have. -/
theorem ensures_lockAll {Q : Except StoreError (Table Account Int) → Trail → Store → Prop}
    (allows : e.Allows P trail) (begun : s.transaction t = {})
    (taken : ∀ trail' s' amounts', Trail.Within trail trail' →
      s'.Locked t accounts amounts' → Q (.ok amounts') trail' s')
    (expired : ∀ trail' s' account, Trail.Within trail trail' → e.Meets s' → account ∈ accounts →
      e.expires s' account → Q (.error (.lockTimeout account.text)) trail' s')
    (unknown : ∀ trail' s' before account after, Trail.Within trail trail' → e.Meets s' →
      Account.ascending accounts = before ++ account :: after →
      (∀ a ∈ before, s'.hasWallet a.wallet = true) → s'.Homeless t account →
      Q (.error (.walletNotFound account.wallet)) trail' s') :
    (lockAll accounts).run.Ensures e P Q trail s := by
  refine ensures_lockEach allows (.nil begun) (by simp) (Account.nodup_ascending accounts)
    (fun trail' s' amounts' within locked => ?_)
    (fun trail' s' account within meets mem => ?_)
    fun trail' s' before account after amounts' within meets split locked => ?_
  · refine taken _ _ _ within (locked.congr fun account => ?_)
    rw [List.append_nil, List.mem_reverse, Account.mem_ascending]
  · exact expired _ _ _ within meets (Account.mem_ascending.1 mem)
  · refine unknown _ _ _ _ _ within meets split fun a mem => locked.owned a ?_
    rw [List.append_nil, List.mem_reverse]
    exact mem

end StoreScript

end CurrencyLedger
