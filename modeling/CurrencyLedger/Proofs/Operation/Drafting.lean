import CurrencyLedger.Proofs.Operation.Ensures

/-! # Drafts of transactions

What a transaction has prepared once its accounts are locked: balances that are about to change and
postings that are about to be published. Others change nothing about it.

* **`Store.Drafted`** — which accounts are locked, what they hold, and what is prepared;
* **`Operation.ensures_apply`** — moving a balance is an error or one more balance of the draft;
* **`Operation.ensures_append`** — writing a posting is an error or one more posting of the draft;
* **`Store.Drafted.staged_eq`** — a draft in which every account changes is what is published. -/

namespace CurrencyLedger

variable {t : TransactionId} {e : Surroundings t} {P : Trail → Call → Store → Prop} {trail : Trail}
  {s s' : Store} {accounts : List Account} {amounts : Account → Int} {balances : Table Account Int}
  {postings : List Posting} {account : Account}

/-- The calls inside a transaction meet a duty, whatever else was done inside before. -/
def Surroundings.Allows (e : Surroundings t) (P : Trail → Call → Store → Prop) (trail : Trail) :
    Prop :=
  ∀ trail' c s', trail'.published = trail.published → trail'.ended = trail.ended →
    c.isInner = true → e.Meets s' → P trail' c s'

namespace Surroundings.Allows

/-- A call inside the transaction meets the duty now. -/
theorem duty (allows : e.Allows P trail) {c : Call} (inner : c.isInner = true)
    (between : e.between s s') : P trail c s' :=
  allows trail c s' rfl rfl inner ⟨s, between⟩

/-- What is allowed stays allowed after calls inside the transaction. -/
theorem within {trail' : Trail} (allows : e.Allows P trail)
    (within : Trail.Within trail trail') : e.Allows P trail' :=
  fun trail'' c s' published ended =>
    allows trail'' c s' (published.trans within.published) (ended.trans within.ended)

/-- What is allowed stays allowed after a stage is reached. -/
theorem reach (allows : e.Allows P trail) (stage : Transfer.Stage) :
    e.Allows P (trail.reach stage) := allows

end Surroundings.Allows

/-- A transaction has locked some accounts of known amounts, is about to give some of them the
balances of a table, and has written postings. -/
structure Store.Drafted (s : Store) (t : TransactionId) (accounts : List Account)
    (amounts : Account → Int) (balances : Table Account Int) (postings : List Posting) :
    Prop where
  /-- The accounts are locked. -/
  held : ∀ account ∈ accounts, account ∈ (s.transaction t).held
  /-- They belong to wallets. -/
  owned : ∀ account ∈ accounts, s.hasWallet account.wallet = true
  /-- No other account is about to change. -/
  staged : ∀ account value, (s.transaction t).staged.get? account = some value →
    account ∈ accounts
  /-- The accounts of the table are about to have its balances. -/
  changed : ∀ account value, balances.get? account = some value →
    (s.transaction t).staged.get? account = some value
  /-- The other ones have what is published. -/
  current : ∀ account ∈ accounts, balances.get? account = none →
    s.current? t account = some (amounts account)
  /-- What is published is known. -/
  known : ∀ account ∈ accounts, s.amount account = amounts account
  /-- The postings are written. -/
  posted : (s.transaction t).entries.map (·.toPosting) = postings

namespace Store.Drafted

/-- Others change nothing about it. -/
theorem of_others (drafted : s.Drafted t accounts amounts balances postings)
    (others : Others t s s') : s'.Drafted t accounts amounts balances postings := by
  refine ⟨?_, fun account h => others.wallets _ (drafted.owned account h), ?_, ?_, ?_, ?_, ?_⟩
  · rw [others.transaction]
    exact drafted.held
  · rw [others.transaction]
    exact drafted.staged
  · rw [others.transaction]
    exact drafted.changed
  · intro account mem unchanged
    rw [others.current?_eq (drafted.held account mem)]
    exact drafted.current account mem unchanged
  · intro account mem
    rw [others.amount_eq (drafted.held account mem)]
    exact drafted.known account mem
  · rw [others.transaction]
    exact drafted.posted

/-- The known amounts are the published ones. -/
theorem rebase (drafted : s.Drafted t accounts amounts balances postings) :
    s.Drafted t accounts s.amount balances postings := by
  -- Only what is known of the amounts is said anew: they are those of the store.
  refine ⟨drafted.held, drafted.owned, drafted.staged, drafted.changed, ?_, fun _ _ => rfl,
    drafted.posted⟩
  intro account mem unchanged
  rw [drafted.known account mem]
  exact drafted.current account mem unchanged

/-- One more account is about to change. -/
theorem apply (drafted : s.Drafted t accounts amounts balances postings)
    (mem : account ∈ accounts) (balance : Int) :
    (s.update t { s.transaction t with
      staged := (s.transaction t).staged.insert account balance }).Drafted t accounts amounts
        (balances.insert account balance) postings := by
  refine ⟨?_, drafted.owned, ?_, ?_, ?_, drafted.known, ?_⟩
  · rw [transaction_update_self]
    exact drafted.held
  · intro other value h
    rw [transaction_update_self, Table.get?_insert] at h
    split at h
    case isTrue same => exact same ▸ mem
    case isFalse => exact drafted.staged other value h
  · intro other value h
    rw [Table.get?_insert] at h
    rw [transaction_update_self, Table.get?_insert]
    split at h
    case isTrue same => rw [if_pos same, h]
    case isFalse different =>
      rw [if_neg different]
      exact drafted.changed other value h
  · intro other other_mem unchanged
    rw [Table.get?_insert] at unchanged
    rw [current?, transaction_update_self, Table.get?_insert]
    split at unchanged
    case isTrue => simp at unchanged
    case isFalse different =>
      rw [if_neg different]
      exact drafted.current other other_mem unchanged
  · rw [transaction_update_self]
    exact drafted.posted

/-- One more posting is written. -/
theorem append (drafted : s.Drafted t accounts amounts balances postings) (nextEntry : Int)
    (entry : Entry) :
    (({ s with nextEntry := nextEntry } : Store).update t { s.transaction t with
      entries := (s.transaction t).entries ++ [entry] }).Drafted t accounts amounts balances
        (postings ++ [entry.toPosting]) := by
  refine ⟨?_, drafted.owned, ?_, ?_, ?_, drafted.known, ?_⟩
  · rw [transaction_update_self]
    exact drafted.held
  · rw [transaction_update_self]
    exact drafted.staged
  · rw [transaction_update_self]
    exact drafted.changed
  · intro account mem unchanged
    rw [current?, transaction_update_self]
    exact drafted.current account mem unchanged
  · rw [transaction_update_self, List.map_append, drafted.posted]
    rfl

/-- When every account has a balance in the table, the table is what is about to be published. -/
theorem staged_eq (drafted : s.Drafted t accounts amounts balances postings)
    (all : ∀ account ∈ accounts, (balances.get? account).isSome = true) :
    (s.transaction t).staged = balances := by
  refine Table.ext_get? fun account => ?_
  cases h : balances.get? account with
  | some value => exact drafted.changed account value h
  | none =>
    rw [Option.eq_none_iff_forall_ne_some]
    intro value staged
    have some := all account (drafted.staged account value staged)
    simp [h] at some

/-- The references that are about to be published are those of the postings. -/
theorem ownReferences_eq (drafted : s.Drafted t accounts amounts balances postings) :
    s.ownReferences t = postings.filterMap (·.reference) := by
  rw [ownReferences, ← drafted.posted, List.filterMap_map]
  rfl

end Store.Drafted

/-! ## Calls that prepare something -/

namespace Operation

/-- Moving the balance of a locked account: the error that hinders it, or one more balance of the
draft. -/
theorem ensures_apply {delta : Int} {Q : Except LedgerError Int → Trail → Store → Prop}
    (allows : e.Allows P trail) (drafted : s.Drafted t accounts amounts balances postings)
    (mem : account ∈ accounts) (unchanged : balances.get? account = none)
    (refused : ∀ error trail' s',
      (Store.moved account (amounts account) delta).mapError LedgerError.ofStore = .error error →
      Trail.Within trail trail' → s'.Drafted t accounts amounts balances postings →
      Q (.error error) trail' s')
    (moved : ∀ balance trail' s',
      (Store.moved account (amounts account) delta).mapError LedgerError.ofStore = .ok balance →
      Trail.Within trail trail' →
      s'.Drafted t accounts amounts (balances.insert account balance) postings →
      Q (.ok balance) trail' s') :
    (ask (.apply account delta)).run.Ensures e P Q trail s := by
  refine ensures_ofStore (Script.ensures_ask rfl fun s₁ between => ?_)
  have drafted₁ := drafted.of_others (e.rely between)
  have within₁ := fun answer =>
    (Trail.Within.refl trail).add (c := .apply account delta) (Or.inr rfl) answer s₁
  refine ⟨allows.duty rfl between, fun now s₂ answer step => ?_⟩
  have applied : s₁.apply t account delta = (s₂, answer) := by
    cases step
    rfl
  -- What the call does is decided by the amount, for the account is locked and not changed yet.
  rw [Store.apply_of_mem_held delta (drafted₁.held account mem)
    (drafted₁.current account mem unchanged)] at applied
  cases h : Store.moved account (amounts account) delta with
  | error error =>
    rw [h] at applied
    cases applied
    exact refused _ _ _ (by rw [h]; rfl) (within₁ _) drafted₁
  | ok balance =>
    rw [h] at applied
    cases applied
    exact moved _ _ _ (by rw [h]; rfl) (within₁ _) (drafted₁.apply mem balance)

/-- Writing a posting whose reference no posting before has: the reference is taken by a published
entry, or one more posting of the draft. -/
theorem ensures_append {posting : Posting} {reference : String}
    {Q : Except LedgerError Entry → Trail → Store → Prop}
    (allows : e.Allows P trail) (drafted : s.Drafted t accounts amounts balances postings)
    (mem : posting.account ∈ accounts) (named : posting.reference = some reference)
    (fresh : ∀ p ∈ postings, p.reference ≠ some reference)
    (taken : ∀ trail' s' entry, Trail.Within trail trail' →
      s'.Drafted t accounts amounts balances postings →
      Store.findEntry s'.entries reference = some entry →
      Q (.error (.ofStore (.duplicateReference reference))) trail' s')
    (written : ∀ entry trail' s', Trail.Within trail trail' →
      s'.Drafted t accounts amounts balances (postings ++ [posting]) →
      Q (.ok entry) trail' s') :
    (ask (.append posting)).run.Ensures e P Q trail s := by
  refine ensures_ofStore (Script.ensures_ask rfl fun s₁ between => ?_)
  have drafted₁ := drafted.of_others (e.rely between)
  have within₁ := fun answer =>
    (Trail.Within.refl trail).add (c := .append posting) (Or.inr rfl) answer s₁
  refine ⟨allows.duty rfl between, fun now s₂ answer step => ?_⟩
  have appended : s₁.append t now posting = (s₂, answer) := by
    cases step
    rfl
  rcases Store.append_cases s₁ t now posting with
    ⟨absent, h⟩ | ⟨again, again_named, isTaken, h⟩ | ⟨-, h⟩
  · rw [drafted₁.owned _ mem] at absent
    cases absent
  · rw [h] at appended
    cases appended
    obtain rfl : again = reference := Option.some.inj (again_named.symm.trans named)
    -- The reference is not one of the draft itself, so a published entry has it.
    have own : Store.findEntry (s₁.transaction t).entries again = none := by
      refine Store.findEntry_eq_none.2 fun own own_mem => fresh own.toPosting ?_
      rw [← drafted₁.posted]
      exact List.mem_map_of_mem own_mem
    have published : again ∈ s₁.references := by simpa [Store.isTaken, own] using isTaken
    obtain ⟨entry, there⟩ :=
      Option.isSome_iff_exists.1 ((e.rely between).sound.isSome_findEntry.2 published)
    exact taken _ _ entry (within₁ _) drafted₁ there
  · rw [h] at appended
    cases appended
    exact written _ _ _ (within₁ _) (drafted₁.append _ _)

end Operation

end CurrencyLedger
