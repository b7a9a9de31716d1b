import CurrencyLedger.Entry
import CurrencyLedger.Store.Error
import CurrencyLedger.Table

/-! # The store

Wallets, balances and entries, and the transactions that are about to change them. A transaction
holds locks of accounts and collects balances and entries; nothing of it is seen by others before it
is committed, and a transaction that is dropped leaves nothing behind. A lock that another
transaction holds blocks.

* **`Store.lock`**, **`create`**, **`apply`**, **`find`**, **`append`** — the calls of a
  transaction;
* **`Store.commit`**, **`Store.drop`** — its two ends. -/

namespace CurrencyLedger

/-- The name of a transaction. -/
abbrev TransactionId := Nat

/-- What a transaction has done so far. -/
structure Transaction where
  /-- The accounts whose locks it holds. -/
  held : List Account := []
  /-- The balances it is about to publish. -/
  staged : Table Account Int := .empty
  /-- The entries it is about to publish, in the order of writing. -/
  entries : List Entry := []

instance : Inhabited Transaction := ⟨{}⟩

/-- The transaction with the lock of an account, which it may hold already. -/
def Transaction.hold (transaction : Transaction) (account : Account) : Transaction :=
  if transaction.held.contains account then transaction
  else { transaction with held := account :: transaction.held }

/-- Everything that is stored, and the transactions under way. -/
structure Store where
  /-- The wallets in the order of their numbers. -/
  wallets : List Wallet := []
  /-- The number of the next wallet. Wallets are counted in 64 bits, which is enough for fewer than
  `2 ^ 63` of them (`World.computable_run`). -/
  nextWallet : Int := 1
  /-- The published balances. -/
  balances : Table Account Int := .empty
  /-- The published entries in the order of publication. -/
  entries : List Entry := []
  /-- The references of the published entries. -/
  references : List String := []
  /-- The number of the next entry; a number is never given back. Entries, too, are counted in 64
  bits, which is enough while fewer than `2 ^ 63` were written (`World.computable_run`). -/
  nextEntry : Int := 1
  /-- The transactions under way. -/
  live : Table TransactionId Transaction := .empty

instance : Inhabited Store := ⟨{}⟩

/-- What becomes of a call. -/
inductive Outcome (α : Type) where
  /-- Another transaction holds the lock that the call needs. -/
  | blocked
  /-- The call is done. -/
  | answered (store : Store) (answer : Except StoreError α)

namespace Store

/-! ## Transactions -/

/-- What a transaction has done so far; nothing, if it is not under way. -/
def transaction (s : Store) (t : TransactionId) : Transaction := (s.live.get? t).getD {}

/-- The store with another state of a transaction. -/
def update (s : Store) (t : TransactionId) (transaction : Transaction) : Store :=
  { s with live := s.live.insert t transaction }

/-- Begins a transaction. -/
def begin (s : Store) (t : TransactionId) : Store := s.update t {}

/-- Ends a transaction without a trace. -/
def drop (s : Store) (t : TransactionId) : Store := { s with live := s.live.erase t }

/-- Whether another transaction holds the lock of an account. -/
def isHeldByOther (s : Store) (t : TransactionId) (account : Account) : Bool :=
  s.live.rows.any fun row => row.1 != t && row.2.held.contains account

/-- What an account holds as a transaction sees it. -/
def current? (s : Store) (t : TransactionId) (account : Account) : Option Int :=
  ((s.transaction t).staged.get? account).or (s.balances.get? account)

/-- Whether there is a wallet of a number. -/
def hasWallet (s : Store) (wallet : WalletId) : Bool := s.wallets.any (·.id == wallet)

/-- Takes the lock of an account and tells what the account holds, if it has a balance. -/
def lock (s : Store) (t : TransactionId) (account : Account) : Outcome (Option Int) :=
  if s.isHeldByOther t account then .blocked
  else
    .answered (s.update t ((s.transaction t).hold account))
      (.ok (s.current? t account))

/-- Gives an account of an existing wallet a balance, unless it has one; tells whether it did. -/
def create (s : Store) (t : TransactionId) (account : Account) (initial : Int) : Outcome Bool :=
  if !s.hasWallet account.wallet then .answered s (.error (.walletNotFound account.wallet))
  else if s.isHeldByOther t account then .blocked
  else
    let transaction := (s.transaction t).hold account
    match s.current? t account with
    | some _ => .answered (s.update t transaction) (.ok false)
    | none =>
      .answered
        (s.update t { transaction with staged := transaction.staged.insert account initial })
        (.ok true)

/-- Moves the balance of a locked account and tells the new one, which is neither negative nor
beyond what can be counted. -/
def apply (s : Store) (t : TransactionId) (account : Account) (delta : Int) :
    Store × Except StoreError Int :=
  let transaction := s.transaction t
  if !transaction.held.contains account then (s, .error (.notLocked account))
  else
    match s.current? t account with
    | none => (s, .error (.missingBalance account))
    | some available =>
      let updated := available + delta
      if !Decimal.isInt64 updated then (s, .error (.overflow account))
      else if updated < 0 then (s, .error (.insufficientFunds account (-delta) available))
      else
        (s.update t { transaction with staged := transaction.staged.insert account updated },
          .ok updated)

/-- The first entry with a reference. -/
def findEntry (entries : List Entry) (reference : String) : Option Entry :=
  entries.find? (·.reference == some reference)

/-- The entry with a reference: one of the transaction itself, or else a published one. -/
def find (s : Store) (t : TransactionId) (reference : String) : Option Entry :=
  (findEntry (s.transaction t).entries reference).or (findEntry s.entries reference)

/-- Whether an entry of the transaction or a published one carries a reference. -/
def isTaken (s : Store) (t : TransactionId) (reference : String) : Bool :=
  (findEntry (s.transaction t).entries reference).isSome || s.references.contains reference

/-- Writes an entry about an account of an existing wallet under a reference that is not taken. -/
def append (s : Store) (t : TransactionId) (now : Instant) (posting : Posting) :
    Store × Except StoreError Entry :=
  if !s.hasWallet posting.account.wallet then
    (s, .error (.walletNotFound posting.account.wallet))
  else
    match posting.reference.filter (s.isTaken t) with
    | some reference => (s, .error (.duplicateReference reference))
    | none =>
      let entry : Entry := { posting with id := s.nextEntry, created := now }
      let transaction := s.transaction t
      ({ s with nextEntry := s.nextEntry + 1 }.update t
        { transaction with entries := transaction.entries ++ [entry] }, .ok entry)

/-- Publishes what a transaction has done, unless one of its references has been published in the
meantime; either way the transaction ends. -/
def commit (s : Store) (t : TransactionId) : Store × Except StoreError Unit :=
  let transaction := s.transaction t
  let references := transaction.entries.filterMap (·.reference)
  match references.find? s.references.contains with
  | some reference => (s.drop t, .error (.duplicateReference reference))
  | none =>
    ({ s.drop t with
        balances := transaction.staged.rows.foldl (fun b row => b.insert row.1 row.2) s.balances
        entries := s.entries ++ transaction.entries
        references := references ++ s.references }, .ok ())

/-! ## Wallets and reports -/

/-- Makes a wallet with the next number. -/
def createWallet (s : Store) (now : Instant) (user : UserId) (name : String) : Store × Wallet :=
  let wallet : Wallet := ⟨⟨s.nextWallet⟩, user, name, now⟩
  ({ s with wallets := s.wallets ++ [wallet], nextWallet := s.nextWallet + 1 }, wallet)

/-- The wallet of a number. -/
def findWallet (s : Store) (wallet : WalletId) : Option Wallet := s.wallets.find? (·.id == wallet)

/-- What every account holds, in the order of accounts. -/
def allHoldings (s : Store) : List Holding := s.balances.rows.map fun row => ⟨row.1, row.2⟩

/-- What the accounts of a wallet hold, in the order of currencies. -/
def holdings (s : Store) (wallet : WalletId) : List Holding :=
  s.allHoldings.filter (·.account.wallet == wallet)

/-- The newest entries of a wallet, the newest first. -/
def newest (s : Store) (wallet : WalletId) (limit : Int) : List Entry :=
  ((s.entries.filter (·.account.wallet == wallet)).mergeSort fun a b => b.id ≤ a.id).take
    limit.toNat

/-- The table with an entry added to the total of its account. -/
def addToTotal (totals : Table Account Int) (entry : Entry) : Table Account Int :=
  totals.insert entry.account ((totals.get? entry.account).getD 0 + entry.signed)

/-- What the entries of each account add up to, in the order of accounts. -/
def totals (s : Store) : List (Account × Int) := (s.entries.foldl addToTotal .empty).rows

end Store

end CurrencyLedger
