import CurrencyLedger.Store.Basic

/-! # Calls of a store

Everything that an operation asks of a store is one of these calls.

* **`Store.step`** — the answer to a call;
* **`Store.overruns`** — whether a call is not answered because it computes what cannot be counted. -/

namespace CurrencyLedger

/-- What is asked of a store. All but the calls about wallets and reports belong to the
transaction of whoever asks. -/
inductive Call where
  /-- Begins the transaction. -/
  | begin
  /-- Makes a wallet. -/
  | createWallet (user : UserId) (name : String)
  /-- Asks for a wallet. -/
  | findWallet (wallet : WalletId)
  /-- Asks what the accounts of a wallet hold. -/
  | holdings (wallet : WalletId)
  /-- Asks what every account holds. -/
  | allHoldings
  /-- Asks for the newest entries of a wallet. -/
  | entries (wallet : WalletId) (limit : Int)
  /-- Asks what the entries of each account add up to. -/
  | totals
  /-- Takes the lock of an account. -/
  | lock (account : Account)
  /-- Gives an account a balance, unless it has one. -/
  | create (account : Account) (initial : Int)
  /-- Moves the balance of an account. -/
  | apply (account : Account) (delta : Int)
  /-- Asks for the entry with a reference. -/
  | find (reference : String)
  /-- Writes an entry. -/
  | append (posting : Posting)
  /-- Publishes the transaction. -/
  | commit
  /-- Gives the transaction up. -/
  | rollback

namespace Call

/-- What a call is answered with, if it succeeds. -/
abbrev Answer : Call → Type
  | .begin => Unit
  | .createWallet .. => Wallet
  | .findWallet _ => Option Wallet
  | .holdings _ => List Holding
  | .allHoldings => List Holding
  | .entries .. => List Entry
  | .totals => List (Account × Int)
  | .lock _ => Option Int
  | .create .. => Bool
  | .apply .. => Int
  | .find _ => Option Entry
  | .append _ => Entry
  | .commit => Unit
  | .rollback => Unit

/-- The account whose lock a call needs. -/
def locks? : Call → Option Account
  | .lock account => some account
  | .create account _ => some account
  | _ => none

/-- A call with its arguments, in words. -/
def text : Call → String
  | .begin => "begin"
  | .createWallet user name => "create_wallet " ++ Numeral.text user.value ++ " " ++ name
  | .findWallet wallet => "find_wallet " ++ wallet.text
  | .holdings wallet => "balances " ++ wallet.text
  | .allHoldings => "all_balances"
  | .entries wallet limit => "entries " ++ wallet.text ++ " " ++ Numeral.text limit
  | .totals => "ledger_totals"
  | .lock account => "lock " ++ account.text
  | .create account initial => "create " ++ account.text ++ " " ++ Numeral.text initial
  | .apply account delta => "apply " ++ account.text ++ " " ++ Numeral.text delta
  | .find reference => "find " ++ reference
  | .append posting =>
    "append " ++ posting.kind.text ++ " " ++ posting.account.text ++ " " ++
      Numeral.text posting.amount ++ " " ++ posting.reference.getD "-"
  | .commit => "commit"
  | .rollback => "rollback"

end Call

/-- Answers a call of a transaction, at a given time. -/
def Store.step (s : Store) (t : TransactionId) (now : Instant) : (c : Call) → Outcome c.Answer
  | .begin => .answered (s.begin t) (.ok ())
  | .createWallet user name =>
    let made := s.createWallet now user name
    .answered made.1 (.ok made.2)
  | .findWallet wallet => .answered s (.ok (s.findWallet wallet))
  | .holdings wallet => .answered s (.ok (s.holdings wallet))
  | .allHoldings => .answered s (.ok s.allHoldings)
  | .entries wallet limit => .answered s (.ok (s.newest wallet limit))
  | .totals => .answered s (.ok s.totals)
  | .lock account => s.lock t account
  | .create account initial => s.create t account initial
  | .apply account delta =>
    let applied := s.apply t account delta
    .answered applied.1 applied.2
  | .find reference => .answered s (.ok (s.find t reference))
  | .append posting =>
    let appended := s.append t now posting
    .answered appended.1 appended.2
  | .commit =>
    let committed := s.commit t
    .answered committed.1 committed.2
  | .rollback => .answered (s.drop t) (.ok ())

/-- The totals with an entry added, if what it adds and the new total have 64 bits. -/
def Store.addToTotal? (totals : Table Account Int) (entry : Entry) : Option (Table Account Int) :=
  let next := addToTotal totals entry
  if Decimal.isInt64 entry.signed && Decimal.isInt64 ((next.get? entry.account).getD 0) then some next
  else none

/-- Whether a call computes a number beyond 64 bits without checking it. Such a call is not answered:
whoever makes it is cut off, and the store stays as it was. Shortages are told by the change with its
sign turned, which is not checked, and neither are the sums of entries. -/
def Store.overruns (s : Store) (t : TransactionId) : Call → Bool
  | .apply account delta =>
    match (s.apply t account delta).2 with
    | .error (.insufficientFunds _ required _) => !Decimal.isInt64 required
    | _ => false
  | .totals => (s.entries.foldlM addToTotal? .empty).isNone
  | _ => false

end CurrencyLedger
