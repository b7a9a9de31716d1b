import CurrencyLedger.Currency
import CurrencyLedger.Instant.Text

/-! # Wallets and accounts

A wallet belongs to a user and holds an account for every currency it has touched. Accounts are
ordered by the number of their wallet and then by their currency; all locks are taken in this
order. -/

namespace CurrencyLedger

/-- The number of a wallet. -/
@[ext] structure WalletId where
  /-- The number. -/
  value : Int
  deriving DecidableEq, Repr

namespace WalletId

/-- Wallets are ordered by their numbers. -/
instance : Ord WalletId := ⟨compareOn value⟩

instance : Std.TransOrd WalletId :=
  inferInstanceAs (Std.TransCmp (compareOn (fun w : WalletId => w.value)))

instance : Std.LawfulEqOrd WalletId where
  eq_of_compare {a b} h := by
    have same : compare a.value b.value = .eq := h
    exact WalletId.ext (Std.LawfulEqCmp.eq_of_compare same)

/-- The number of a wallet as a text. -/
def text (w : WalletId) : String := Numeral.text w.value

/-- The number of a wallet as a JSON value. -/
def toJson (w : WalletId) : Json := .int w.value

/-- Reads the number of a wallet from a JSON value. -/
def ofJson? (j : Json) : Option WalletId := j.int64?.map WalletId.mk

end WalletId

/-- The number of a user. Users themselves are not kept here. -/
structure UserId where
  /-- The number. -/
  value : Int
  deriving DecidableEq, Repr

/-- A wallet of a user. -/
structure Wallet where
  /-- The number of the wallet. -/
  id : WalletId
  /-- Whose wallet it is. -/
  user : UserId
  /-- What the wallet is called. -/
  name : String
  /-- When it was made. -/
  created : Instant
  deriving DecidableEq, Repr

namespace Wallet

/-- The members of a wallet. -/
def members (w : Wallet) : List (String × Json) :=
  [("id", w.id.toJson), ("user_id", .int w.user.value), ("name", .str w.name),
    ("created_at", w.created.toJson)]

/-- A wallet as a JSON value. -/
def toJson (w : Wallet) : Json := .obj w.members

/-- The names of the members of a wallet. -/
def names : List String := ["id", "user_id", "name", "created_at"]

/-- A wallet from its fields. -/
def ofFields? : List (Option Json) → Option Wallet
  | [id, user, name, created] => do
    pure
      { id := ← Json.required? WalletId.ofJson? id
        user := ⟨← Json.required? Json.int64? user⟩
        name := ← Json.required? Json.asString? name
        created := ← Json.required? Instant.ofJson? created }
  | _ => none

/-- Reads a wallet from a JSON value. -/
def ofJson? (j : Json) : Option Wallet := do
  let fields ← j.fields? names
  ofFields? fields

end Wallet

/-- One currency of one wallet. -/
@[ext] structure Account where
  /-- The wallet. -/
  wallet : WalletId
  /-- The currency. -/
  currency : Currency
  deriving DecidableEq, Repr

namespace Account

/-- Accounts are ordered by wallet, those of one wallet by currency. -/
instance : Ord Account := ⟨compareLex (compareOn wallet) (compareOn currency)⟩

instance : Std.TransOrd Account :=
  inferInstanceAs (Std.TransCmp (compareLex (compareOn (fun a : Account => a.wallet))
    (compareOn (fun a : Account => a.currency))))

/-- Two accounts compare as their wallets do and, for one wallet, as their currencies do. -/
theorem compare_def (a b : Account) :
    compare a b = (compare a.wallet b.wallet).then (compare a.currency b.currency) := rfl

instance : Std.LawfulEqOrd Account where
  eq_of_compare {a b} h := by
    rw [compare_def, Ordering.then_eq_eq] at h
    exact Account.ext (Std.LawfulEqCmp.eq_of_compare h.1) (Std.LawfulEqCmp.eq_of_compare h.2)

/-- The wallet and the currency, with a slash between them. -/
def text (a : Account) : String := a.wallet.text ++ "/" ++ a.currency.code

/-- An account as a JSON value. -/
def toJson (a : Account) : Json :=
  .obj [("wallet_id", a.wallet.toJson), ("currency", a.currency.toJson)]

/-- Reads an account from a JSON value. -/
def ofJson? (j : Json) : Option Account := do
  match ← j.fields? ["wallet_id", "currency"] with
  | [wallet, currency] =>
    pure
      { wallet := ← Json.required? WalletId.ofJson? wallet
        currency := ← Json.required? Currency.ofJson? currency }
  | _ => none

end Account

/-- What an account holds at some moment, in minor units. -/
structure Holding where
  /-- The account. -/
  account : Account
  /-- What it holds. -/
  amount : Int
  deriving DecidableEq, Repr

namespace Holding

/-- A holding as a JSON value. -/
def toJson (h : Holding) : Json :=
  .obj [("wallet_id", h.account.wallet.toJson), ("currency", h.account.currency.toJson),
    ("amount", .int h.amount)]

/-- Reads a holding from a JSON value. -/
def ofJson? (j : Json) : Option Holding := do
  match ← j.fields? ["wallet_id", "currency", "amount"] with
  | [wallet, currency, amount] =>
    pure
      { account :=
          { wallet := ← Json.required? WalletId.ofJson? wallet
            currency := ← Json.required? Currency.ofJson? currency }
        amount := ← Json.required? Json.int64? amount }
  | _ => none

end Holding

/-- A wallet with what its accounts hold. -/
structure WalletStatement where
  /-- The wallet. -/
  wallet : Wallet
  /-- What its accounts hold. -/
  holdings : List Holding
  deriving DecidableEq, Repr

namespace WalletStatement

/-- A statement as a JSON value: the members of the wallet, and the holdings. -/
def toJson (s : WalletStatement) : Json :=
  .obj (s.wallet.members ++ [("balances", .arr (s.holdings.map Holding.toJson))])

/-- Reads a statement from a JSON value: an object without anything unreadable, unless it stands
among the unknown members of a holding. -/
def ofJson? (j : Json) : Option WalletStatement := do
  guard (j.isReadableBut ["balances"])
  let fields ← j.members? Wallet.names
  match ← j.members? ["balances"] with
  | [holdings] =>
    pure
      { wallet := ← Wallet.ofFields? fields
        holdings := ← Json.required? (Json.list? Holding.ofJson?) holdings }
  | _ => none

end WalletStatement

end CurrencyLedger
