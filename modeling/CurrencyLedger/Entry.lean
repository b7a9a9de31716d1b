import CurrencyLedger.Wallet

/-! # Ledger entries

A posting says what is to be written about one account; an entry is a posting with its number and
its time, and is never changed. Amounts carry no sign: the kind of an entry tells in which direction
it moves the account. -/

namespace CurrencyLedger

/-- What an entry is about. -/
inductive EntryKind where
  /-- Money comes in. -/
  | deposit
  /-- Money goes out. -/
  | withdraw
  /-- The side of a transfer that gives. -/
  | transferOut
  /-- The side of a transfer that receives. -/
  | transferIn
  /-- Money is spent. -/
  | payment
  /-- Nothing moves; the entry only keeps the record of an operation. -/
  | record
  deriving DecidableEq, Repr

/-- A text that names no kind of entry. -/
structure UnknownEntryKind where
  /-- The text. -/
  text : String
  deriving DecidableEq, Repr

/-- What is wrong with the text. -/
def UnknownEntryKind.message (e : UnknownEntryKind) : String :=
  "Unknown ledger entry type: " ++ e.text

namespace EntryKind

/-- Every kind. -/
def all : List EntryKind := [.deposit, .withdraw, .transferOut, .transferIn, .payment, .record]

/-- The name of a kind. -/
def text : EntryKind → String
  | .deposit => "deposit"
  | .withdraw => "withdraw"
  | .transferOut => "transfer_out"
  | .transferIn => "transfer_in"
  | .payment => "payment"
  | .record => "meta"

/-- The kind of a name. -/
def ofText (text : String) : Except UnknownEntryKind EntryKind :=
  match all.find? (·.text == text) with
  | some kind => .ok kind
  | none => .error ⟨text⟩

/-- What an entry of the kind adds to its account. -/
def signed (kind : EntryKind) (amount : Int) : Int :=
  match kind with
  | .deposit | .transferIn => amount
  | .withdraw | .transferOut | .payment => -amount
  | .record => 0

/-- A kind as a JSON value. -/
def toJson (kind : EntryKind) : Json := .str kind.text

/-- Reads a kind from a JSON value. -/
def ofJson? (j : Json) : Option EntryKind := do
  let name ← j.caseName?
  (ofText name).toOption

/-- The name of a kind is read back. -/
@[simp] theorem ofText_text (kind : EntryKind) : ofText kind.text = .ok kind := by
  cases kind <;> rfl

end EntryKind

/-- What is to be written about an account. -/
structure Posting where
  /-- The account. -/
  account : Account
  /-- What the entry is about. -/
  kind : EntryKind
  /-- The amount, without a sign. -/
  amount : Int
  /-- The name under which the entry can be found. -/
  reference : Option String := none
  /-- What else is kept with the entry. -/
  metadata : Option Json := none
  deriving BEq

/-- What the posting adds to its account. -/
def Posting.signed (p : Posting) : Int := p.kind.signed p.amount

/-- A written posting. -/
structure Entry extends Posting where
  /-- The number of the entry. -/
  id : Int
  /-- When it was written. -/
  created : Instant
  deriving BEq

namespace Entry

/-- An entry as a JSON value. -/
def toJson (e : Entry) : Json :=
  .obj [("id", .int e.id), ("wallet_id", e.account.wallet.toJson), ("entry_type", e.kind.toJson),
    ("currency", e.account.currency.toJson), ("amount", .int e.amount),
    ("reference", Json.ofOption Json.str e.reference),
    ("meta", Json.ofOption (fun j => j) e.metadata),
    ("created_at", e.created.toJson)]

/-- The names of the members of an entry. -/
def names : List String :=
  ["id", "wallet_id", "entry_type", "currency", "amount", "reference", "meta", "created_at"]

/-- Reads an entry from a JSON value. -/
def ofJson? (j : Json) : Option Entry := do
  match ← j.fields? names with
  | [id, wallet, kind, currency, amount, reference, metadata, created] =>
    pure
      { id := ← Json.required? Json.int64? id
        account :=
          { wallet := ← Json.required? WalletId.ofJson? wallet
            currency := ← Json.required? Currency.ofJson? currency }
        kind := ← Json.required? EntryKind.ofJson? kind
        amount := ← Json.required? Json.int64? amount
        reference := ← Json.optional? Json.asString? reference
        metadata := ← Json.optional? Json.value? metadata
        created := ← Json.required? Instant.ofJson? created }
  | _ => none

end Entry

end CurrencyLedger
