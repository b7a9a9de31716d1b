import CurrencyLedger.Proofs.Amount
import CurrencyLedger.Proofs.Order.Balancing

/-! # What requests ask for

A request is an order in other words: amounts may have zeros at the end, and currencies blanks
around them and small letters. Nothing else about it may differ if it asks for the same.

* **`Currency.capitals`**, **`Currency.ofText_inj`** — a currency is its letters;
* **`Adjustment.Request.Alike`**, **`Adjustment.Request.toOrder_inj`** — whether requests to move one
  account ask for the same;
* **`Transfer.Request.Alike`**, **`Transfer.Request.toOrder_inj`** — and requests to move money
  between two. -/

namespace CurrencyLedger

/-! ## Currencies -/

/-- The letters of a currency as it was written: without the blanks around them, in capitals. -/
def Currency.capitals (text : String) : List Char :=
  (Text.trimChars text.toList).map Char.toUpper

/-- The code of a currency is made of its letters. -/
theorem Currency.code_of_ofText {text : String} {c : Currency} (h : ofText text = .ok c) :
    c.code.toList = capitals text := by
  unfold ofText at h
  dsimp only at h
  split at h
  case isFalse => cases h
  case isTrue =>
    split at h
    case h_2 => cases h
    case h_1 found made =>
      obtain rfl := Except.ok.inj h
      rw [ofCode?] at made
      split at made
      case isFalse => cases made
      case isTrue =>
        rw [← Option.some.inj made, String.toList_ofList]
        rfl

/-- Currencies are equal iff their letters are. -/
theorem Currency.ofText_inj {text other : String} {c d : Currency} (hc : ofText text = .ok c)
    (hd : ofText other = .ok d) : c = d ↔ capitals text = capitals other := by
  rw [← code_of_ofText hc, ← code_of_ofText hd, String.toList_inj]
  exact ⟨congrArg code, Currency.ext⟩

/-! ## Requests -/

/-- What is checked of a transfer. -/
theorem Transfer.make_eq_ok {source target : Account} {amount : Amount} {reference : String}
    {t : Transfer} (h : make source target amount reference = .ok t) :
    t = ⟨source, target, amount, reference⟩ ∧ source ≠ target := by
  obtain ⟨-, -, h⟩ := bind_eq_ok.1 h
  split at h
  case isTrue => cases h
  case isFalse different => exact ⟨(Except.ok.inj h).symm, different⟩

/-- What is checked of an adjustment. -/
theorem Adjustment.make_eq_ok {account : Account} {amount : Amount} {reference : String}
    {a : Adjustment} (h : make account amount reference = .ok a) :
    a = ⟨account, amount, reference⟩ := by
  obtain ⟨-, -, h⟩ := bind_eq_ok.1 h
  exact (Except.ok.inj h).symm

namespace Adjustment.Request

variable {asked other : Request} {scale : Nat} {a b : Adjustment}

/-- Whether requests ask for the same: they differ at most in zeros at the end of the amount, and in
blanks around the currency and the case of its letters. -/
structure Alike (asked other : Request) : Prop where
  /-- The wallet is the same. -/
  wallet : asked.wallet = other.wallet
  /-- The currency has the same letters. -/
  currency : Currency.capitals asked.currency = Currency.capitals other.currency
  /-- The amount is the same number. -/
  amount : asked.amount.value = other.amount.value
  /-- The reference is the same. -/
  reference : asked.reference = other.reference

/-- The order of a request has the parts that the request asks for. -/
theorem toOrder_eq_ok (h : asked.toOrder scale = .ok a) :
    ∃ currency amount, Currency.ofText asked.currency = .ok currency ∧
      Amount.ofMajor asked.amount scale = .ok amount ∧
      a = ⟨⟨⟨asked.wallet⟩, currency⟩, amount, asked.reference⟩ := by
  obtain ⟨currency, first, h⟩ := bind_eq_ok.1 h
  obtain ⟨amount, second, h⟩ := bind_eq_ok.1 h
  exact ⟨currency, amount, mapError_eq_ok.1 first, mapError_eq_ok.1 second, make_eq_ok h⟩

/-- Orders of requests are equal iff the requests ask for the same. -/
theorem toOrder_inj (ha : asked.toOrder scale = .ok a) (hb : other.toOrder scale = .ok b) :
    a = b ↔ asked.Alike other := by
  obtain ⟨currency, amount, first, second, rfl⟩ := toOrder_eq_ok ha
  obtain ⟨currency', amount', first', second', rfl⟩ := toOrder_eq_ok hb
  simp only [Adjustment.mk.injEq, Account.mk.injEq, WalletId.mk.injEq,
    Currency.ofText_inj first first', Amount.ofMajor_inj second second']
  exact ⟨fun ⟨⟨wallet, currency⟩, amount, reference⟩ => ⟨wallet, currency, amount, reference⟩,
    fun alike => ⟨⟨alike.wallet, alike.currency⟩, alike.amount, alike.reference⟩⟩

end Adjustment.Request

namespace Transfer.Request

variable {asked other : Request} {scale : Nat} {a b : Transfer}

/-- Whether requests ask for the same: they differ at most in zeros at the end of the amount, and in
blanks around the currencies and the case of their letters. -/
structure Alike (asked other : Request) : Prop where
  /-- The wallet that gives is the same. -/
  sourceWallet : asked.sourceWallet = other.sourceWallet
  /-- The wallet that receives is the same. -/
  targetWallet : asked.targetWallet = other.targetWallet
  /-- The currency that is given has the same letters. -/
  sourceCurrency :
    Currency.capitals asked.sourceCurrency = Currency.capitals other.sourceCurrency
  /-- The currency that is received has the same letters. -/
  targetCurrency :
    Currency.capitals asked.targetCurrency = Currency.capitals other.targetCurrency
  /-- The amount is the same number. -/
  amount : asked.amount.value = other.amount.value
  /-- The reference is the same. -/
  reference : asked.reference = other.reference

/-- The order of a request has the parts that the request asks for. -/
theorem toOrder_eq_ok (h : asked.toOrder scale = .ok a) :
    ∃ source target amount, Currency.ofText asked.sourceCurrency = .ok source ∧
      Currency.ofText asked.targetCurrency = .ok target ∧
      Amount.ofMajor asked.amount scale = .ok amount ∧ a.source ≠ a.target ∧
      a = ⟨⟨⟨asked.sourceWallet⟩, source⟩, ⟨⟨asked.targetWallet⟩, target⟩, amount,
        asked.reference⟩ := by
  obtain ⟨source, first, h⟩ := bind_eq_ok.1 h
  obtain ⟨target, second, h⟩ := bind_eq_ok.1 h
  obtain ⟨amount, third, h⟩ := bind_eq_ok.1 h
  obtain ⟨rfl, different⟩ := make_eq_ok h
  exact ⟨source, target, amount, mapError_eq_ok.1 first, mapError_eq_ok.1 second,
    mapError_eq_ok.1 third, different, rfl⟩

/-- Orders of requests are equal iff the requests ask for the same. -/
theorem toOrder_inj (ha : asked.toOrder scale = .ok a) (hb : other.toOrder scale = .ok b) :
    a = b ↔ asked.Alike other := by
  obtain ⟨source, target, amount, first, second, third, -, rfl⟩ := toOrder_eq_ok ha
  obtain ⟨source', target', amount', first', second', third', -, rfl⟩ := toOrder_eq_ok hb
  simp only [Transfer.mk.injEq, Account.mk.injEq, WalletId.mk.injEq,
    Currency.ofText_inj first first', Currency.ofText_inj second second',
    Amount.ofMajor_inj third third']
  exact ⟨fun ⟨⟨sourceWallet, sourceCurrency⟩, ⟨targetWallet, targetCurrency⟩, amount, reference⟩ =>
      ⟨sourceWallet, targetWallet, sourceCurrency, targetCurrency, amount, reference⟩,
    fun alike => ⟨⟨alike.sourceWallet, alike.sourceCurrency⟩,
      ⟨alike.targetWallet, alike.targetCurrency⟩, alike.amount, alike.reference⟩⟩

end Transfer.Request

end CurrencyLedger
