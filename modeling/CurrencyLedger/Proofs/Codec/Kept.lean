import CurrencyLedger.Proofs.Amount
import CurrencyLedger.Proofs.Codec.Records

/-! # What is kept is read back

Every type of value that is kept, in a store or in a text, is written and read without loss.

* **`Processed.lawful`** — receipts with the mark of an earlier attempt;
* **`Wallet.flat`**, **`Holding.lawful`**, **`WalletStatement.lawful`** — wallets and what they hold;
* **`Adjustment.lawful`**, **`Transfer.lawful`** — orders;
* **`Entry.lawful`** — ledger entries;
* **`reads_what_was_written`** — all of them together, with the completion that an entry carries and
  the outcome of a completion. -/

namespace CurrencyLedger

open Json (canonical)

namespace Json

variable {j : Json} {k : Nat}

/-- A list is read back if each of its items is. -/
theorem list?_map {α : Type} {read : Json → Option α} {write : α → Json} {as : List α}
    (each : ∀ a ∈ as, read (canonical^[k] (write a)) = some a) :
    list? read (canonical^[k] (.arr (as.map write))) = some as := by
  rw [iterate_canonical_arr, list?, List.map_map]
  induction as with
  | nil => rfl
  | cons a as ih =>
    rw [List.map_cons, List.mapM_cons, ih fun a mem => each a (List.mem_cons_of_mem _ mem)]
    simp [each a List.mem_cons_self]

/-- Every item of a list that is read is read. -/
theorem exists_of_mem_list? {α : Type} {read : Json → Option α} {as : List α} {a : α}
    (all : list? read j = some as) (mem : a ∈ as) : ∃ j, read j = some a := by
  cases j with
  | arr items =>
    obtain ⟨item, -, found⟩ := exists_of_mem_mapM all mem
    exact ⟨item, found⟩
  | _ => cases all

/-- An object without anything unreadable has nothing unreadable in any of its members. -/
theorem isReadableBut_of_isReadable {members : List (String × Json)} (names : List String)
    (readable : (obj members).isReadable = true) : (obj members).isReadableBut names = true := by
  have all : membersReadable members = true := readable
  rw [isReadableBut]
  clear readable
  induction members with
  | nil => rfl
  | cons member members ih =>
    rw [membersReadable, Bool.and_eq_true] at all
    rw [List.all_cons, all.1, Bool.or_true, ih all.2, Bool.and_self]

/-- An object that can be read back from a text stays readable in canonical form. -/
theorem isReadable_of_membersExact {members : List (String × Json)} {room : Nat}
    (exact : membersExact room members = true) (k : Nat) :
    (canonical^[k] (.obj members)).isReadable = true := by
  have whole : isExact (room + 1) (.obj members) = true := exact
  exact isReadable_iterate_canonical (isReadable_of_isExact _ whole) k

end Json

/-! ## Processed receipts -/

namespace Processed

variable {α : Type} {f : Format α} {members : α → List (String × Json)} {names : List String}
  {ofFields? : List (Option Json) → Option α}

/-- How processed receipts are kept. -/
def format (f : Format α) (members : α → List (String × Json)) (names : List String)
    (ofFields? : List (Option Json) → Option α) : Format (Processed α) where
  write := toJson members
  read := ofJson? names ofFields?
  numbers p := f.numbers p.receipt
  instants p := f.instants p.receipt
  free p := f.free p.receipt
  optional p := f.optional p.receipt
  plain p := { p with receipt := f.plain p.receipt }

/-- The members of a processed receipt can be read back from a text. -/
theorem membersExact (flat : f.Flat members names ofFields?) {p : Processed α}
    (holds : f.Holds p.receipt) :
    Json.membersExact 126 (members p.receipt ++ [("replayed", .bool p.replayed)]) = true := by
  rw [Json.membersExact_append, flat.exact holds 125]
  rfl

/-- A processed receipt that is read has a receipt that is read. -/
theorem exists_of_ofJson? {j : Json} {p : Processed α} (read : ofJson? names ofFields? j = some p) :
    ∃ fields, ofFields? fields = some p.receipt := by
  simp only [ofJson?, Option.bind_eq_bind, Option.bind_eq_some_iff] at read
  obtain ⟨-, -, fields, -, mark, -, read⟩ := read
  split at read
  case h_2 => cases read
  simp only [Option.bind_eq_some_iff, Option.pure_def, Option.some.injEq] at read
  obtain ⟨receipt, read, replayed, -, rfl⟩ := read
  exact ⟨fields, read⟩

/-- Processed receipts are written and read without loss if receipts are. -/
theorem lawful (flat : f.Flat members names ofFields?) (fresh : "replayed" ∉ names) :
    (format f members names ofFields?).Lawful where
  back {p} holds k := by
    have receipt : f.Holds p.receipt := ⟨holds.numbers, holds.instants, holds.free, holds.optional⟩
    have readable := Json.isReadable_of_membersExact (membersExact flat receipt) k
    obtain ⟨read, mark⟩ := flat.members?_append receipt k fresh (.bool p.replayed)
    obtain ⟨fields, found, read⟩ := Option.bind_eq_some_iff.1 read
    show ofJson? names ofFields? (canonical^[k] (p.toJson members)) = _
    rw [ofJson?, toJson, readable, found, mark, Function.iterate_fixed rfl]
    simp only [guard, if_true, Option.bind_eq_bind, Option.pure_def, Option.bind_some, read,
      Json.required?_some, Json.asBool?]
    rfl
  exact {p} holds _ := membersExact flat ⟨holds.numbers, holds.instants, holds.free, holds.optional⟩
  holds {j p} read := by
    obtain ⟨fields, read⟩ := exists_of_ofJson? read
    have receipt := flat.holds read
    exact ⟨receipt.numbers, receipt.instants, receipt.free, receipt.optional⟩
  nests {j p} _ part mem := by
    have none : part ∈ f.free p.receipt := mem
    rw [flat.free_eq] at none
    cases none

end Processed

/-- How processed deposits and withdrawals are kept. -/
def Adjustment.Receipt.processed : Format (Processed Adjustment.Receipt) :=
  Processed.format format members names ofFields?

/-- How processed transfers are kept. -/
def Transfer.Receipt.processed : Format (Processed Transfer.Receipt) :=
  Processed.format format members names ofFields?

/-! ## Wallets and what they hold -/

/-- How wallets are kept. -/
def Wallet.format : Format Wallet where
  write := toJson
  read := ofJson?
  numbers w := [w.id.value, w.user.value]
  instants w := [w.created]

/-- Wallets are written and read without loss. -/
theorem Wallet.flat : format.Flat members names ofFields? where
  write_eq _ := rfl
  read_eq _ := rfl
  free_eq _ := rfl
  names_eq _ := rfl
  distinct := by decide
  back {w} holds k := by
    have id := holds.numbers w.id.value (by simp [format])
    have user := holds.numbers w.user.value (by simp [format])
    have created : Instant.ofJson? (canonical^[k] w.created.toJson) = some w.created := by
      rw [Instant.toJson, Json.iterate_canonical_str]
      exact Instant.ofText?_text (holds.instants _ (List.mem_singleton_self _))
    have fields : names.map (fun name => (Json.lookup name w.members).map canonical^[k]) =
        [some (canonical^[k] w.id.toJson), some (canonical^[k] (.int w.user.value)),
          some (canonical^[k] (.str w.name)), some (canonical^[k] w.created.toJson)] := rfl
    rw [fields]
    simp only [Option.bind_eq_bind, Option.bind_some, ofFields?, Json.required?_some,
      Json.iterate_canonical_int, Json.iterate_canonical_str, Json.asString?,
      WalletId.ofJson?_canonical k id, Json.int64?_int user, created]
    rfl
  exact {w} holds room := by
    have id := holds.numbers w.id.value (by simp [format])
    have user := holds.numbers w.user.value (by simp [format])
    simp only [members, Json.membersExact, Instant.toJson, Json.isExact_str,
      WalletId.isExact_toJson _ id, Json.isExact_int _ user, Bool.and_self]
  holds {fields w} read := by
    rw [ofFields?.eq_def] at read
    split at read
    case h_2 => cases read
    simp only [Option.bind_eq_bind, Option.bind_eq_some_iff, Option.pure_def,
      Option.some.injEq] at read
    obtain ⟨id, idRead, user, userRead, name, -, created, createdRead, rfl⟩ := read
    obtain ⟨j, -, createdRead⟩ := Option.bind_eq_some_iff.1 createdRead
    have small := WalletId.isInt64_of_required? idRead
    have small' := Json.isInt64_of_required? userRead
    have year := Instant.isYear_of_ofJson? createdRead
    exact ⟨by simp [format, small, small'], by simp [format, year],
      fun _ mem => absurd mem List.not_mem_nil, fun _ mem => absurd mem List.not_mem_nil⟩

namespace Holding

/-- How holdings are kept. -/
def format : Format Holding where
  write := toJson
  read := ofJson?
  numbers h := [h.account.wallet.value, h.amount]

/-- A holding can be read back from a text. -/
theorem isExact_toJson {h : Holding} (holds : format.Holds h) (room : Nat) :
    Json.isExact (room + 1) h.toJson = true := by
  have wallet := holds.numbers h.account.wallet.value (by simp [format])
  have amount := holds.numbers h.amount (by simp [format])
  show Json.membersExact room _ = true
  simp only [Json.membersExact, WalletId.isExact_toJson _ wallet, Currency.isExact_toJson,
    Json.isExact_int _ amount, Bool.and_self]

/-- Holdings are written and read without loss. -/
theorem lawful : format.Lawful where
  back {h} holds k := by
    have wallet := holds.numbers h.account.wallet.value (by simp [format])
    have amount := holds.numbers h.amount (by simp [format])
    have fields : (canonical^[k] h.toJson).fields? ["wallet_id", "currency", "amount"] =
        some [some (canonical^[k] h.account.wallet.toJson),
          some (canonical^[k] h.account.currency.toJson), some (canonical^[k] (.int h.amount))] := by
      rw [toJson, Json.fields?_iterate_canonical (by simp)]
      rfl
    show ofJson? (canonical^[k] h.toJson) = some h
    rw [ofJson?, fields]
    simp only [Option.bind_eq_bind, Option.bind_some, Json.required?_some,
      WalletId.ofJson?_canonical k wallet, Currency.ofJson?_canonical, Json.iterate_canonical_int,
      Json.int64?_int amount]
    rfl
  exact holds _ := isExact_toJson holds 126
  holds {j h} read := by
    obtain ⟨fields, -, read⟩ := Option.bind_eq_some_iff.1 read
    split at read
    case h_2 => cases read
    simp only [Option.bind_eq_bind, Option.bind_eq_some_iff, Option.pure_def,
      Option.some.injEq] at read
    obtain ⟨wallet, walletRead, currency, -, amount, amountRead, rfl⟩ := read
    have small := WalletId.isInt64_of_required? walletRead
    have small' := Json.isInt64_of_required? amountRead
    exact .of_numbers (by simp [format, small, small']) rfl rfl rfl
  nests _ _ mem := absurd mem List.not_mem_nil

end Holding

namespace WalletStatement

/-- How statements are kept. -/
def format : Format WalletStatement where
  write := toJson
  read := ofJson?
  numbers s := Wallet.format.numbers s.wallet ++ s.holdings.flatMap Holding.format.numbers
  instants s := Wallet.format.instants s.wallet

/-- A statement is one that the program can have if and only if its parts are. -/
theorem holds_iff {s : WalletStatement} : format.Holds s ↔
    Wallet.format.Holds s.wallet ∧ ∀ h ∈ s.holdings, Holding.format.Holds h := by
  constructor
  · intro holds
    have wallet : Wallet.format.Holds s.wallet :=
      ⟨fun n mem => holds.numbers n (List.mem_append_left _ mem), holds.instants, holds.free,
        holds.optional⟩
    refine ⟨wallet, fun h within => .of_numbers (fun n mem => ?_) rfl rfl rfl⟩
    exact holds.numbers n (List.mem_append_right _ (List.mem_flatMap.2 ⟨h, within, mem⟩))
  · rintro ⟨wallet, holdings⟩
    refine ⟨fun n mem => ?_, wallet.instants, wallet.free, wallet.optional⟩
    rcases List.mem_append.1 mem with mem | mem
    · exact wallet.numbers n mem
    · obtain ⟨h, within, mem⟩ := List.mem_flatMap.1 mem
      exact (holdings h within).numbers n mem

/-- The members of a statement can be read back from a text. -/
theorem membersExact {s : WalletStatement} (holds : format.Holds s) :
    Json.membersExact 126
      (s.wallet.members ++ [("balances", .arr (s.holdings.map Holding.toJson))]) = true := by
  obtain ⟨wallet, holdings⟩ := holds_iff.1 holds
  have items : Json.areExact 125 (s.holdings.map Holding.toJson) = true :=
    Json.areExact_map fun h mem => Holding.isExact_toJson (holdings h mem) 124
  rw [Json.membersExact_append, Wallet.flat.exact wallet 125, Bool.true_and]
  exact Bool.and_eq_true_iff.2 ⟨items, rfl⟩

/-- Statements are written and read without loss. -/
theorem lawful : format.Lawful where
  back {s} holds k := by
    obtain ⟨wallet, holdings⟩ := holds_iff.1 holds
    have readable := Json.isReadable_of_membersExact (membersExact holds) k
    have listed : Json.list? Holding.ofJson?
        (canonical^[k] (.arr (s.holdings.map Holding.toJson))) = some s.holdings :=
      Json.list?_map fun h mem => Holding.lawful.back (holdings h mem) k
    have fresh : "balances" ∉ Wallet.names := by decide
    obtain ⟨read, balances⟩ := Wallet.flat.members?_append wallet k fresh
      (.arr (s.holdings.map Holding.toJson))
    obtain ⟨fields, found, read⟩ := Option.bind_eq_some_iff.1 read
    have but : (canonical^[k] s.toJson).isReadableBut ["balances"] = true := by
      obtain ⟨members, object, -⟩ :=
        Json.iterate_canonical_obj (Wallet.flat.nodup_append s.wallet fresh _) k
      rw [object] at readable
      rw [toJson, object]
      exact Json.isReadableBut_of_isReadable _ readable
    show ofJson? (canonical^[k] s.toJson) = some s
    rw [ofJson?, but, toJson, found, balances]
    simp only [guard, if_true, Option.bind_eq_bind, Option.pure_def, Option.bind_some, read,
      Json.required?_some, listed]
    rfl
  exact holds _ := membersExact holds
  holds {j s} read := by
    change ofJson? j = some s at read
    simp only [ofJson?, Option.bind_eq_bind, Option.bind_eq_some_iff] at read
    obtain ⟨-, -, fields, -, balances, -, read⟩ := read
    split at read
    case h_2 => cases read
    simp only [Option.bind_eq_some_iff, Option.pure_def, Option.some.injEq] at read
    obtain ⟨wallet, walletRead, holdings, holdingsRead, rfl⟩ := read
    obtain ⟨list, -, holdingsRead⟩ := Option.bind_eq_some_iff.1 holdingsRead
    refine holds_iff.2 ⟨Wallet.flat.holds walletRead, fun h mem => ?_⟩
    obtain ⟨item, found⟩ := Json.exists_of_mem_list? holdingsRead mem
    exact Holding.lawful.holds found
  nests _ _ mem := absurd mem List.not_mem_nil

end WalletStatement

/-! ## Orders -/

/-- An amount is read back. -/
theorem Amount.ofJson?_canonical (k : Nat) (a : Amount) :
    ofJson? (canonical^[k] a.toJson) = some a := by
  have made : ofMinor a.minor = .ok a := by
    rw [ofMinor, dif_neg (Int.not_le.2 a.positive), dif_neg (Int.not_lt.2 a.le_max)]
  rw [toJson, Json.iterate_canonical_int, ofJson?, Json.int64?_int a.isInt64_minor]
  simp only [Option.bind_eq_bind, Option.bind_some, made]
  rfl

/-- Adjustments can be read back. -/
theorem Adjustment.isExact_toJson {a : Adjustment}
    (wallet : Decimal.isInt64 a.account.wallet.value = true) :
    Json.isExact 127 a.toJson = true := by
  show Json.membersExact 126 _ = true
  simp only [Json.membersExact, WalletId.toJson, Currency.toJson, Amount.toJson, Json.isExact_str,
    Json.isExact_int _ wallet, Json.isExact_int _ a.amount.isInt64_minor, Bool.and_self]

/-- How orders to move one account are kept. -/
def Adjustment.format : Format Adjustment where
  write := toJson
  read := ofJson?
  numbers a := [a.account.wallet.value]

/-- Orders to move one account are written and read without loss. -/
theorem Adjustment.lawful : format.Lawful where
  back {a} holds k := by
    have wallet := holds.numbers a.account.wallet.value (List.mem_singleton_self _)
    have fields : (canonical^[k] a.toJson).fields? names =
        some [some (canonical^[k] a.account.wallet.toJson),
          some (canonical^[k] a.account.currency.toJson), some (canonical^[k] a.amount.toJson),
          some (canonical^[k] (.str a.reference))] := by
      rw [toJson, Json.fields?_iterate_canonical (by simp)]
      rfl
    show ofJson? (canonical^[k] a.toJson) = some a
    rw [ofJson?, fields]
    simp only [Option.bind_eq_bind, Option.bind_some, Json.required?_some,
      WalletId.ofJson?_canonical k wallet, Currency.ofJson?_canonical, Amount.ofJson?_canonical,
      Json.iterate_canonical_str, Json.asString?]
    rfl
  exact {a} holds _ := isExact_toJson (holds.numbers _ (List.mem_singleton_self _))
  holds {j a} read := by
    obtain ⟨fields, -, read⟩ := Option.bind_eq_some_iff.1 read
    split at read
    case h_2 => cases read
    simp only [Option.bind_eq_bind, Option.bind_eq_some_iff, Option.pure_def,
      Option.some.injEq] at read
    obtain ⟨wallet, walletRead, currency, -, amount, -, reference, -, rfl⟩ := read
    have small := WalletId.isInt64_of_required? walletRead
    exact .of_numbers (by simp [format, small]) rfl rfl rfl
  nests _ _ mem := absurd mem List.not_mem_nil

/-- Transfers can be read back. -/
theorem Transfer.isExact_toJson {a : Transfer}
    (source : Decimal.isInt64 a.source.wallet.value = true)
    (target : Decimal.isInt64 a.target.wallet.value = true) :
    Json.isExact 127 a.toJson = true := by
  show Json.membersExact 126 _ = true
  simp only [Json.membersExact, WalletId.toJson, Currency.toJson, Amount.toJson, Json.isExact_str,
    Json.isExact_int _ source, Json.isExact_int _ target,
    Json.isExact_int _ a.amount.isInt64_minor, Bool.and_self]

/-- How orders to move money between accounts are kept. -/
def Transfer.format : Format Transfer where
  write := toJson
  read := ofJson?
  numbers t := [t.source.wallet.value, t.target.wallet.value]

/-- Orders to move money between accounts are written and read without loss. -/
theorem Transfer.lawful : format.Lawful where
  back {t} holds k := by
    have source := holds.numbers t.source.wallet.value (by simp [format])
    have target := holds.numbers t.target.wallet.value (by simp [format])
    have fields : (canonical^[k] t.toJson).fields? names =
        some [some (canonical^[k] t.source.wallet.toJson),
          some (canonical^[k] t.target.wallet.toJson),
          some (canonical^[k] t.source.currency.toJson),
          some (canonical^[k] t.target.currency.toJson), some (canonical^[k] t.amount.toJson),
          some (canonical^[k] (.str t.reference))] := by
      rw [toJson, Json.fields?_iterate_canonical (by simp)]
      rfl
    show ofJson? (canonical^[k] t.toJson) = some t
    rw [ofJson?, fields]
    simp only [Option.bind_eq_bind, Option.bind_some, Json.required?_some,
      WalletId.ofJson?_canonical k source, WalletId.ofJson?_canonical k target,
      Currency.ofJson?_canonical, Amount.ofJson?_canonical, Json.iterate_canonical_str,
      Json.asString?]
    rfl
  exact {t} holds _ :=
    isExact_toJson (holds.numbers _ (by simp [format])) (holds.numbers _ (by simp [format]))
  holds {j t} read := by
    obtain ⟨fields, -, read⟩ := Option.bind_eq_some_iff.1 read
    split at read
    case h_2 => cases read
    simp only [Option.bind_eq_bind, Option.bind_eq_some_iff, Option.pure_def,
      Option.some.injEq] at read
    obtain ⟨source, sourceRead, currency, -, target, targetRead, currency', -, amount, -, reference,
      -, rfl⟩ := read
    have small := WalletId.isInt64_of_required? sourceRead
    have small' := WalletId.isInt64_of_required? targetRead
    exact .of_numbers (by simp [format, small, small']) rfl rfl rfl
  nests _ _ mem := absurd mem List.not_mem_nil

/-! ## Entries -/

namespace Entry

/-- How entries are kept. -/
def format : Format Entry where
  write := toJson
  read := ofJson?
  numbers e := [e.id, e.account.wallet.value, e.amount]
  instants e := [e.created]
  free e := e.metadata.toList
  optional e := e.metadata.toList

/-- The metadata of an entry are read back. -/
theorem optional?_metadata {e : Entry} (holds : format.Holds e) (k : Nat) :
    Json.optional? Json.value?
      (some (canonical^[k] (Json.ofOption (fun j => j) e.metadata))) = some e.metadata := by
  cases there : e.metadata with
  | none => rw [Json.ofOption, Json.iterate_canonical_null]; rfl
  | some j =>
    obtain ⟨readable, ordered⟩ := holds.free j (Option.mem_toList.2 there)
    have solid := holds.optional j (Option.mem_toList.2 there)
    rw [Json.ofOption, Function.iterate_fixed ordered, Json.optional?]
    · rw [Json.value?, if_pos readable, ordered]
      rfl
    · exact solid

/-- Entries are written and read without loss. -/
theorem lawful : format.Lawful where
  back {e} holds k := by
    have id := holds.numbers e.id (by simp [format])
    have wallet := holds.numbers e.account.wallet.value (by simp [format])
    have amount := holds.numbers e.amount (by simp [format])
    have kind : EntryKind.ofJson? (canonical^[k] e.kind.toJson) = some e.kind := by
      rw [EntryKind.toJson, Json.iterate_canonical_str, EntryKind.ofJson?, Json.caseName?]
      simp only [Option.bind_eq_bind, Option.bind_some, EntryKind.ofText_text]
      rfl
    have reference : Json.optional? Json.asString?
        (some (canonical^[k] (Json.ofOption Json.str e.reference))) = some e.reference := by
      cases e.reference with
      | none => rw [Json.ofOption, Json.iterate_canonical_null]; rfl
      | some s => rw [Json.ofOption, Json.iterate_canonical_str]; rfl
    have created : Instant.ofJson? (canonical^[k] e.created.toJson) = some e.created := by
      rw [Instant.toJson, Json.iterate_canonical_str]
      exact Instant.ofText?_text (holds.instants _ (List.mem_singleton_self _))
    have fields : (canonical^[k] e.toJson).fields? names =
        some [some (canonical^[k] (.int e.id)), some (canonical^[k] e.account.wallet.toJson),
          some (canonical^[k] e.kind.toJson), some (canonical^[k] e.account.currency.toJson),
          some (canonical^[k] (.int e.amount)),
          some (canonical^[k] (Json.ofOption Json.str e.reference)),
          some (canonical^[k] (Json.ofOption (fun j => j) e.metadata)),
          some (canonical^[k] e.created.toJson)] := by
      rw [toJson, Json.fields?_iterate_canonical (by simp)]
      rfl
    show ofJson? (canonical^[k] e.toJson) = some e
    rw [ofJson?, fields]
    simp only [Option.bind_eq_bind, Option.bind_some, Json.required?_some,
      Json.iterate_canonical_int, Json.int64?_int id, WalletId.ofJson?_canonical k wallet, kind,
      Currency.ofJson?_canonical, Json.int64?_int amount, reference, optional?_metadata holds k,
      created]
    rfl
  exact {e} holds free := by
    have id := holds.numbers e.id (by simp [format])
    have wallet := holds.numbers e.account.wallet.value (by simp [format])
    have amount := holds.numbers e.amount (by simp [format])
    have reference : Json.isExact 126 (Json.ofOption Json.str e.reference) = true := by
      cases e.reference <;> rfl
    have metadata : Json.isExact 126 (Json.ofOption (fun j => j) e.metadata) = true := by
      cases there : e.metadata with
      | none => rfl
      | some j => exact free j (Option.mem_toList.2 there)
    show Json.membersExact 126 _ = true
    simp only [Json.membersExact, EntryKind.toJson, Instant.toJson, Json.isExact_str,
      WalletId.isExact_toJson _ wallet, Currency.isExact_toJson, Json.isExact_int _ id,
      Json.isExact_int _ amount, reference, metadata, Bool.and_self]
  holds {j e} read := by
    obtain ⟨fields, -, read⟩ := Option.bind_eq_some_iff.1 read
    split at read
    case h_2 => cases read
    simp only [Option.bind_eq_bind, Option.bind_eq_some_iff, Option.pure_def,
      Option.some.injEq] at read
    obtain ⟨id, idRead, wallet, walletRead, currency, -, kind, -, amount, amountRead, reference, -,
      metadata, metadataRead, created, createdRead, rfl⟩ := read
    obtain ⟨source, -, createdRead⟩ := Option.bind_eq_some_iff.1 createdRead
    have small := Json.isInt64_of_required? idRead
    have small' := WalletId.isInt64_of_required? walletRead
    have small'' := Json.isInt64_of_required? amountRead
    have year := Instant.isYear_of_ofJson? createdRead
    refine ⟨by simp [format, small, small', small''], by simp [format, year], fun v mem => ?_,
      fun v mem => ?_⟩
    all_goals
      obtain rfl : metadata = some v := Option.mem_toList.1 mem
      obtain ⟨part, -, solid, found⟩ := Json.exists_of_optional? metadataRead
    · exact Json.canonical_of_value? found
    · exact Json.ne_null_of_value? found solid
  nests {j e} read part mem := by
    obtain ⟨fields, found, read⟩ := Option.bind_eq_some_iff.1 read
    split at read
    case h_2 => cases read
    simp only [Option.bind_eq_bind, Option.bind_eq_some_iff, Option.pure_def,
      Option.some.injEq] at read
    obtain ⟨id, -, wallet, -, currency, -, kind, -, amount, -, reference, -, metadata, metadataRead,
      created, -, rfl⟩ := read
    obtain rfl : metadata = some part := Option.mem_toList.1 mem
    obtain ⟨source, rfl, -, metadataRead⟩ := Json.exists_of_optional? metadataRead
    have within : source.nesting < j.nesting := Json.nesting_lt_of_fields? found (by simp)
    exact Nat.lt_of_le_of_lt (Json.nesting_of_value? metadataRead) within

end Entry

/-! ## Everything that is kept -/

/-- Nothing that is kept is lost but the sign of a zero. An entry carries the completion that its
metadata were made from, and a completion the receipt that its outcome was made from. Values of every
type that is kept are read back from what they are written as, and what was read from any text can
be written and read again. -/
theorem reads_what_was_written :
    (∀ {reference : String} {entry : Entry} {c : Completion}, Completion.format.Holds c →
      entry.metadata = some c.toMetadata → Completion.ofEntry reference entry = .ok c) ∧
    (∀ {reference : String} {c : Completion} {r : Transfer.Receipt},
      Transfer.Receipt.format.Holds r → c.outcome = r.toJson.canonical →
      c.outcomeAs Transfer.Receipt.ofJson? reference = .ok r.plain) ∧
    (∀ {reference : String} {c : Completion} {r : Adjustment.Receipt},
      Adjustment.Receipt.format.Holds r → c.outcome = r.toJson.canonical →
      c.outcomeAs Adjustment.Receipt.ofJson? reference = .ok r) ∧
    Completion.format.Faithful ∧ Conversion.format.Faithful ∧
    Adjustment.Receipt.format.Faithful ∧ Adjustment.Receipt.processed.Faithful ∧
    Transfer.Receipt.format.Faithful ∧ Transfer.Receipt.processed.Faithful ∧
    Wallet.format.Faithful ∧ WalletStatement.format.Faithful ∧
    Adjustment.format.Faithful ∧ Transfer.format.Faithful ∧ Entry.format.Faithful := by
  refine ⟨fun {reference entry c} holds metadata => ?_, fun {reference c r} holds outcome => ?_,
    fun {reference c r} holds outcome => ?_, Completion.lawful.faithful,
    Conversion.lawful.faithful, Adjustment.Receipt.flat.lawful.faithful,
    (Processed.lawful Adjustment.Receipt.flat (by decide)).faithful,
    Transfer.Receipt.flat.lawful.faithful,
    (Processed.lawful Transfer.Receipt.flat (by decide)).faithful, Wallet.flat.lawful.faithful,
    WalletStatement.lawful.faithful, Adjustment.lawful.faithful, Transfer.lawful.faithful,
    Entry.lawful.faithful⟩
  · obtain ⟨readable, ordered⟩ := holds.free c.outcome (List.mem_singleton_self _)
    rw [Completion.ofEntry, metadata, Completion.ofMetadata_toMetadata reference readable
      (fun n asked => holds.numbers n (Option.mem_toList.2 asked))
      (holds.instants _ (List.mem_singleton_self _)), Function.iterate_fixed ordered]
  · have read : Transfer.Receipt.ofJson? r.toJson.canonical = some r.plain :=
      Transfer.Receipt.flat.lawful.back holds 1
    rw [Completion.outcomeAs, outcome, read]
  · have read : Adjustment.Receipt.ofJson? r.toJson.canonical = some r :=
      Adjustment.Receipt.flat.lawful.back holds 1
    rw [Completion.outcomeAs, outcome, read]

namespace Sample

/-- The code of the dollar is one. -/
theorem isCurrencyCode_usd : isCurrencyCode "USD".toList = true := by decide

/-- The dollar. -/
def usd : Currency := ⟨"USD", isCurrencyCode_usd⟩

/-- A conversion with as many digits as a decimal has, and a zero with a minus sign. -/
def conversion : Conversion where
  source := usd
  target := ⟨"EUR", by decide⟩
  amount := Decimal.maxInt64
  rate := some ⟨79228162514264337593543950335, 28, false, by decide, by decide, Bool.noConfusion⟩
  exact := .ofInt (-79228162514264337593543950335)
  converted := Decimal.minInt64
  remainder :=
    { Decimal.zero with scale := 28, scale_le := by decide, minusZero := true,
                        coefficient_of_minusZero := fun _ => rfl }

/-- A receipt with such a conversion. -/
def receipt : Transfer.Receipt := ⟨"share", ⟨1⟩, ⟨2⟩, conversion, Decimal.minInt64, Decimal.maxInt64⟩

/-- The completion of the transfer. -/
def completion : Completion where
  kind := .transfer
  fingerprint := ⟨"none of the \"usual\" ones"⟩
  outcome := receipt.toJson.canonical
  context := { user := some 5 }
  recorded := .ofMillis 1700000000123

/-- The entry that carries the completion. -/
def entry : Entry where
  account := ⟨⟨1⟩, usd⟩
  kind := .transferOut
  amount := 400
  reference := some "share"
  metadata := some completion.toMetadata
  id := 1
  created := .ofMillis 1700000000123

end Sample

/-- An entry, its completion and its receipt with the greatest and least numbers there are come back
from the entry's text. Only the zero loses its minus sign. -/
theorem reads_what_was_written_extreme :
    (Json.parse? Sample.entry.toJson.text).bind Entry.ofJson? = some Sample.entry ∧
    Completion.ofEntry "share" Sample.entry = .ok Sample.completion ∧
    Sample.completion.outcomeAs Transfer.Receipt.ofJson? "share" = .ok Sample.receipt.plain := by
  obtain ⟨carried, outcome, -, -, -, -, -, -, -, -, -, -, -, entries⟩ := reads_what_was_written
  have receipt : Transfer.Receipt.format.Holds Sample.receipt :=
    .of_numbers (by decide) rfl rfl rfl
  have completion : Completion.format.Holds Sample.completion := by
    refine ⟨by decide, by decide +kernel, fun j mem => ?_,
      fun _ mem => absurd mem List.not_mem_nil⟩
    obtain rfl := List.mem_singleton.1 mem
    exact ⟨Json.isReadable_canonical _ rfl, Json.canonical_canonical _⟩
  have entry : Entry.format.Holds Sample.entry := by
    refine ⟨by decide, by decide +kernel, fun j mem => ?_, fun j mem => ?_⟩
    all_goals obtain rfl := List.mem_singleton.1 mem
    · refine ⟨Json.isReadable_canonical _ ?_, Json.canonical_canonical _⟩
      decide +kernel
    · exact Json.noConfusion
  refine ⟨entries.text entry fun j mem => ?_, carried completion rfl, outcome receipt rfl⟩
  obtain rfl := List.mem_singleton.1 mem
  decide +kernel

namespace Sample

/-- As many lists in each other. -/
def lists : Nat → Json
  | 0 => .null
  | n + 1 => .arr [lists n]

/-- Lists in each other are in canonical form. -/
theorem canonical_lists (n : Nat) : (lists n).canonical = lists n := by
  induction n with
  | zero => rfl
  | succ n ih => rw [lists, canonical, Json.canonicalItems, ih, Json.canonicalItems]

/-- An entry with two hundred lists in each other. -/
def deepEntry : Entry := { entry with metadata := some (lists 200) }

end Sample

/-- Texts are read 127 levels deep only. An entry whose metadata are lists nested deeper has a text,
but is not read back from it. -/
theorem deep_metadata_is_not_read_back :
    Entry.format.Holds Sample.deepEntry ∧
    (∀ j ∈ Entry.format.free Sample.deepEntry, ∃ room, Json.isExact room j = true) ∧
    (Json.parse? Sample.deepEntry.toJson.text).bind Entry.ofJson? ≠ some Sample.deepEntry := by
  have holds : Entry.format.Holds Sample.deepEntry := by
    refine ⟨by decide, by decide +kernel, fun j mem => ?_, fun j mem => ?_⟩
    all_goals obtain rfl := List.mem_singleton.1 mem
    · exact ⟨by decide +kernel, Sample.canonical_lists 200⟩
    · exact Json.noConfusion
  refine ⟨holds, fun j mem => ⟨200, ?_⟩, fun read => ?_⟩
  · obtain rfl := List.mem_singleton.1 mem
    decide +kernel
  · have shallow := Entry.lawful.nesting_lt read (Sample.lists 200) (List.mem_singleton_self _)
    revert shallow
    decide +kernel

end CurrencyLedger
