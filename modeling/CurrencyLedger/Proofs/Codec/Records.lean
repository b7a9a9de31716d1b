import CurrencyLedger.Completion
import CurrencyLedger.Proofs.Codec.Format
import CurrencyLedger.Proofs.Codec.Instant
import CurrencyLedger.Proofs.Codec.Uuid
import CurrencyLedger.Transfer

/-! # Reading records back

What is written as a JSON value is read back from it, however often the value was brought into
canonical form in between, and what is read can be written. Only a zero loses its minus sign.

* **`Conversion.lawful`**, **`Adjustment.Receipt.flat`**, **`Transfer.Receipt.flat`** — conversions
  and receipts;
* **`Conversion.Countable`**, **`Adjustment.Receipt.Countable`**, **`Transfer.Receipt.Countable`** —
  those that hold numbers of 64 bits and no zero with a minus sign, and so lose nothing;
* **`Context.ofJson?_canonical`**, **`Completion.ofJson?_canonical`** — contexts and completions;
* **`Completion.lawful`** — completions whose outcome is in canonical form. -/

namespace CurrencyLedger

open Json (canonical)

variable (k : Nat)

/-! ## Fields -/

namespace Json

/-- A field that is there is read. -/
@[simp] theorem required?_some {α : Type} (read : Json → Option α) (j : Json) :
    required? read (some j) = read j := rfl

/-- A number of 64 bits is read back. -/
theorem int64?_int {n : Int} (small : Decimal.isInt64 n = true) : int64? (.int n) = some n := by
  rw [int64?, if_pos small]

/-- A number that is read has 64 bits. -/
theorem isInt64_of_int64? {j : Json} {n : Int} (read : int64? j = some n) :
    Decimal.isInt64 n = true := by
  cases j with
  | int m =>
    rw [int64?] at read
    split at read
    case isTrue small => cases read; exact small
    case isFalse => cases read
  | _ => cases read

/-- A number that is read from a field has 64 bits. -/
theorem isInt64_of_required? {field : Option Json} {n : Int}
    (read : required? int64? field = some n) : Decimal.isInt64 n = true := by
  obtain ⟨j, -, read⟩ := Option.bind_eq_some_iff.1 read
  exact isInt64_of_int64? read

/-- A decimal is read back, but for the sign of a zero. -/
theorem decimal?_ofDecimal (d : Decimal) :
    decimal? (canonical^[k] (ofDecimal d)) = some d.plain := by
  rw [ofDecimal, iterate_canonical_str]
  exact Decimal.ofText?_text_plain d

/-- Decimals can be read back from a text. -/
theorem isExact_ofDecimal (room : Nat) (d : Decimal) : isExact room (ofDecimal d) = true :=
  isExact_str room d.text

/-- A field that may be absent is read back if what it holds is, and is not `null`. -/
theorem optional?_map {α : Type} {read : Json → Option α} {write : α → Json} {field : Option α}
    (back : ∀ a ∈ field, write a ≠ .null ∧ read (write a) = some a) :
    optional? read (field.map write) = some field := by
  cases field with
  | none => rfl
  | some a =>
    obtain ⟨solid, same⟩ := back a rfl
    rw [Option.map_some, optional?]
    · rw [same]
      rfl
    · exact solid

/-- A field that may be absent and holds something holds what is read from it. -/
theorem exists_of_optional? {α : Type} {read : Json → Option α} {field : Option Json} {a : α}
    (found : optional? read field = some (some a)) :
    ∃ j, field = some j ∧ j ≠ .null ∧ read j = some a := by
  cases field with
  | none => cases found
  | some j =>
    by_cases null : j = .null
    · rw [null] at found
      cases found
    · rw [optional?] at found
      · obtain ⟨a', read, same⟩ := Option.map_eq_some_iff.1 found
        exact ⟨j, rfl, null, Option.some.inj same ▸ read⟩
      · exact null

/-- A decimal that may be missing is read back, but for the sign of a zero. -/
theorem optional?_decimal? (d : Option Decimal) :
    optional? decimal? (some (canonical^[k] (ofOption ofDecimal d))) =
      some (d.map Decimal.plain) := by
  cases d with
  | none => rw [ofOption, iterate_canonical_null]; rfl
  | some d =>
    have read := decimal?_ofDecimal k d
    rw [ofDecimal, iterate_canonical_str] at read
    rw [ofOption, ofDecimal, iterate_canonical_str]
    exact congrArg (Option.map some) read

end Json

/-! ## Currencies, wallets and amounts -/

/-- A capital letter is no blank. -/
theorem Text.isBlank_of_isUpper {c : Char} (upper : c.isUpper = true) : isBlank c = false := by
  have bounds : 'A'.val ≤ c.val ∧ c.val ≤ 'Z'.val := of_decide_eq_true upper
  have lo : 65 ≤ c.toNat := UInt32.le_iff_toNat_le.1 bounds.1
  have hi : c.toNat ≤ 90 := UInt32.le_iff_toNat_le.1 bounds.2
  simp only [isBlank, Bool.or_eq_false_iff, Bool.and_eq_false_iff, decide_eq_false_iff_not,
    beq_eq_false_iff_ne]
  omega

/-- A capital letter is its own capital letter. -/
theorem Text.toUpper_of_isUpper {c : Char} (upper : c.isUpper = true) : c.toUpper = c := by
  have bounds : 'A'.val ≤ c.val ∧ c.val ≤ 'Z'.val := of_decide_eq_true upper
  have hi : c.val.toNat ≤ 90 := UInt32.le_iff_toNat_le.1 bounds.2
  have other : ¬ ('a'.val ≤ c.val ∧ c.val ≤ 'z'.val) := by
    intro lower
    have lo : 97 ≤ c.val.toNat := UInt32.le_iff_toNat_le.1 lower.1
    omega
  exact dif_neg other

/-- Nothing is cut off a text without blanks. -/
theorem Text.trimChars_eq_self {cs : List Char} (solid : ∀ c ∈ cs, isBlank c = false) :
    trimChars cs = cs := by
  have start {ds : List Char} (solid : ∀ c ∈ ds, isBlank c = false) : trimStart ds = ds := by
    cases ds with
    | nil => rfl
    | cons c rest => exact Instant.trimStart_cons rest (solid c List.mem_cons_self)
  have back : ∀ c ∈ cs.reverse, isBlank c = false := fun c mem => solid c (List.mem_reverse.1 mem)
  rw [trimChars, start solid, start back, List.reverse_reverse]

namespace Currency

/-- The code of a currency is read back. -/
theorem ofText_code (c : Currency) : ofText c.code = .ok c := by
  have formed := c.wellFormed
  rw [isCurrencyCode, Bool.and_eq_true] at formed
  have upper : ∀ x ∈ c.code.toList, x.isUpper = true := List.all_eq_true.1 formed.2
  -- Neither trimming nor capitals change a code, which has capital letters only.
  have trimmed : Text.trimChars c.code.toList = c.code.toList :=
    Text.trimChars_eq_self fun x mem => Text.isBlank_of_isUpper (upper x mem)
  have alpha : c.code.toList.all Char.isAlpha = true := by
    rw [List.all_eq_true]
    intro x mem
    exact Bool.or_eq_true_iff.2 (.inl (upper x mem))
  have same : c.code.toList.map Char.toUpper = c.code.toList := by
    rw [List.map_congr_left fun x mem => Text.toUpper_of_isUpper (upper x mem), List.map_id']
  have code : ofCode? c.code = some c := by rw [ofCode?, dif_pos c.wellFormed]
  rw [ofText, trimmed]
  simp only [alpha, if_true, same, String.ofList_toList, code]

/-- A currency is read back. -/
@[simp] theorem ofJson?_canonical (c : Currency) :
    ofJson? (canonical^[k] c.toJson) = some c := by
  rw [toJson, Json.iterate_canonical_str, ofJson?, ofText_code]
  rfl

end Currency

namespace WalletId

/-- The number of a wallet is read back. -/
theorem ofJson?_canonical {w : WalletId} (small : Decimal.isInt64 w.value = true) :
    ofJson? (canonical^[k] w.toJson) = some w := by
  rw [toJson, Json.iterate_canonical_int, ofJson?, Json.int64?_int small]
  rfl

/-- The number of a wallet that is read has 64 bits. -/
theorem isInt64_of_required? {field : Option Json} {w : WalletId}
    (read : Json.required? ofJson? field = some w) : Decimal.isInt64 w.value = true := by
  obtain ⟨j, -, read⟩ := Option.bind_eq_some_iff.1 read
  obtain ⟨n, number, rfl⟩ := Option.map_eq_some_iff.1 read
  exact Json.isInt64_of_int64? number

/-- The number of a wallet can be read back from a text. -/
theorem isExact_toJson (room : Nat) {w : WalletId} (small : Decimal.isInt64 w.value = true) :
    Json.isExact room w.toJson = true :=
  Json.isExact_int room small

end WalletId

/-- Currencies can be read back from a text. -/
theorem Currency.isExact_toJson (room : Nat) (c : Currency) : Json.isExact room c.toJson = true :=
  Json.isExact_str room c.code

/-! ## Conversions -/

namespace Conversion

/-- Whether a conversion counts in 64 bits and holds no zero with a minus sign. -/
structure Countable (c : Conversion) : Prop where
  /-- How much of the source. -/
  amount : Decimal.isInt64 c.amount = true
  /-- The rate. -/
  rate : ∀ rate ∈ c.rate, rate.minusZero = false
  /-- The product. -/
  exact : c.exact.minusZero = false
  /-- How much of the target. -/
  converted : Decimal.isInt64 c.converted = true
  /-- What is left. -/
  remainder : c.remainder.minusZero = false

/-- The conversion without the signs of its zeros. -/
def plain (c : Conversion) : Conversion :=
  { c with rate := c.rate.map Decimal.plain, exact := c.exact.plain, remainder := c.remainder.plain }

/-- How conversions are kept. -/
def format : Format Conversion where
  write := toJson
  read := ofJson?
  numbers c := [c.amount, c.converted]
  plain := plain

/-- A countable conversion holds no sign that could be lost. -/
theorem Countable.plain_eq {c : Conversion} (countable : c.Countable) : c.plain = c := by
  have rate : c.rate.map Decimal.plain = c.rate := by
    cases rated : c.rate with
    | none => rfl
    | some rate => exact congrArg some (Decimal.plain_eq_self (countable.rate rate rated))
  rw [plain, rate, Decimal.plain_eq_self countable.exact, Decimal.plain_eq_self countable.remainder]

/-- A countable conversion is one that the program can have. -/
theorem Countable.holds {c : Conversion} (countable : c.Countable) : format.Holds c :=
  .of_numbers (by simp [format, countable.amount, countable.converted]) rfl rfl rfl

/-- A conversion can be read back from a text. -/
theorem isExact_toJson {c : Conversion} (holds : format.Holds c) (room : Nat) :
    Json.isExact (room + 1) c.toJson = true := by
  have amount := holds.numbers c.amount (by simp [format])
  have converted := holds.numbers c.converted (by simp [format])
  have rate : Json.isExact room (Json.ofOption Json.ofDecimal c.rate) = true := by
    cases c.rate with
    | none => cases room <;> rfl
    | some rate => exact Json.isExact_ofDecimal room rate
  show Json.membersExact room _ = true
  simp only [Json.membersExact, Currency.isExact_toJson, Json.isExact_int _ amount,
    Json.isExact_int _ converted, rate, Json.isExact_ofDecimal, Bool.and_self]

/-- Conversions are written and read without loss. -/
theorem lawful : format.Lawful where
  back {c} holds k := by
    have amount := holds.numbers c.amount (by simp [format])
    have converted := holds.numbers c.converted (by simp [format])
    have fields : (canonical^[k] c.toJson).fields? names =
        some [some (canonical^[k] c.source.toJson), some (canonical^[k] c.target.toJson),
          some (canonical^[k] (.int c.amount)),
          some (canonical^[k] (Json.ofOption Json.ofDecimal c.rate)),
          some (canonical^[k] (Json.ofDecimal c.exact)), some (canonical^[k] (.int c.converted)),
          some (canonical^[k] (Json.ofDecimal c.remainder))] := by
      rw [toJson, Json.fields?_iterate_canonical (by simp)]
      rfl
    show ofJson? (canonical^[k] c.toJson) = some c.plain
    rw [ofJson?, fields]
    simp only [Option.bind_eq_bind, Option.bind_some, Json.required?_some,
      Currency.ofJson?_canonical, Json.iterate_canonical_int, Json.int64?_int amount,
      Json.int64?_int converted, Json.optional?_decimal?, Json.decimal?_ofDecimal]
    rfl
  exact holds _ := isExact_toJson holds 126
  holds {j c} read := by
    obtain ⟨fields, -, read⟩ := Option.bind_eq_some_iff.1 read
    split at read
    case h_2 => cases read
    simp only [Option.bind_eq_bind, Option.bind_eq_some_iff, Option.pure_def,
      Option.some.injEq] at read
    obtain ⟨source, -, target, -, amount, amountRead, rate, -, exact, -, converted, convertedRead,
      remainder, -, rfl⟩ := read
    have small := Json.isInt64_of_required? amountRead
    have small' := Json.isInt64_of_required? convertedRead
    exact .of_numbers (by simp [format, small, small']) rfl rfl rfl
  nests _ _ mem := absurd mem List.not_mem_nil

end Conversion

/-! ## Receipts -/

namespace Adjustment.Receipt

/-- Whether a receipt counts in 64 bits. -/
structure Countable (r : Receipt) : Prop where
  /-- The number of the wallet. -/
  wallet : Decimal.isInt64 r.account.wallet.value = true
  /-- By how much the account was moved. -/
  amount : Decimal.isInt64 r.amount = true
  /-- What it holds now. -/
  balance : Decimal.isInt64 r.balance = true

/-- How receipts of deposits and withdrawals are kept. -/
def format : Format Receipt where
  write := toJson
  read := ofJson?
  numbers r := [r.account.wallet.value, r.amount, r.balance]

/-- Receipts of deposits and withdrawals are written and read without loss. -/
theorem flat : format.Flat members names ofFields? where
  write_eq _ := rfl
  read_eq _ := rfl
  free_eq _ := rfl
  names_eq _ := rfl
  distinct := by decide
  back {r} holds k := by
    have wallet := holds.numbers r.account.wallet.value (by simp [format])
    have amount := holds.numbers r.amount (by simp [format])
    have balance := holds.numbers r.balance (by simp [format])
    have fields : names.map (fun name => (Json.lookup name r.members).map canonical^[k]) =
        [some (canonical^[k] (.str r.reference)), some (canonical^[k] r.account.wallet.toJson),
          some (canonical^[k] r.account.currency.toJson), some (canonical^[k] (.int r.amount)),
          some (canonical^[k] (.int r.balance))] := rfl
    rw [fields]
    simp only [Option.bind_eq_bind, Option.bind_some, ofFields?, Json.required?_some,
      Json.iterate_canonical_int, Json.iterate_canonical_str, Json.asString?,
      Currency.ofJson?_canonical, WalletId.ofJson?_canonical k wallet, Json.int64?_int amount,
      Json.int64?_int balance]
    rfl
  exact {r} holds room := by
    have wallet := holds.numbers r.account.wallet.value (by simp [format])
    have amount := holds.numbers r.amount (by simp [format])
    have balance := holds.numbers r.balance (by simp [format])
    simp only [members, Json.membersExact, Json.isExact_str, WalletId.isExact_toJson _ wallet,
      Currency.isExact_toJson, Json.isExact_int _ amount, Json.isExact_int _ balance,
      Bool.and_self]
  holds {fields r} read := by
    rw [ofFields?.eq_def] at read
    split at read
    case h_2 => cases read
    simp only [Option.bind_eq_bind, Option.bind_eq_some_iff, Option.pure_def,
      Option.some.injEq] at read
    obtain ⟨reference, -, wallet, walletRead, currency, -, amount, amountRead, balance,
      balanceRead, rfl⟩ := read
    have small := WalletId.isInt64_of_required? walletRead
    have small' := Json.isInt64_of_required? amountRead
    have small'' := Json.isInt64_of_required? balanceRead
    exact .of_numbers (by simp [format, small, small', small'']) rfl rfl rfl

/-- The receipt of a deposit or a withdrawal is read back. -/
theorem ofJson?_canonical {r : Receipt} (countable : r.Countable) :
    ofJson? (canonical^[k] r.toJson) = some r := by
  have holds : format.Holds r :=
    .of_numbers (by simp [format, countable.wallet, countable.amount, countable.balance]) rfl rfl
      rfl
  exact flat.lawful.back holds k

end Adjustment.Receipt

namespace Transfer.Receipt

/-- Whether a receipt counts in 64 bits and holds no zero with a minus sign. -/
structure Countable (r : Receipt) : Prop where
  /-- The number of the wallet that gave. -/
  source : Decimal.isInt64 r.source.value = true
  /-- The number of the wallet that received. -/
  target : Decimal.isInt64 r.target.value = true
  /-- What became of the amount. -/
  conversion : r.conversion.Countable
  /-- What the source holds now. -/
  sourceBalance : Decimal.isInt64 r.sourceBalance = true
  /-- What the target holds now. -/
  targetBalance : Decimal.isInt64 r.targetBalance = true

/-- The receipt without the signs of its zeros. -/
def plain (r : Receipt) : Receipt := { r with conversion := r.conversion.plain }

/-- How receipts of transfers are kept. -/
def format : Format Receipt where
  write := toJson
  read := ofJson?
  numbers r := [r.source.value, r.target.value, r.sourceBalance, r.targetBalance] ++
    Conversion.format.numbers r.conversion
  plain := plain

/-- A receipt is one that the program can have if its conversion is and its own numbers have 64
bits. -/
theorem holds_of {r : Receipt} (source : Decimal.isInt64 r.source.value = true)
    (target : Decimal.isInt64 r.target.value = true)
    (conversion : Conversion.format.Holds r.conversion)
    (sourceBalance : Decimal.isInt64 r.sourceBalance = true)
    (targetBalance : Decimal.isInt64 r.targetBalance = true) : format.Holds r := by
  refine .of_numbers (fun n mem => ?_) rfl rfl rfl
  rcases List.mem_append.1 mem with own | mem
  · clear mem
    revert n
    simp [source, target, sourceBalance, targetBalance]
  · exact conversion.numbers n mem

/-- The conversion of a receipt is one that the program can have. -/
theorem holds_conversion {r : Receipt} (holds : format.Holds r) :
    Conversion.format.Holds r.conversion :=
  .of_numbers (fun n mem => holds.numbers n (List.mem_append_right _ mem)) rfl rfl rfl

/-- Receipts of transfers are written and read without loss. -/
theorem flat : format.Flat members names ofFields? where
  write_eq _ := rfl
  read_eq _ := rfl
  free_eq _ := rfl
  names_eq _ := rfl
  distinct := by decide
  back {r} holds k := by
    have source := holds.numbers r.source.value (by simp [format])
    have target := holds.numbers r.target.value (by simp [format])
    have sourceBalance := holds.numbers r.sourceBalance (by simp [format])
    have targetBalance := holds.numbers r.targetBalance (by simp [format])
    have status : status? (.str "completed") = some () := rfl
    have conversion : Conversion.ofJson? (canonical^[k] r.conversion.toJson) =
        some r.conversion.plain := Conversion.lawful.back (holds_conversion holds) k
    have fields : names.map (fun name => (Json.lookup name r.members).map canonical^[k]) =
        [some (canonical^[k] (.str "completed")), some (canonical^[k] (.str r.reference)),
          some (canonical^[k] r.source.toJson), some (canonical^[k] r.target.toJson),
          some (canonical^[k] r.conversion.toJson), some (canonical^[k] (.int r.sourceBalance)),
          some (canonical^[k] (.int r.targetBalance))] := rfl
    rw [fields]
    simp only [Option.bind_eq_bind, Option.bind_some, ofFields?, Json.required?_some,
      Json.iterate_canonical_int, Json.iterate_canonical_str, Json.asString?, status,
      WalletId.ofJson?_canonical k source, WalletId.ofJson?_canonical k target, conversion,
      Json.int64?_int sourceBalance, Json.int64?_int targetBalance]
    rfl
  exact {r} holds room := by
    have source := holds.numbers r.source.value (by simp [format])
    have target := holds.numbers r.target.value (by simp [format])
    have sourceBalance := holds.numbers r.sourceBalance (by simp [format])
    have targetBalance := holds.numbers r.targetBalance (by simp [format])
    simp only [members, Json.membersExact, Json.isExact_str, WalletId.isExact_toJson _ source,
      WalletId.isExact_toJson _ target, Conversion.isExact_toJson (holds_conversion holds),
      Json.isExact_int _ sourceBalance, Json.isExact_int _ targetBalance, Bool.and_self]
  holds {fields r} read := by
    rw [ofFields?.eq_def] at read
    split at read
    case h_2 => cases read
    simp only [Option.bind_eq_bind, Option.bind_eq_some_iff, Option.pure_def,
      Option.some.injEq] at read
    obtain ⟨_, -, reference, -, source, sourceRead, target, targetRead, conversion, conversionRead,
      sourceBalance, sourceBalanceRead, targetBalance, targetBalanceRead, rfl⟩ := read
    obtain ⟨j, -, conversionRead⟩ := Option.bind_eq_some_iff.1 conversionRead
    exact holds_of (WalletId.isInt64_of_required? sourceRead)
      (WalletId.isInt64_of_required? targetRead) (Conversion.lawful.holds conversionRead)
      (Json.isInt64_of_required? sourceBalanceRead) (Json.isInt64_of_required? targetBalanceRead)

/-- The receipt of a transfer is read back. -/
theorem ofJson?_canonical {r : Receipt} (countable : r.Countable) :
    ofJson? (canonical^[k] r.toJson) = some r := by
  have holds : format.Holds r := holds_of countable.source countable.target
    countable.conversion.holds countable.sourceBalance countable.targetBalance
  have same : r.plain = r := by rw [plain, countable.conversion.plain_eq]
  exact (flat.lawful.back holds k).trans (congrArg some same)

end Transfer.Receipt

/-! ## Contexts -/

namespace Context

/-- A context with the number of a user in 64 bits is read back. -/
theorem ofJson?_canonical {c : Context} (small : ∀ n ∈ c.user, Decimal.isInt64 n = true) :
    ofJson? (canonical^[k] c.toJson) = some c := by
  have correlation : Json.optional? uuidOfJson?
      (c.correlation.map fun u => canonical^[k] (uuidToJson u)) = some c.correlation := by
    refine Json.optional?_map fun u _ => ?_
    rw [uuidToJson, Json.iterate_canonical_str]
    exact ⟨Json.noConfusion, Uuid.ofText?_text u⟩
  have user : Json.optional? Json.int64? (c.user.map fun n => canonical^[k] (.int n)) =
      some c.user := by
    refine Json.optional?_map fun n mem => ?_
    rw [Json.iterate_canonical_int]
    exact ⟨Json.noConfusion, Json.int64?_int (small n mem)⟩
  have fields : (canonical^[k] c.toJson).fields? ["correlation_id", "request_user_id"] =
      some [c.correlation.map fun u => canonical^[k] (uuidToJson u),
        c.user.map fun n => canonical^[k] (.int n)] := by
    -- Which members are written depends on what is there.
    cases known : c.correlation <;> cases asked : c.user
    all_goals
      rw [toJson, known, asked, Json.fields?_iterate_canonical (by simp)]
      rfl
  rw [ofJson?, fields]
  simp only [Option.bind_eq_bind, Option.bind_some, correlation, user]
  rfl

/-- A context can be read back from a text. -/
theorem isExact_toJson {c : Context} (small : ∀ n ∈ c.user, Decimal.isInt64 n = true)
    (room : Nat) : Json.isExact (room + 1) c.toJson = true := by
  show Json.membersExact room _ = true
  have user : Json.membersExact room
      (c.user.map fun n => ("request_user_id", Json.int n)).toList = true := by
    cases asked : c.user with
    | none => rfl
    | some n => simp [Json.membersExact, Json.isExact_int room (small n asked)]
  cases c.correlation with
  | none => exact user
  | some u => exact Bool.and_eq_true_iff.2 ⟨Json.isExact_str room u.text, user⟩

/-- The number of a user that is read has 64 bits. -/
theorem isInt64_of_ofJson? {j : Json} {c : Context} (read : ofJson? j = some c) :
    ∀ n ∈ c.user, Decimal.isInt64 n = true := by
  intro n asked
  obtain ⟨fields, -, read⟩ := Option.bind_eq_some_iff.1 read
  split at read
  case h_2 => cases read
  simp only [Option.bind_eq_bind, Option.bind_eq_some_iff, Option.pure_def,
    Option.some.injEq] at read
  obtain ⟨correlation, -, user, found, rfl⟩ := read
  obtain rfl : user = some n := asked
  obtain ⟨j, -, -, found⟩ := Json.exists_of_optional? found
  exact Json.isInt64_of_int64? found

end Context

/-! ## Completions -/

namespace Completion

variable {c : Completion}

/-- A completion is read back, with its outcome in canonical form. -/
theorem ofJson?_canonical (readable : c.outcome.isReadable = true)
    (user : ∀ n ∈ c.context.user, Decimal.isInt64 n = true)
    (year : Instant.isYear (Instant.civil c.recorded.day).year = true) :
    ofJson? (canonical^[k] c.toJson) = some { c with outcome := canonical^[k + 1] c.outcome } := by
  have kind : OperationKind.ofJson? (canonical^[k] c.kind.toJson) = some c.kind := by
    rw [OperationKind.toJson, Json.iterate_canonical_str]
    exact OperationKind.ofText?_text c.kind
  have fingerprint : Fingerprint.read? (canonical^[k] c.fingerprint.toJson) =
      some c.fingerprint := by
    rw [Fingerprint.toJson, Json.iterate_canonical_str]
    rfl
  have context := Context.ofJson?_canonical k user
  have recorded : Instant.ofJson? (canonical^[k] c.recorded.toJson) = some c.recorded := by
    rw [Instant.toJson, Json.iterate_canonical_str]
    exact Instant.ofText?_text year
  have outcome : Json.value? (canonical^[k] c.outcome) = some (canonical^[k + 1] c.outcome) := by
    rw [Json.value?, if_pos (Json.isReadable_iterate_canonical readable k),
      Function.iterate_succ_apply']
  have fields : (canonical^[k] c.toJson).fields?
      ["kind", "fingerprint", "outcome", "context", "recorded_at"] =
        some [some (canonical^[k] c.kind.toJson), some (canonical^[k] c.fingerprint.toJson),
          some (canonical^[k] c.outcome), some (canonical^[k] c.context.toJson),
          some (canonical^[k] c.recorded.toJson)] := by
    rw [toJson, Json.fields?_iterate_canonical (by simp)]
    rfl
  rw [ofJson?, fields]
  simp only [Option.bind_eq_bind, Option.bind_some, Json.required?_some, kind, fingerprint, outcome,
    contextField?, context, recorded]
  rfl

/-- A completion is read back from the metadata of an entry, where it is in canonical form. -/
theorem ofJson?_toMetadata (readable : c.outcome.isReadable = true)
    (user : ∀ n ∈ c.context.user, Decimal.isInt64 n = true)
    (year : Instant.isYear (Instant.civil c.recorded.day).year = true) :
    ofJson? c.toMetadata = some { c with outcome := canonical^[2] c.outcome } :=
  ofJson?_canonical 1 readable user year

/-- A completion is found in the metadata that were made from it, whatever the reference. -/
theorem ofMetadata_toMetadata (reference : String) (readable : c.outcome.isReadable = true)
    (user : ∀ n ∈ c.context.user, Decimal.isInt64 n = true)
    (year : Instant.isYear (Instant.civil c.recorded.day).year = true) :
    ofMetadata reference (some c.toMetadata) = .ok { c with outcome := canonical^[2] c.outcome } := by
  have named : (c.toMetadata.get? "fingerprint").isNone = false := by
    rw [toMetadata, toJson, canonical, Json.get?, Json.lookup_canonicalMembers (by simp)]
    simp [Json.lookup_cons]
  rw [ofMetadata, named, ofJson?_toMetadata readable user year]
  rfl

/-- How completions are kept. -/
def format : Format Completion where
  write := toJson
  read := ofJson?
  numbers c := c.context.user.toList
  instants c := [c.recorded]
  free c := [c.outcome]

/-- Completions are written and read without loss. -/
theorem lawful : format.Lawful where
  back {c} holds k := by
    obtain ⟨readable, ordered⟩ := holds.free c.outcome (List.mem_singleton_self _)
    have user : ∀ n ∈ c.context.user, Decimal.isInt64 n = true :=
      fun n asked => holds.numbers n (Option.mem_toList.2 asked)
    have read := ofJson?_canonical k readable user (holds.instants _ (List.mem_singleton_self _))
    rw [Function.iterate_fixed ordered] at read
    exact read
  exact {c} holds free := by
    have user : ∀ n ∈ c.context.user, Decimal.isInt64 n = true :=
      fun n asked => holds.numbers n (Option.mem_toList.2 asked)
    have outcome := free c.outcome (List.mem_singleton_self _)
    show Json.membersExact 126 _ = true
    simp only [Json.membersExact, OperationKind.toJson, Fingerprint.toJson, Instant.toJson,
      Json.isExact_str, outcome, Context.isExact_toJson user 125, Bool.and_self]
  holds {j c} read := by
    obtain ⟨fields, -, read⟩ := Option.bind_eq_some_iff.1 read
    split at read
    case h_2 => cases read
    rename_i contextField _
    simp only [Option.bind_eq_bind, Option.bind_eq_some_iff, Option.pure_def,
      Option.some.injEq] at read
    obtain ⟨kind, -, fingerprint, -, outcome, outcomeRead, context, contextRead, recorded,
      recordedRead, rfl⟩ := read
    obtain ⟨j₁, -, outcomeRead⟩ := Option.bind_eq_some_iff.1 outcomeRead
    obtain ⟨j₂, -, recordedRead⟩ := Option.bind_eq_some_iff.1 recordedRead
    refine ⟨fun n mem => ?_, fun t mem => ?_, fun v mem => ?_,
      fun _ mem => absurd mem List.not_mem_nil⟩
    · cases contextField with
      | none =>
        -- A context that is not there names no user.
        cases contextRead
        cases mem
      | some j => exact Context.isInt64_of_ofJson? contextRead n (Option.mem_toList.1 mem)
    · obtain rfl := List.mem_singleton.1 mem
      exact Instant.isYear_of_ofJson? recordedRead
    · obtain rfl := List.mem_singleton.1 mem
      exact Json.canonical_of_value? outcomeRead
  nests {j c} read part mem := by
    obtain rfl := List.mem_singleton.1 mem
    obtain ⟨fields, found, read⟩ := Option.bind_eq_some_iff.1 read
    split at read
    case h_2 => cases read
    simp only [Option.bind_eq_bind, Option.bind_eq_some_iff, Option.pure_def,
      Option.some.injEq] at read
    obtain ⟨kind, -, fingerprint, -, outcome, outcomeRead, context, -, recorded, -, rfl⟩ := read
    obtain ⟨source, rfl, outcomeRead⟩ := Option.bind_eq_some_iff.1 outcomeRead
    have within : source.nesting < j.nesting := Json.nesting_lt_of_fields? found (by simp)
    exact Nat.lt_of_le_of_lt (Json.nesting_of_value? outcomeRead) within

end Completion

end CurrencyLedger
