import CurrencyLedger.Proofs.Amount
import CurrencyLedger.Proofs.Codec.Records

/-! # Balances and how they are obtained

A balance that is made, credited or debited is checked: it is not negative. A balance that is read
from a text is not, and any number of 64 bits is taken for one. So the arithmetic of balances is
exact as long as none was read that is negative.

* **`Balance.Obtained`** — the balances that come about, given which texts are read;
* **`Balance.Exact`** — everything that credits and debits promise;
* **`Balance.exact_iff`** — it is kept for the balances that are not negative, and for no other;
* **`Balance.exact_obtained_iff`** — a negative one is always one that was read. -/

namespace CurrencyLedger.Balance

variable {b left sum : Balance} {a : Amount} {n : Int} {texts : String → Prop}

/-- Reads a balance from a text. -/
def ofText? (text : String) : Option Balance := (Json.parse? text).bind ofJson?

/-- The balance with the amount taken away, unless the difference overruns 64 bits, which is not
checked. -/
def debit? (b : Balance) (a : Amount) : Option (Except AmountError Balance) :=
  if Decimal.isInt64 (b.minor - a.minor) then some (b.debit a) else none

/-- The balances that come about, if no other texts are read than some. -/
inductive Obtained (texts : String → Prop) : Balance → Prop
  /-- The empty balance, which is the default one. -/
  | zero : Obtained texts .zero
  /-- A balance made of a number of 64 bits. -/
  | made {n : Int} {b : Balance} (small : Decimal.isInt64 n = true) (made : ofMinor n = .ok b) :
      Obtained texts b
  /-- A balance after a credit. -/
  | credited {b sum : Balance} {a : Amount} (before : Obtained texts b)
      (credited : b.credit a = .ok sum) : Obtained texts sum
  /-- A balance after a debit. -/
  | debited {b left : Balance} {a : Amount} (before : Obtained texts b)
      (debited : b.debit? a = some (.ok left)) : Obtained texts left
  /-- A balance read from a text. -/
  | read {text : String} {b : Balance} (mem : texts text) (read : ofText? text = some b) :
      Obtained texts b

/-- What is promised of a balance and an amount. -/
structure Exact (b : Balance) (a : Amount) : Prop where
  /-- The amount is covered iff a debit goes through. -/
  covers : b.covers a = true ↔ ∃ left, b.debit? a = some (.ok left)
  /-- A debit leaves the difference. -/
  debit : ∀ left, b.debit? a = some (.ok left) → left.minor = b.minor - a.minor
  /-- A debit does not overrun 64 bits, and a credit is refused before it does. -/
  counted : b.debit? a ≠ none
  /-- A credit goes through iff the sum is at most the greatest number of 64 bits. -/
  credit : (∃ sum, b.credit a = .ok sum) ↔ b.minor + a.minor ≤ Decimal.maxInt64
  /-- A credit gives the sum. -/
  sum : ∀ sum, b.credit a = .ok sum → sum.minor = b.minor + a.minor
  /-- A debit of what was credited gives the balance again. -/
  back : ∀ sum, b.credit a = .ok sum → sum.debit? a = some (.ok b)

/-! ## Made, credited and debited -/

/-- A balance is made of a number iff the number is not negative. -/
theorem ofMinor_eq_ok_iff : ofMinor n = .ok b ↔ 0 ≤ n ∧ b.minor = n := by
  rw [ofMinor]
  split
  case isTrue negative =>
    refine ⟨nofun, fun ⟨nonneg, _⟩ => ?_⟩
    exact absurd negative (Int.not_lt.2 nonneg)
  case isFalse nonneg =>
    constructor
    · rintro ⟨⟩
      exact ⟨Int.not_lt.1 nonneg, rfl⟩
    · rintro ⟨-, rfl⟩
      rfl

/-- A credit goes through iff the sum has 64 bits and is not negative, and gives the sum. -/
theorem credit_eq_ok_iff : b.credit a = .ok sum ↔
    Decimal.isInt64 (b.minor + a.minor) = true ∧ 0 ≤ b.minor + a.minor ∧
      sum.minor = b.minor + a.minor := by
  rw [credit]
  split
  case isTrue small => rw [ofMinor_eq_ok_iff, eq_true small, true_and]
  case isFalse large => exact ⟨nofun, fun ⟨small, _⟩ => absurd small large⟩

/-- A debit goes through iff the difference has 64 bits and is not negative, and leaves the
difference. -/
theorem debit?_eq_ok_iff : b.debit? a = some (.ok left) ↔
    Decimal.isInt64 (b.minor - a.minor) = true ∧ 0 ≤ b.minor - a.minor ∧
      left.minor = b.minor - a.minor := by
  rw [debit?, debit]
  split
  case isTrue small => rw [Option.some.injEq, ofMinor_eq_ok_iff, eq_true small, true_and]
  case isFalse large => exact ⟨nofun, fun ⟨small, _⟩ => absurd small large⟩

/-- A debit overruns 64 bits iff it leads below the least of their numbers. -/
theorem debit?_eq_none_iff (small : Decimal.isInt64 b.minor = true) :
    b.debit? a = none ↔ b.minor < Decimal.minInt64 + a.minor := by
  obtain ⟨-, high⟩ := Decimal.isInt64_iff.1 small
  have positive := a.positive
  rw [debit?]
  split
  case isTrue inside =>
    have low := (Decimal.isInt64_iff.1 inside).1
    exact ⟨nofun, fun below => absurd low (by omega)⟩
  case isFalse beyond =>
    rw [Decimal.isInt64_iff] at beyond
    exact ⟨fun _ => by omega, fun _ => rfl⟩

/-! ## Read from a text -/

/-- A balance that is read has 64 bits. -/
theorem isInt64_of_ofText? {text : String} (read : ofText? text = some b) :
    Decimal.isInt64 b.minor = true := by
  obtain ⟨j, -, read⟩ := Option.bind_eq_some_iff.1 read
  obtain ⟨n, number, rfl⟩ := Option.map_eq_some_iff.1 read
  exact Json.isInt64_of_int64? number

/-- Every number of 64 bits is read as a balance from its text. -/
theorem ofText?_text (small : Decimal.isInt64 b.minor = true) :
    ofText? b.toJson.text = some b := by
  rw [ofText?, toJson, Json.parse?_text (Json.isExact_int _ small), Option.bind_some, ofJson?,
    Json.int64?_int small, Option.map_some]

/-! ## What credits and debits promise -/

/-- A balance that is not negative keeps what is promised. -/
theorem exact_of_nonneg (nonneg : 0 ≤ b.minor) (small : Decimal.isInt64 b.minor = true) :
    b.Exact a := by
  obtain ⟨-, high⟩ := Decimal.isInt64_iff.1 small
  obtain ⟨low', high'⟩ := Decimal.isInt64_iff.1 a.isInt64_minor
  have positive := a.positive
  -- A debit is not checked, but from a balance that is not negative it does not lead too low.
  have difference : Decimal.isInt64 (b.minor - a.minor) = true := by
    rw [Decimal.isInt64_iff, Decimal.minInt64]
    rw [Decimal.maxInt64] at high' high ⊢
    omega
  have above : 0 ≤ b.minor + a.minor := by omega
  constructor
  case covers =>
    rw [covers, decide_eq_true_eq]
    constructor
    · exact fun enough => ⟨⟨b.minor - a.minor⟩, debit?_eq_ok_iff.2 ⟨difference, by omega, rfl⟩⟩
    · rintro ⟨left, debited⟩
      have := (debit?_eq_ok_iff.1 debited).2.1
      omega
  case debit => exact fun left debited => (debit?_eq_ok_iff.1 debited).2.2
  case counted =>
    rw [debit?, if_pos difference]
    exact Option.some_ne_none _
  case credit =>
    simp only [credit_eq_ok_iff, Decimal.isInt64_of_nonneg above, decide_eq_true_eq]
    constructor
    · rintro ⟨sum, fits, -⟩
      exact fits
    · exact fun fits => ⟨⟨b.minor + a.minor⟩, fits, above, rfl⟩
  case sum => exact fun sum credited => (credit_eq_ok_iff.1 credited).2.2
  case back =>
    intro sum credited
    have again : sum.minor - a.minor = b.minor := by
      rw [(credit_eq_ok_iff.1 credited).2.2, Int.add_sub_cancel]
    rw [debit?_eq_ok_iff, again]
    exact ⟨small, nonneg, rfl⟩

/-- A balance keeps what is promised iff it is not negative, whatever the amount is. -/
theorem exact_iff (small : Decimal.isInt64 b.minor = true) : b.Exact a ↔ 0 ≤ b.minor := by
  refine ⟨fun exact => ?_, fun nonneg => exact_of_nonneg nonneg small⟩
  by_contra negative
  have inside : b.minor + a.minor ≤ Decimal.maxInt64 := by
    have high := (Decimal.isInt64_iff.1 a.isInt64_minor).2
    omega
  -- The credit has to go through, and a debit has to bring back a balance that it cannot leave.
  obtain ⟨sum, credited⟩ := exact.credit.2 inside
  have same := exact.sum sum credited
  have left := (debit?_eq_ok_iff.1 (exact.back sum credited)).2.1
  omega

/-! ## Where balances come from -/

/-- A balance is not negative unless it is one that was read. -/
theorem Obtained.nonneg_or_read (obtained : Obtained texts b) :
    0 ≤ b.minor ∨ ∃ text, texts text ∧ ofText? text = some b := by
  cases obtained with
  | zero => exact Or.inl (Int.le_refl 0)
  | made _ made =>
    obtain ⟨nonneg, rfl⟩ := ofMinor_eq_ok_iff.1 made
    exact Or.inl nonneg
  | credited _ credited =>
    obtain ⟨-, nonneg, same⟩ := credit_eq_ok_iff.1 credited
    exact Or.inl (same ▸ nonneg)
  | debited _ debited =>
    obtain ⟨-, nonneg, same⟩ := debit?_eq_ok_iff.1 debited
    exact Or.inl (same ▸ nonneg)
  | read mem read => exact Or.inr ⟨_, mem, read⟩

/-- Every balance has 64 bits. -/
theorem Obtained.isInt64 (obtained : Obtained texts b) : Decimal.isInt64 b.minor = true := by
  cases obtained with
  | zero => rfl
  | made small made =>
    obtain ⟨-, rfl⟩ := ofMinor_eq_ok_iff.1 made
    exact small
  | credited _ credited =>
    obtain ⟨small, -, same⟩ := credit_eq_ok_iff.1 credited
    exact same ▸ small
  | debited _ debited =>
    obtain ⟨small, -, same⟩ := debit?_eq_ok_iff.1 debited
    exact same ▸ small
  | read _ read => exact isInt64_of_ofText? read

/-- Whatever balances are made, credited, debited and read from some texts: none is negative, and
all keep what is promised, iff none that is read is negative. One that is negative is one that was
read, and keeps it for no amount; a debit overruns if it leads below the least number of 64 bits.
Every number of 64 bits is read as a balance from its text, be it negative or not. -/
theorem exact_obtained_iff (texts : String → Prop) :
    ((∀ b, Obtained texts b → 0 ≤ b.minor ∧ ∀ a, b.Exact a) ↔
      ∀ text b, texts text → ofText? text = some b → 0 ≤ b.minor) ∧
    (∀ b, Obtained texts b → b.minor < 0 →
      (∃ text, texts text ∧ ofText? text = some b) ∧ ∀ a, ¬ b.Exact a ∧
        (b.debit? a = none ↔ b.minor < Decimal.minInt64 + a.minor)) ∧
    ∀ b : Balance, Decimal.isInt64 b.minor = true → ofText? b.toJson.text = some b := by
  refine ⟨⟨fun kept text b mem read => (kept b (.read mem read)).1, fun readable b obtained => ?_⟩,
    fun b obtained negative => ⟨?_, fun a => ⟨fun exact => ?_, ?_⟩⟩,
    fun b small => ofText?_text small⟩
  · have nonneg : 0 ≤ b.minor := by
      rcases obtained.nonneg_or_read with nonneg | ⟨text, mem, read⟩
      · exact nonneg
      · exact readable text b mem read
    exact ⟨nonneg, fun a => exact_of_nonneg nonneg obtained.isInt64⟩
  · exact obtained.nonneg_or_read.resolve_left (Int.not_le.2 negative)
  · exact absurd ((exact_iff obtained.isInt64).1 exact) (Int.not_le.2 negative)
  · exact debit?_eq_none_iff obtained.isInt64

/-- A balance of five less than nothing is read, and three are credited to another one. -/
theorem exact_obtained_iff_negative :
    Obtained (· = "-5") ⟨-5⟩ ∧ ¬ Exact ⟨-5⟩ ⟨3, by decide, by decide⟩ ∧
    Obtained (· = "7") ⟨10⟩ ∧ Exact ⟨10⟩ ⟨3, by decide, by decide⟩ := by
  have seven : ofText? "7" = some ⟨7⟩ := by decide +kernel
  have less : ofText? "-5" = some ⟨-5⟩ := by decide +kernel
  have negative : Obtained (· = "-5") ⟨-5⟩ := .read rfl less
  have credited : Obtained (· = "7") ⟨10⟩ :=
    .credited (.read rfl seven) (a := ⟨3, by decide, by decide⟩) rfl
  have readable : ∀ text b, text = "7" → ofText? text = some b → 0 ≤ b.minor := by
    rintro _ b rfl read
    rw [seven] at read
    cases read
    decide
  obtain ⟨-, unkept, -⟩ := exact_obtained_iff (· = "-5")
  obtain ⟨kept, -, -⟩ := exact_obtained_iff (· = "7")
  exact ⟨negative, ((unkept _ negative (by decide)).2 _).1, credited,
    (kept.2 readable _ credited).2 _⟩

end CurrencyLedger.Balance
