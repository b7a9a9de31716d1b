import CurrencyLedger.Proofs.Amount
import CurrencyLedger.Proofs.Codec.Records
import CurrencyLedger.Proofs.Table
import CurrencyLedger.Rates.Text

/-! # What an entry of a rate text says

* **`Rates.splitAll_eq_splitOn`**, **`Rates.splitOnce?_eq_some_iff`** — where texts are split;
* **`Currency.Spelled`**, **`Currency.exists_spelled_iff`** — which currency some letters name, and
  that three letters always name one;
* **`Rates.Form`** — the three parts of an entry;
* **`Rates.Gives`**, **`Rates.Fails`** — an entry gives a pair its rate, or there is a reason why it
  does not, and of several reasons it is the first;
* **`Rates.insertEntry_of_gives`**, **`Rates.insertEntry_of_fails`**, **`Rates.gives_or_fails`** — a
  table takes in what an entry gives, and otherwise fails for that reason. -/

namespace CurrencyLedger

/-! ## Currencies -/

/-- A letter in capitals is a capital letter. -/
theorem Text.isUpper_toUpper {c : Char} (letter : c.isAlpha = true) : c.toUpper.isUpper = true := by
  rcases Bool.or_eq_true_iff.1 letter with upper | lower
  · rw [toUpper_of_isUpper upper]
    exact upper
  · have bounds : 'a'.val ≤ c.val ∧ c.val ≤ 'z'.val :=
      (Bool.and_eq_true_iff.1 lower).imp of_decide_eq_true of_decide_eq_true
    have lo : 97 ≤ c.toNat := UInt32.le_iff_toNat_le.1 bounds.1
    have hi : c.toNat < 123 := Nat.lt_succ_of_le (UInt32.le_iff_toNat_le.1 bounds.2)
    have all : ∀ n < 123, 97 ≤ n → (Char.ofNat n).toUpper.isUpper = true := by decide
    have one := all c.toNat hi lo
    rwa [Char.ofNat_toNat] at one

/-- Whether a text names a currency: without the blanks around it, it is three letters, which are
those of the code in capitals. -/
structure Currency.Spelled (text : List Char) (c : Currency) : Prop where
  /-- There are three characters. -/
  three : (Text.trimChars text).length = 3
  /-- All of them are letters of ASCII. -/
  letters : ∀ x ∈ Text.trimChars text, x.isAlpha = true
  /-- In capitals they are the code. -/
  capitals : c.code.toList = (Text.trimChars text).map Char.toUpper

namespace Currency

variable {text : List Char} {c d : Currency}

/-- A text names one currency at most. -/
theorem Spelled.unique (first : Spelled text c) (second : Spelled text d) : c = d :=
  Currency.ext (String.toList_inj.1 (first.capitals.trans second.capitals.symm))

/-- A text names the currency that is read from it. -/
theorem ofText_eq_ok_iff : ofText (String.ofList text) = .ok c ↔ Spelled text c := by
  rw [ofText, String.toList_ofList]
  constructor
  · intro read
    split at read
    case isFalse => cases read
    case isTrue letters =>
      split at read
      case h_2 => cases read
      case h_1 found made =>
        obtain rfl := Except.ok.inj read
        rw [ofCode?] at made
        split at made
        case isFalse => cases made
        case isTrue formed =>
          rw [String.toList_ofList, isCurrencyCode, Bool.and_eq_true, beq_iff_eq,
            List.length_map] at formed
          refine ⟨formed.1, List.all_eq_true.1 letters, ?_⟩
          rw [← Option.some.inj made, String.toList_ofList]
  · rintro ⟨three, letters, capitals⟩
    have code : String.ofList ((Text.trimChars text).map Char.toUpper) = c.code := by
      rw [← capitals, String.ofList_toList]
    rw [if_pos (List.all_eq_true.2 letters), code, ofCode?, dif_pos c.wellFormed]

/-- A text from which no currency is read names none. -/
theorem ofText_of_unspelled (unspelled : ∀ c, ¬Spelled text c) :
    ofText (String.ofList text) = .error ⟨String.ofList text⟩ := by
  cases read : ofText (String.ofList text) with
  | ok c => exact absurd (ofText_eq_ok_iff.1 read) (unspelled c)
  | error e =>
    rw [ofText] at read
    split at read
    · split at read
      · cases read
      · exact read.symm
    · exact read.symm

/-- The code of a currency names it. -/
theorem spelled_code (c : Currency) : Spelled c.code.toList c :=
  ofText_eq_ok_iff.1 (by rw [String.ofList_toList, ofText_code])

/-- A text names some currency if and only if it is three letters without the blanks around it. -/
theorem exists_spelled_iff : (∃ c, Spelled text c) ↔
    (Text.trimChars text).length = 3 ∧ ∀ x ∈ Text.trimChars text, x.isAlpha = true := by
  refine ⟨fun ⟨_, named⟩ => ⟨named.three, named.letters⟩, fun ⟨three, letters⟩ => ?_⟩
  have formed : isCurrencyCode
      (String.ofList ((Text.trimChars text).map Char.toUpper)).toList = true := by
    rw [String.toList_ofList, isCurrencyCode, List.length_map, three, Bool.and_eq_true,
      List.all_eq_true]
    refine ⟨rfl, fun x mem => ?_⟩
    obtain ⟨letter, there, rfl⟩ := List.mem_map.1 mem
    exact Text.isUpper_toUpper (letters letter there)
  exact ⟨⟨_, formed⟩, three, letters, String.toList_ofList⟩

end Currency

namespace Rates

/-! ## Parts of texts -/

/-- The parts between the occurrences of a character. -/
theorem splitAll_eq_splitOn (c : Char) (text : List Char) : splitAll c text = text.splitOn c := by
  induction text with
  | nil => rfl
  | cons first rest ih =>
    have step : (first :: rest).splitOn c = if first = c then [] :: rest.splitOn c
        else (rest.splitOn c).modifyHead (first :: ·) := by
      simp [List.splitOn, List.splitOnP_cons_eq_if_modifyHead]
    rw [splitAll, ih, step]
    cases parts : rest.splitOn c with
    | nil => exact absurd parts (List.splitOn_ne_nil c rest)
    | cons part parts => rfl

variable {c : Char} {text before after : List Char}

/-- What stands before and after the first occurrence of a character. -/
theorem splitOnce?_eq_some_iff :
    splitOnce? c text = some (before, after) ↔ text = before ++ c :: after ∧ c ∉ before := by
  induction text generalizing before with
  | nil => simp [splitOnce?]
  | cons first rest ih =>
    rw [splitOnce?]
    split
    case isTrue here =>
      subst here
      cases before with
      | nil => simp
      | cons other before =>
        refine iff_of_false (by simp) ?_
        rintro ⟨same, absent⟩
        obtain ⟨rfl, -⟩ := List.cons.inj same
        exact absent List.mem_cons_self
    case isFalse other =>
      rw [Option.map_eq_some_iff]
      cases before with
      | nil => simp [other]
      | cons x before =>
        constructor
        · rintro ⟨⟨before', after'⟩, split, same⟩
          obtain ⟨⟨rfl, rfl⟩, rfl⟩ : (first = x ∧ before' = before) ∧ after' = after := by
            simpa using same
          obtain ⟨rfl, absent⟩ := ih.1 split
          exact ⟨rfl, by simp [absent, Ne.symm other]⟩
        · rintro ⟨same, absent⟩
          obtain ⟨rfl, rfl⟩ := List.cons.inj same
          exact ⟨(before, after), ih.2 ⟨rfl, fun mem => absent (List.mem_cons_of_mem _ mem)⟩, rfl⟩

/-! ## The form of an entry -/

/-- The three parts of an entry. What stands before its first equals sign is a pair, and the first
colon of that stands between source and target. -/
structure Form (entry source target rate : List Char) : Prop where
  /-- The parts make up the entry. -/
  split : entry = (source ++ ':' :: target) ++ '=' :: rate
  /-- There is no equals sign before the one that is meant. -/
  equals : '=' ∉ source ++ ':' :: target
  /-- Nor is there a colon before the one that is meant. -/
  colon : ':' ∉ source

variable {entry source target rate source' target' rate' : List Char} {value : Decimal}

/-- An entry has one form at most. -/
theorem Form.unique (form : Form entry source target rate)
    (form' : Form entry source' target' rate') :
    source = source' ∧ target = target' ∧ rate = rate' := by
  have pairs := (splitOnce?_eq_some_iff.2 ⟨form.split, form.equals⟩).symm.trans
    (splitOnce?_eq_some_iff.2 ⟨form'.split, form'.equals⟩)
  obtain ⟨pair, rates⟩ := Prod.mk.inj (Option.some.inj pairs)
  have codes := (splitOnce?_eq_some_iff.2 ⟨rfl, form.colon⟩).symm.trans
    (splitOnce?_eq_some_iff.2 ⟨pair, form'.colon⟩)
  obtain ⟨sources, targets⟩ := Prod.mk.inj (Option.some.inj codes)
  exact ⟨sources, targets, rates⟩

/-- The parts that are read of an entry are those of its form, of which the last is a number. -/
theorem parts?_eq_some_iff : parts? entry = some (source, target, value) ↔
    ∃ rate, Form entry source target rate ∧
      Decimal.ofChars? (Text.trimChars rate) = some value := by
  constructor
  · intro read
    obtain ⟨⟨pair, rate⟩, first, read⟩ := Option.bind_eq_some_iff.1 read
    obtain ⟨⟨source', target'⟩, second, read⟩ := Option.bind_eq_some_iff.1 read
    obtain ⟨number, third, read⟩ := Option.bind_eq_some_iff.1 read
    obtain ⟨rfl, rfl, rfl⟩ : source' = source ∧ target' = target ∧ number = value := by
      simpa using read
    obtain ⟨split, equals⟩ := splitOnce?_eq_some_iff.1 first
    obtain ⟨rfl, colon⟩ := splitOnce?_eq_some_iff.1 second
    exact ⟨rate, ⟨split, equals, colon⟩, third⟩
  · rintro ⟨rate, ⟨split, equals, colon⟩, number⟩
    have first := splitOnce?_eq_some_iff.2 ⟨split, equals⟩
    have second : splitOnce? ':' (source ++ ':' :: target) = some (source, target) :=
      splitOnce?_eq_some_iff.2 ⟨rfl, colon⟩
    simp [parts?, first, second, number]

/-! ## What an entry gives, and why it does not -/

/-- An entry gives a pair its rate: it names two different currencies, and a number above zero. -/
inductive Gives (entry : List Char) (pair : Pair) (value : Decimal) : Prop where
  /-- Its parts are the source, the target and the number. -/
  | intro (source target rate : List Char) (form : Form entry source target rate)
      (first : Currency.Spelled source pair.source) (second : Currency.Spelled target pair.target)
      (number : Decimal.ofChars? (Text.trimChars rate) = some value)
      (different : pair.source ≠ pair.target) (positive : 0 < value.value)

/-- Why an entry gives no rate. Each reason says that none of those before it applies. -/
inductive Fails (entry : List Char) : RateError → Prop where
  /-- It has not the form of an entry, or what should be a number is none. -/
  | malformed (formless : ∀ source target rate, Form entry source target rate →
      Decimal.ofChars? (Text.trimChars rate) = none) :
      Fails entry (.malformed (String.ofList entry))
  /-- Its source names no currency. -/
  | source (source target rate : List Char) (value : Decimal)
      (form : Form entry source target rate)
      (number : Decimal.ofChars? (Text.trimChars rate) = some value)
      (unnamed : ∀ c, ¬Currency.Spelled source c) : Fails entry (.currency ⟨String.ofList source⟩)
  /-- Its target names no currency. -/
  | target (source target rate : List Char) (value : Decimal) (c : Currency)
      (form : Form entry source target rate)
      (number : Decimal.ofChars? (Text.trimChars rate) = some value)
      (first : Currency.Spelled source c) (unnamed : ∀ c, ¬Currency.Spelled target c) :
      Fails entry (.currency ⟨String.ofList target⟩)
  /-- Both name the same one. -/
  | identity (source target rate : List Char) (value : Decimal) (c : Currency)
      (form : Form entry source target rate)
      (number : Decimal.ofChars? (Text.trimChars rate) = some value)
      (first : Currency.Spelled source c) (second : Currency.Spelled target c) :
      Fails entry (.identityPair ⟨c, c⟩)
  /-- The number is not above zero. -/
  | notPositive (source target rate : List Char) (value : Decimal) (pair : Pair)
      (form : Form entry source target rate)
      (number : Decimal.ofChars? (Text.trimChars rate) = some value)
      (first : Currency.Spelled source pair.source) (second : Currency.Spelled target pair.target)
      (different : pair.source ≠ pair.target) (low : value.value ≤ 0) :
      Fails entry (.notPositive pair value)

/-- Every entry gives some pair a rate, or there is a reason why it does not. -/
theorem gives_or_fails (entry : List Char) :
    (∃ pair value, Gives entry pair value) ∨ ∃ e, Fails entry e := by
  by_cases formed : ∃ source target rate value, Form entry source target rate ∧
      Decimal.ofChars? (Text.trimChars rate) = some value
  case neg =>
    refine Or.inr ⟨_, .malformed fun source target rate form => ?_⟩
    rw [Option.eq_none_iff_forall_ne_some]
    exact fun value number => formed ⟨source, target, rate, value, form, number⟩
  obtain ⟨source, target, rate, value, form, number⟩ := formed
  by_cases first : ∃ c, Currency.Spelled source c
  case neg => exact Or.inr ⟨_, .source source target rate value form number (not_exists.1 first)⟩
  obtain ⟨c, first⟩ := first
  by_cases second : ∃ d, Currency.Spelled target d
  case neg =>
    exact Or.inr ⟨_, .target source target rate value c form number first (not_exists.1 second)⟩
  obtain ⟨d, second⟩ := second
  by_cases same : c = d
  case pos =>
    subst same
    exact Or.inr ⟨_, .identity source target rate value c form number first second⟩
  by_cases positive : 0 < value.value
  case pos =>
    exact Or.inl ⟨⟨c, d⟩, value, .intro source target rate form first second number same positive⟩
  case neg =>
    exact Or.inr ⟨_, .notPositive source target rate value ⟨c, d⟩ form number first second same
      (not_lt.1 positive)⟩

/-! ## Tables -/

variable {rates : Rates} {pair : Pair} {e : RateError}

/-- A table takes in a rate above zero of two different currencies, in the place of the rate of that
pair. -/
theorem insert_of_positive (different : pair.source ≠ pair.target) (positive : 0 < value.value) :
    ∃ rates', rates.insert pair value = .ok rates' ∧
      ∀ other, rates'.rate? other = if other = pair then some value else rates.rate? other := by
  have sign : value.isPositive = true := decide_eq_true (Decimal.value_pos_iff.1 positive)
  rw [insert, dif_pos different, dif_pos sign]
  refine ⟨_, rfl, fun other => ?_⟩
  rw [rate?, Table.get?_insert]
  split <;> rfl

/-- A currency is read from the text that names it. -/
theorem currency_of_spelled {c : Currency} (spelled : Currency.Spelled source c) :
    currency source = .ok c := by
  rw [currency, Currency.ofText_eq_ok_iff.2 spelled]
  rfl

/-- No currency is read from a text that names none. -/
theorem currency_of_unspelled (unspelled : ∀ c, ¬Currency.Spelled source c) :
    currency source = .error (.currency ⟨String.ofList source⟩) := by
  rw [currency, Currency.ofText_of_unspelled unspelled]
  rfl

/-- What an entry of three parts says goes into a table. -/
theorem insertEntry_of_form (form : Form entry source target rate)
    (number : Decimal.ofChars? (Text.trimChars rate) = some value) :
    insertEntry rates entry = (do
      let c ← currency source
      let d ← currency target
      rates.insert ⟨c, d⟩ value) := by
  rw [insertEntry, parts?_eq_some_iff.2 ⟨rate, form, number⟩]

/-- A table takes in what an entry gives. -/
theorem insertEntry_of_gives (rates : Rates) (gives : Gives entry pair value) :
    ∃ rates', insertEntry rates entry = .ok rates' ∧
      ∀ other, rates'.rate? other = if other = pair then some value else rates.rate? other := by
  obtain ⟨source, target, rate, form, first, second, number, different, positive⟩ := gives
  rw [insertEntry_of_form form number, currency_of_spelled first, currency_of_spelled second]
  exact insert_of_positive different positive

/-- A table fails for the reason why an entry gives nothing. -/
theorem insertEntry_of_fails (rates : Rates) (fails : Fails entry e) :
    insertEntry rates entry = .error e := by
  cases fails with
  | malformed formless =>
    have none : parts? entry = none := by
      rw [Option.eq_none_iff_forall_ne_some]
      rintro ⟨source, target, value⟩ read
      obtain ⟨rate, form, number⟩ := parts?_eq_some_iff.1 read
      rw [formless source target rate form] at number
      cases number
    rw [insertEntry, none]
  | source source target rate value form number unnamed =>
    rw [insertEntry_of_form form number, currency_of_unspelled unnamed]
    rfl
  | target source target rate value c form number first unnamed =>
    rw [insertEntry_of_form form number, currency_of_spelled first, currency_of_unspelled unnamed]
    rfl
  | identity source target rate value c form number first second =>
    rw [insertEntry_of_form form number, currency_of_spelled first, currency_of_spelled second]
    show rates.insert ⟨c, c⟩ value = _
    rw [insert, dif_neg fun different => different rfl]
  | notPositive source target rate value pair form number first second different low =>
    rw [insertEntry_of_form form number, currency_of_spelled first, currency_of_spelled second]
    show rates.insert ⟨pair.source, pair.target⟩ value = _
    have sign : ¬value.isPositive = true := fun positive =>
      absurd (Decimal.value_pos_iff.2 (of_decide_eq_true positive)) (not_lt.2 low)
    rw [insert, dif_pos different, dif_neg sign]

/-- An entry that gives a rate does not fail. -/
theorem Gives.not_fails (gives : Gives entry pair value) : ¬Fails entry e := by
  intro fails
  obtain ⟨rates, taken, -⟩ := insertEntry_of_gives empty gives
  cases taken.symm.trans (insertEntry_of_fails empty fails)

end Rates

end CurrencyLedger
