import CurrencyLedger.Proofs.Codec.Decimal
import CurrencyLedger.Proofs.Order.Recall
import CurrencyLedger.Proofs.Rates.Entry

/-! # Tables of rates as text

* **`Rates.written`**, **`Rates.Latest`** — the entries of a text, and the last of them for a pair;
* **`Rates.foldlM_of_gives`**, **`Rates.foldlM_eq_error_iff`** — a table takes in entries that all
  give a rate, and otherwise fails as the first entry does that gives none;
* **`Rates.ext_rate?`** — a table is known by its rates;
* **`Rates.line`**, **`Rates.printed`** — a rate as an entry, and rates as a text;
* **`Rates.ofText_exact`** — which texts are tables, of which rates, and that every table is the one
  that its printed rates say, in whatever order they are printed. -/

namespace CurrencyLedger

/-! ## Characters of codes and of decimals -/

/-- The characters of a decimal are digits, a point and a minus sign. -/
theorem Decimal.mem_chars {d : Decimal} {c : Char} (mem : c ∈ d.chars) :
    c = '-' ∨ c = '.' ∨ c.isDigit = true := by
  have digits (n : Nat) (mem : c ∈ Numeral.digits n) : c.isDigit = true :=
    List.all_eq_true.1 (Numeral.all_isDigit_digits n) c mem
  rw [Decimal.chars, List.mem_append] at mem
  rcases mem with sign | mem
  · split at sign
    · exact Or.inl (List.mem_singleton.1 sign)
    · cases sign
  · rw [Decimal.magnitudeChars] at mem
    split at mem
    · exact Or.inr (Or.inr (digits _ mem))
    · rcases List.mem_append.1 mem with whole | mem
      · exact Or.inr (Or.inr (digits _ whole))
      · rcases List.mem_cons.1 mem with point | fraction
        · exact Or.inr (Or.inl point)
        · exact Or.inr (Or.inr
            (List.all_eq_true.1 (Numeral.all_isDigit_padded _ _) c fraction))

/-- A character of a decimal is neither a blank nor a comma. -/
theorem Decimal.solid_of_mem_chars {d : Decimal} {c : Char} (mem : c ∈ d.chars) :
    Text.isBlank c = false ∧ c ≠ ',' := by
  rcases mem_chars mem with rfl | rfl | digit
  · decide
  · decide
  · refine ⟨Instant.isBlank_of_isDigit digit, ?_⟩
    rintro rfl
    cases digit

/-- The letters of a code are capitals. -/
theorem Currency.isUpper_of_mem_code {c : Currency} {x : Char} (mem : x ∈ c.code.toList) :
    x.isUpper = true :=
  List.all_eq_true.1 (Bool.and_eq_true_iff.1 c.wellFormed).2 x mem

/-- A character that is no capital letter stands in no code. -/
theorem Currency.not_mem_code {x : Char} (other : x.isUpper = false) (c : Currency) :
    x ∉ c.code.toList := by
  intro mem
  rw [isUpper_of_mem_code mem] at other
  cases other

namespace Rates

/-! ## Entries one after another -/

/-- The entries that a text writes: what stands between its commas, without the blanks around it,
unless nothing is left. -/
def written (text : String) : List (List Char) :=
  ((text.toList.splitOn ',').map Text.trimChars).filter (!·.isEmpty)

/-- Whether the last of some entries that gives a pair a rate gives it this one. -/
def Latest (entries : List (List Char)) (pair : Pair) (value : Decimal) : Prop :=
  ∃ before entry after, entries = before ++ entry :: after ∧ Gives entry pair value ∧
    ∀ other ∈ after, ∀ value', ¬Gives other pair value'

variable {entry : List Char} {entries : List (List Char)} {pair pair' : Pair}
  {value value' : Decimal} {rates rates' : Rates} {e : RateError}

/-- An entry gives one rate at most. -/
theorem Gives.unique (gives : Gives entry pair value) (gives' : Gives entry pair' value') :
    pair = pair' ∧ value = value' := by
  obtain ⟨source, target, rate, form, first, second, number, -, -⟩ := gives
  obtain ⟨source', target', rate', form', first', second', number', -, -⟩ := gives'
  obtain ⟨rfl, rfl, rfl⟩ := form.unique form'
  exact ⟨Pair.ext (first.unique first') (second.unique second'),
    Option.some.inj (number.symm.trans number')⟩

/-- The last rate of a pair is that of the later entries, or the first entry gives it and none of
the later ones gives another. -/
theorem latest_cons : Latest (entry :: entries) pair value ↔
    Latest entries pair value ∨
      Gives entry pair value ∧ ∀ other ∈ entries, ∀ value', ¬Gives other pair value' := by
  constructor
  · rintro ⟨before, found, after, same, gives, last⟩
    cases before with
    | nil =>
      obtain ⟨rfl, rfl⟩ := List.cons.inj same
      exact Or.inr ⟨gives, last⟩
    | cons first before =>
      exact Or.inl ⟨before, found, after, (List.cons.inj same).2, gives, last⟩
  · rintro (⟨before, found, after, rfl, gives, last⟩ | ⟨gives, last⟩)
    · exact ⟨entry :: before, found, after, rfl, gives, last⟩
    · exact ⟨[], entry, entries, rfl, gives, last⟩

/-- A table takes in entries that all give a rate. It then has the last rate of every pair, and for
pairs that are not mentioned the rate it had. -/
theorem foldlM_of_gives (rates : Rates)
    (sound : ∀ entry ∈ entries, ∃ pair value, Gives entry pair value) :
    ∃ rates', entries.foldlM insertEntry rates = .ok rates' ∧ ∀ pair value,
      rates'.rate? pair = some value ↔ Latest entries pair value ∨
        (∀ other ∈ entries, ∀ value', ¬Gives other pair value') ∧
          rates.rate? pair = some value := by
  induction entries generalizing rates with
  | nil =>
    refine ⟨rates, rfl, fun pair value => ?_⟩
    simp [Latest]
  | cons entry entries ih =>
    obtain ⟨here, there⟩ := List.forall_mem_cons.1 sound
    obtain ⟨given, number, gives⟩ := here
    obtain ⟨next, taken, now⟩ := insertEntry_of_gives rates gives
    obtain ⟨rates', rest, final⟩ := ih next there
    refine ⟨rates', by rw [List.foldlM_cons, taken]; exact rest, fun pair value => ?_⟩
    rw [final, now, latest_cons, List.forall_mem_cons]
    by_cases same : pair = given
    case pos =>
      subst same
      have only : Gives entry pair value ↔ number = value :=
        ⟨fun gives' => (gives.unique gives').2, fun eq => eq ▸ gives⟩
      have mentioned : ¬∀ value', ¬Gives entry pair value' := fun none => none number gives
      simp [only, mentioned, and_comm]
    case neg =>
      have silent (value' : Decimal) : ¬Gives entry pair value' :=
        fun gives' => same (gives'.unique gives).1
      simp [same, silent]

/-- Entries that a table takes in all give a rate. -/
theorem gives_of_foldlM (taken : entries.foldlM insertEntry rates = .ok rates') :
    ∀ entry ∈ entries, ∃ pair value, Gives entry pair value := by
  induction entries generalizing rates with
  | nil => nofun
  | cons first rest ih =>
    rw [List.foldlM_cons] at taken
    rcases gives_or_fails first with gives | ⟨reason, fails⟩
    · obtain ⟨next, -, taken⟩ := bind_eq_ok.1 taken
      exact List.forall_mem_cons.2 ⟨gives, ih taken⟩
    · rw [insertEntry_of_fails rates fails] at taken
      cases taken

/-- A table fails at entries exactly if one of them gives no rate, as the first of these does. -/
theorem foldlM_eq_error_iff : entries.foldlM insertEntry rates = .error e ↔
    ∃ before entry after, entries = before ++ entry :: after ∧
      (∀ other ∈ before, ∃ pair value, Gives other pair value) ∧ Fails entry e := by
  induction entries generalizing rates with
  | nil => simp [pure, Except.pure]
  | cons first rest ih =>
    rw [List.foldlM_cons]
    rcases gives_or_fails first with ⟨pair, value, gives⟩ | ⟨reason, fails⟩
    · obtain ⟨next, taken, -⟩ := insertEntry_of_gives rates gives
      rw [taken]
      refine ih.trans ⟨?_, ?_⟩
      · rintro ⟨before, entry, after, rfl, sound, fails⟩
        exact ⟨first :: before, entry, after, rfl,
          List.forall_mem_cons.2 ⟨⟨pair, value, gives⟩, sound⟩, fails⟩
      · rintro ⟨before, entry, after, same, sound, fails⟩
        cases before with
        | nil =>
          obtain ⟨rfl, rfl⟩ := List.cons.inj same
          exact absurd fails gives.not_fails
        | cons other before =>
          obtain ⟨rfl, rfl⟩ := List.cons.inj same
          exact ⟨before, entry, after, rfl, (List.forall_mem_cons.1 sound).2, fails⟩
    · have refused := insertEntry_of_fails rates fails
      rw [refused]
      constructor
      · rintro ⟨⟩
        exact ⟨[], first, rest, rfl, nofun, fails⟩
      · rintro ⟨before, entry, after, same, sound, fails'⟩
        cases before with
        | nil =>
          obtain ⟨rfl, rfl⟩ := List.cons.inj same
          exact refused.symm.trans (insertEntry_of_fails rates fails')
        | cons other before =>
          obtain ⟨rfl, rfl⟩ := List.cons.inj same
          obtain ⟨pair, value, gives⟩ := sound first List.mem_cons_self
          exact absurd fails gives.not_fails

/-! ## Texts -/

/-- A table is known by its rates. -/
theorem ext_rate? (same : ∀ pair, rates.rate? pair = rates'.rate? pair) : rates = rates' := by
  have injective : Function.Injective Rate.value := by
    rintro ⟨a, positive⟩ ⟨b, positive'⟩ rfl
    rfl
  have tables : rates.table = rates'.table :=
    Table.ext_get? fun pair => Option.map_injective injective (same pair)
  cases rates
  cases rates'
  simpa using tables

/-- A table is read from a text by way of the entries that the text writes. -/
theorem ofText_eq_foldlM (text : String) :
    ofText text = (written text).foldlM insertEntry empty := by
  rw [ofText, Rates.entries, splitAll_eq_splitOn, written]

/-- A text is a table exactly if every entry gives a rate, and the table of the last ones. -/
theorem ofText_eq_ok_iff {text : String} : ofText text = .ok rates ↔
    (∀ entry ∈ written text, ∃ pair value, Gives entry pair value) ∧
      ∀ pair value, rates.rate? pair = some value ↔ Latest (written text) pair value := by
  rw [ofText_eq_foldlM]
  have none (pair : Pair) : empty.rate? pair = none := rfl
  constructor
  · intro read
    have sound := gives_of_foldlM read
    obtain ⟨found, taken, last⟩ := foldlM_of_gives empty sound
    obtain rfl := Except.ok.inj (read.symm.trans taken)
    exact ⟨sound, fun pair value => by simpa [none] using last pair value⟩
  · rintro ⟨sound, last⟩
    obtain ⟨found, taken, last'⟩ := foldlM_of_gives empty sound
    have same : found = rates := by
      refine ext_rate? fun pair => Option.ext fun value => ?_
      simpa [none, last] using last' pair value
    rw [taken, same]

/-- A text is no table exactly if some entry gives no rate, for the reason of the first of these. -/
theorem ofText_eq_error_iff {text : String} : ofText text = .error e ↔
    ∃ before entry after, written text = before ++ entry :: after ∧
      (∀ other ∈ before, ∃ pair value, Gives other pair value) ∧ Fails entry e := by
  rw [ofText_eq_foldlM, foldlM_eq_error_iff]

/-! ## Printing -/

/-- A rate as an entry. -/
def line (row : Pair × Decimal) : String := row.1.text ++ "=" ++ row.2.text

/-- Rates as a text. -/
def printed (rows : List (Pair × Decimal)) : String := ",".intercalate (rows.map line)

/-- The characters of an entry, by its three parts. -/
theorem toList_line (row : Pair × Decimal) : (line row).toList =
    (row.1.source.code.toList ++ ':' :: row.1.target.code.toList) ++ '=' :: row.2.chars := by
  simp [line, Pair.text, Decimal.text]

/-- There are neither blanks nor commas in an entry that is printed. -/
theorem solid_line {row : Pair × Decimal} {c : Char} (mem : c ∈ (line row).toList) :
    Text.isBlank c = false ∧ c ≠ ',' := by
  have letter {d : Currency} (mem : c ∈ d.code.toList) : Text.isBlank c = false ∧ c ≠ ',' :=
    ⟨Text.isBlank_of_isUpper (Currency.isUpper_of_mem_code mem), fun comma =>
      Currency.not_mem_code (by decide) d (comma ▸ mem)⟩
  rw [toList_line] at mem
  simp only [List.mem_append, List.mem_cons] at mem
  rcases mem with (source | rfl | target) | rfl | number
  · exact letter source
  · decide
  · exact letter target
  · decide
  · exact Decimal.solid_of_mem_chars number

/-- The entries that printed rates write are theirs. -/
theorem written_printed (rows : List (Pair × Decimal)) :
    written (printed rows) = rows.map fun row => (line row).toList := by
  have trimmed : Text.trimChars ∘ String.toList ∘ line = fun row => (line row).toList :=
    funext fun row => Text.trimChars_eq_self fun _ mem => (solid_line mem).1
  have filled (row : Pair × Decimal) : (line row).toList.isEmpty = false := by
    simp [toList_line]
  rw [written, printed, String.toList_intercalate, List.map_map]
  cases rows with
  | nil => rfl
  | cons row rows =>
    rw [show ",".toList = [','] from rfl, List.splitOn_intercalate ',' ?apart (by simp)]
    case apart =>
      intro part mem
      obtain ⟨row, -, rfl⟩ := List.mem_map.1 mem
      exact fun comma => (solid_line comma).2 rfl
    rw [List.map_map, trimmed, List.filter_eq_self]
    intro part mem
    obtain ⟨row, -, rfl⟩ := List.mem_map.1 mem
    simp [filled row]

/-- The rows of a table are its rates. -/
theorem mem_toList_iff : (pair, value) ∈ rates.toList ↔ rates.rate? pair = some value := by
  rw [toList, List.mem_map, rate?, Option.map_eq_some_iff]
  constructor
  · rintro ⟨⟨_, rate⟩, mem, ⟨⟩⟩
    exact ⟨rate, Table.mem_rows_iff.1 mem, rfl⟩
  · rintro ⟨rate, found, rfl⟩
    exact ⟨(pair, rate), Table.mem_rows_iff.2 found, rfl⟩

/-- A rate of a table is what its entry gives. -/
theorem gives_line {row : Pair × Decimal} (mem : row ∈ rates.toList) :
    Gives (line row).toList row.1 row.2 := by
  obtain ⟨⟨pair, rate⟩, row, rfl⟩ := List.mem_map.1 mem
  have blank : Text.trimChars rate.value.chars = rate.value.chars :=
    Text.trimChars_eq_self fun _ mem => (Decimal.solid_of_mem_chars mem).1
  have back : Decimal.ofChars? rate.value.chars = some rate.value := by
    have read := Decimal.ofText?_text_plain rate.value
    rwa [Decimal.plain_eq_self (Decimal.minusZero_of_isPositive rate.positive), Decimal.ofText?,
      Decimal.text, String.toList_ofList] at read
  have equals : '=' ∉ pair.source.code.toList ++ ':' :: pair.target.code.toList := by
    simp [Currency.not_mem_code (x := '=') (by decide)]
  exact .intro pair.source.code.toList pair.target.code.toList rate.value.chars
    ⟨toList_line _, equals, Currency.not_mem_code (by decide) _⟩
    (Currency.spelled_code _) (Currency.spelled_code _) (blank.symm ▸ back)
    (rates.distinct _ row) (Decimal.value_pos_iff.2 (of_decide_eq_true rate.positive))

/-- The last rates that the entries of a table say, in whatever order, are its rates. -/
theorem latest_lines {rows : List (Pair × Decimal)} (perm : rows.Perm rates.toList) :
    Latest (rows.map fun row => (line row).toList) pair value ↔ rates.rate? pair = some value := by
  rw [← mem_toList_iff, ← perm.mem_iff]
  have gives {row : Pair × Decimal} (mem : row ∈ rows) : Gives (line row).toList row.1 row.2 :=
    gives_line (perm.mem_iff.1 mem)
  constructor
  · rintro ⟨before, entry, after, same, given, -⟩
    have mem : entry ∈ rows.map fun row => (line row).toList := by simp [same]
    obtain ⟨row, there, rfl⟩ := List.mem_map.1 mem
    obtain ⟨rfl, rfl⟩ := given.unique (gives there)
    exact there
  · intro mem
    obtain ⟨before, after, rfl⟩ := List.append_of_mem mem
    have distinct : ((before ++ (pair, value) :: after).map Prod.fst).Nodup := by
      have keys : rates.toList.map Prod.fst = rates.table.keys := by simp [toList, Table.keys]
      rw [(perm.map Prod.fst).nodup_iff, keys]
      exact rates.table.nodup_keys
    refine ⟨before.map _, _, after.map _, List.map_append, gives mem, ?_⟩
    -- A later entry of the same pair would be a second row of that pair.
    intro other late value' given
    obtain ⟨row, later, rfl⟩ := List.mem_map.1 late
    obtain ⟨rfl, -⟩ := given.unique (gives (by simp [later]))
    simp only [List.map_append, List.map_cons, List.nodup_append, List.nodup_cons] at distinct
    exact distinct.2.1.1 (List.mem_map_of_mem later)

/-- Printed rates of a table, in whatever order, are read back as that table. -/
theorem ofText_printed {rows : List (Pair × Decimal)} (perm : rows.Perm rates.toList) :
    ofText (printed rows) = .ok rates := by
  rw [ofText_eq_ok_iff, written_printed]
  refine ⟨fun entry mem => ?_, fun pair value => (latest_lines perm).symm⟩
  obtain ⟨row, there, rfl⟩ := List.mem_map.1 mem
  exact ⟨row.1, row.2, gives_line (perm.mem_iff.1 there)⟩

/-- A text is a table exactly if every entry of it gives a rate, and of several rates of one pair
the last one holds; otherwise it fails as the first entry does that gives none. The printed rates of
a table are read back as that table, in whatever order they are printed. -/
theorem ofText_exact :
    (∀ text rates, ofText text = .ok rates ↔
      (∀ entry ∈ written text, ∃ pair value, Gives entry pair value) ∧
        ∀ pair value, rates.rate? pair = some value ↔ Latest (written text) pair value) ∧
    (∀ text e, ofText text = .error e ↔
      ∃ before entry after, written text = before ++ entry :: after ∧
        (∀ other ∈ before, ∃ pair value, Gives other pair value) ∧ Fails entry e) ∧
    ∀ rates rows, rows.Perm rates.toList → ofText (printed rows) = .ok rates :=
  ⟨fun _ _ => ofText_eq_ok_iff, fun _ _ => ofText_eq_error_iff, fun _ _ => ofText_printed⟩

/-- The reference rates are read back from their entries in descending order. -/
theorem ofText_exact_reference :
    printed reference.toList.reverse =
      "USD:JPY=147.49,USD:IDR=16000,USD:EUR=0.9,JPY:USD=0.0067801206861482134381991999," ++
        "JPY:EUR=0.0060606060606060606060606061,IDR:USD=0.0000625,EUR:USD=1.111,EUR:JPY=165" ∧
      reference.toList.reverse.Perm reference.toList ∧
      ofText (printed reference.toList.reverse) = .ok reference :=
  ⟨by decide +kernel, List.reverse_perm _, ofText_exact.2.2 reference _ (List.reverse_perm _)⟩

end Rates

end CurrencyLedger
