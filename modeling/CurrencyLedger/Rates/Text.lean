import CurrencyLedger.Rates.Basic

/-! # Rates as text

A table of rates is written as entries `FROM:TO=RATE` with commas between them. Blanks around an
entry, around its codes and around its rate do not count, and empty entries are passed over. Of two
entries for one pair the later one holds. -/

namespace CurrencyLedger.Rates

/-- The parts of a text between the occurrences of a character. -/
def splitAll (c : Char) : List Char → List (List Char)
  | [] => [[]]
  | first :: rest =>
    match splitAll c rest with
    | [] => [[first]]
    | part :: parts => if first = c then [] :: part :: parts else (first :: part) :: parts

/-- The parts of a text before and after the first occurrence of a character. -/
def splitOnce? (c : Char) : List Char → Option (List Char × List Char)
  | [] => none
  | first :: rest =>
    if first = c then some ([], rest)
    else (splitOnce? c rest).map fun parts => (first :: parts.1, parts.2)

/-- The source, the target and the rate of an entry, as they are written. -/
def parts? (entry : List Char) : Option (List Char × List Char × Decimal) := do
  let (pair, rate) ← splitOnce? '=' entry
  let (source, target) ← splitOnce? ':' pair
  let value ← Decimal.ofChars? (Text.trimChars rate)
  pure (source, target, value)

/-- Reads a currency of an entry. -/
def currency (code : List Char) : Except RateError Currency :=
  (Currency.ofText (String.ofList code)).mapError RateError.currency

/-- Adds an entry, blanks around it taken away, to a table. -/
def insertEntry (rates : Rates) (entry : List Char) : Except RateError Rates :=
  match parts? entry with
  | none => .error (.malformed (String.ofList entry))
  | some (source, target, value) => do
    let source ← currency source
    let target ← currency target
    rates.insert ⟨source, target⟩ value

/-- The entries of a text: what stands between commas, without the blanks around it and without
what is empty then. -/
def entries (text : List Char) : List (List Char) :=
  ((splitAll ',' text).map Text.trimChars).filter (!·.isEmpty)

/-- Reads a table of rates; the first entry that is not one decides the error. -/
def ofText (text : String) : Except RateError Rates :=
  (entries text.toList).foldlM insertEntry empty

end CurrencyLedger.Rates
