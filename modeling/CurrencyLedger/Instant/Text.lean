import CurrencyLedger.Instant.Basic
import CurrencyLedger.Json.Fields
import CurrencyLedger.Text.Blank

/-! # Instants as text

Instants are written as RFC 3339 has it, in universal time with a `Z`, and with no, three, six or
nine digits of a fraction. They are read with any offset, with blanks between the parts, with one
blank or a `t` of either case between date and time, and with years of any sign and length. -/

namespace CurrencyLedger.Instant

/-! ## Writing -/

/-- A year of four digits, or with a sign outside the years 0 to 9999. -/
def yearChars (year : Int) : List Char :=
  if 0 ≤ year ∧ year ≤ 9999 then Numeral.padded 4 year.toNat
  else (if year < 0 then '-' else '+') :: Numeral.padded 4 year.natAbs

/-- The fraction of a second in thousandths, millionths or thousand-millionths. -/
def fractionChars (nano : Nat) : List Char :=
  if nano = 0 then []
  else if nano % 1000000 = 0 then '.' :: Numeral.padded 3 (nano / 1000000)
  else if nano % 1000 = 0 then '.' :: Numeral.padded 6 (nano / 1000)
  else '.' :: Numeral.padded 9 nano

/-- An instant in universal time. -/
def chars (t : Instant) : List Char :=
  let date := civil t.day
  let leap := 1000000000 ≤ t.nano
  yearChars date.year ++ '-' :: (Numeral.padded 2 date.month.toNat ++ '-' ::
    (Numeral.padded 2 date.day.toNat ++ 'T' :: (Numeral.padded 2 (t.second / 3600) ++ ':' ::
      (Numeral.padded 2 (t.second / 60 % 60) ++ ':' ::
        (Numeral.padded 2 (if leap then t.second % 60 + 1 else t.second % 60) ++
          (fractionChars (if leap then t.nano - 1000000000 else t.nano) ++ ['Z']))))))

/-- An instant in universal time. -/
def text (t : Instant) : String := String.ofList t.chars

/-! ## Reading -/

/-- A number of at most `width` digits, and the rest. -/
def number? (width : Nat) (s : List Char) : Option (Nat × List Char) :=
  let digits := (s.take width).takeWhile Char.isDigit
  if digits.isEmpty then none else some (Numeral.value digits, s.drop digits.length)

/-- The rest after a character. -/
def expect? (c : Char) : List Char → Option (List Char)
  | first :: rest => if first == c then some rest else none
  | [] => none

/-- A year: up to four digits, or any number of them after a sign. -/
def year? : List Char → Option (Int × List Char)
  | '-' :: rest => (number? rest.length rest).map fun (n, rest) => (-(n : Int), rest)
  | '+' :: rest => (number? rest.length rest).map fun (n, rest) => ((n : Int), rest)
  | s => (number? 4 s).map fun (n, rest) => ((n : Int), rest)

/-- Whether a year can be told. -/
def isYear (year : Int) : Bool := -262143 ≤ year && year ≤ 262142

/-- A date, with blanks between its parts. -/
def date? (s : List Char) : Option (Date × List Char) := do
  let (year, s) ← year? (Text.trimStart s)
  let s ← expect? '-' (Text.trimStart s)
  let (month, s) ← number? 2 (Text.trimStart s)
  let s ← expect? '-' (Text.trimStart s)
  let (day, s) ← number? 2 (Text.trimStart s)
  let date : Date := ⟨year, month, day⟩
  if isYear year && date.isValid then pure (date, s) else none

/-- What stands between date and time. -/
def separator? : List Char → Option (List Char)
  | 'T' :: rest => some rest
  | 't' :: rest => some rest
  | ' ' :: rest => some rest
  | _ => none

/-- A fraction of a second in nanoseconds, if there is one; digits beyond the ninth are passed
over. -/
def nanos? : List Char → Option (Nat × List Char)
  | '.' :: rest => do
    let (n, after) ← number? 9 rest
    pure (n * Nat.pow 10 (9 - (rest.length - after.length)), after.dropWhile Char.isDigit)
  | s => some (0, s)

/-- A time of day as seconds and nanoseconds, with blanks between its parts; the sixtieth second of
a minute is a leap second. -/
def time? (s : List Char) : Option (Nat × Nat × List Char) := do
  let (hour, s) ← number? 2 (Text.trimStart s)
  let s ← expect? ':' (Text.trimStart s)
  let (minute, s) ← number? 2 (Text.trimStart s)
  let s ← expect? ':' (Text.trimStart s)
  let (second, s) ← number? 2 (Text.trimStart s)
  let (nano, s) ← nanos? s
  if hour < 24 ∧ minute < 60 ∧ second ≤ 60 then
    let leap := second = 60
    pure (hour * 3600 + minute * 60 + (if leap then 59 else second),
      (if leap then nano + 1000000000 else nano), s)
  else none

/-- The sign of an offset; the minus sign of mathematics counts too. -/
def offsetSign? : List Char → Option (Int × List Char)
  | '+' :: rest => some (1, rest)
  | '-' :: rest => some (-1, rest)
  | '\u2212' :: rest => some (-1, rest)
  | _ => none

/-- Two digits. -/
def twoDigits? : List Char → Option (Nat × List Char)
  | a :: b :: rest =>
    if a.isDigit && b.isDigit then
      some (10 * Numeral.digitValue a + Numeral.digitValue b, rest)
    else none
  | _ => none

/-- An offset from universal time in seconds, less than a day. -/
def numericOffset? (s : List Char) : Option (Int × List Char) := do
  let (sign, s) ← offsetSign? s
  let (hours, s) ← twoDigits? s
  let (minutes, s) ← twoDigits? (s.dropWhile fun c => c == ':' || Text.isBlank c)
  if hours < 24 ∧ minutes < 60 then pure (sign * (hours * 3600 + minutes * 60 : Nat), s) else none

/-- An offset from universal time in seconds: `UTC` or `Z` of either case, or hours and minutes. -/
def offset? : List Char → Option (Int × List Char)
  | [] => none
  | c :: rest =>
    if ((c :: rest).take 3).map Char.toUpper == ['U', 'T', 'C'] then some (0, rest.drop 2)
    else if c == 'Z' || c == 'z' then some (0, rest)
    else numericOffset? (c :: rest)

/-- Reads an instant. -/
def ofChars? (s : List Char) : Option Instant := do
  let (date, s) ← date? s
  let s ← separator? s
  let (second, nano, s) ← time? s
  let (offset, s) ← offset? (Text.trimStart s)
  if (Text.trimStart s).isEmpty then
    let moved : Int := second - offset
    let day := dayOf date + moved / 86400
    if isYear (civil day).year then ofParts? day (moved % 86400).toNat nano else none
  else none

/-- Reads an instant. -/
def ofText? (s : String) : Option Instant := ofChars? s.toList

/-- An instant as a JSON value. -/
def toJson (t : Instant) : Json := .str t.text

/-- Reads an instant from a JSON value. -/
def ofJson? : Json → Option Instant
  | .str s => ofText? s
  | _ => none

end CurrencyLedger.Instant
