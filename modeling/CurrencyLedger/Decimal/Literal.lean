import CurrencyLedger.Decimal.Basic

/-! # Reading decimals

* **`literal?`** — an optional sign, digits with at most one point among them, and underscores
  anywhere after the first digit. Digits after the point that the limits of a decimal leave no room
  for are rounded half up by the first of them; digits before the point have to fit.
* **`scientific?`** — a literal, the letter `e` and a power of ten.
* **`ofText?`** — a literal or, failing that, scientific notation. -/

namespace CurrencyLedger.Decimal

/-- How far a literal has been read. -/
structure Scan where
  /-- The digits so far. -/
  coefficient : Nat := 0
  /-- How many of them stand after the point. -/
  scale : Nat := 0
  /-- Whether the point has been read. -/
  point : Bool := false
  /-- Whether a digit has been read. -/
  digits : Bool := false
  /-- Whether the last digit was added to a coefficient that had outgrown its word. -/
  wide : Bool := false
  deriving DecidableEq, Repr

/-- Whether a character may stand among the digits that are rounded away. -/
def isTail (c : Char) : Bool := c.isDigit || c == '_'

/-- The digits so far, rounded half up by the next digit. A coefficient that rounding carries past
96 bits gives up its last digit. -/
def Scan.roundBy (s : Scan) (digit : Nat) : Option Scan :=
  let up := if 5 ≤ digit then s.coefficient + 1 else s.coefficient
  if up < limit then some { s with coefficient := up }
  else if s.scale = 0 then none
  else some { s with coefficient := (up + 4) / 10, scale := s.scale - 1 }

/-- Rounds by the next digit, provided that the rest is digits and underscores. -/
def Scan.finish (s : Scan) (digit : Nat) (rest : List Char) : Option Scan :=
  if rest.all isTail then s.roundBy digit else none

/-- A coefficient of at least this size is taken to have outgrown a word of 64 bits before its next
digit is known: a tenth of the greatest word, less 255. -/
def wordLimit : Nat := 1844674407370954906

/-- Reads the digits, the point and the underscores of a literal. With 28 digits after the point
the next character decides the rounding: an underscore counts as a zero there, unless the
coefficient had outgrown its word before its last digit, when it is skipped. -/
def Scan.run (s : Scan) : List Char → Option Scan
  | [] => if s.digits then some s else none
  | c :: rest =>
    if s.point && s.scale == 28 then
      if c.isDigit then s.finish (Numeral.digitValue c) rest
      else if c != '_' then none
      else if s.wide then s.run rest
      else s.finish 0 rest
    else if c.isDigit then
      let next := 10 * s.coefficient + Numeral.digitValue c
      if next < limit then
        Scan.run { coefficient := next, scale := if s.point then s.scale + 1 else s.scale,
                   point := s.point, digits := true,
                   wide := wordLimit ≤ s.coefficient } rest
      else if s.point then s.finish (Numeral.digitValue c) rest
      else none
    else if c == '.' then if s.point then none else Scan.run { s with point := true } rest
    else if c == '_' && s.digits then s.run rest
    else none

/-- The sign of a literal and what follows it. -/
def takeSign : List Char → Bool × List Char
  | '-' :: rest => (true, rest)
  | '+' :: rest => (false, rest)
  | rest => (false, rest)

/-- Reads a decimal literal. -/
def literal? (s : List Char) : Option Decimal := do
  let (negative, body) := takeSign s
  let scan ← Scan.run {} body
  mk? (signed negative scan.coefficient) scan.scale

/-! ## Scientific notation -/

/-- The number multiplied by a power of ten that has more zeros than the number has digits after
the point. -/
def raise? (d : Decimal) (power : Nat) : Option Decimal :=
  if 28 < power then none else mk? (d.coefficient * Nat.pow 10 (power - d.scale)) 0

/-- The number divided by a power of ten. Digits that would stand more than 28 places after the
point are rounded away. -/
def lower? (d : Decimal) (power : Nat) : Option Decimal :=
  if 28 < power then none
  else if d.scale + power ≤ 28 then d.withScale? (d.scale + power)
  else (d.dropDigits (d.scale + power - 28)).withScale? 28

/-- Applies the power of ten of scientific notation: a negative one moves the point to the left, a
positive one to the right, with zeros added only where the digits run out. -/
def applyPower? (d : Decimal) : List Char → Option Decimal
  | '-' :: digits => do
    let power ← Numeral.unsigned? Numeral.bound32 digits
    d.lower? power
  | digits => do
    let power ← Numeral.unsigned? Numeral.bound32 digits
    if power ≤ d.scale then d.withScale? (d.scale - power) else d.raise? power

/-- Whether a character stands between the digits and the power of ten. -/
def isPowerMark (c : Char) : Bool := c == 'e' || c == 'E'

/-- Reads scientific notation. -/
def scientific? (s : List Char) : Option Decimal :=
  match s.dropWhile (!isPowerMark ·) with
  | [] => none
  | _ :: power => do
    let d ← literal? (s.takeWhile (!isPowerMark ·))
    d.applyPower? power

/-- Reads a decimal in plain or in scientific notation. -/
def ofChars? (s : List Char) : Option Decimal := (literal? s).or (scientific? s)

/-- Reads a decimal in plain or in scientific notation. -/
def ofText? (s : String) : Option Decimal := ofChars? s.toList

end CurrencyLedger.Decimal
