/-! # Blank characters

* **`isBlank`** — the Unicode property `White_Space`, twenty-five code points;
* **`trim`** — a text without the blanks at either end. -/

namespace CurrencyLedger.Text

/-- The characters of the property `White_Space`. -/
def isBlank (c : Char) : Bool :=
  let code := c.toNat
  (0x9 ≤ code && code ≤ 0xD) || code == 0x20 || code == 0x85 || code == 0xA0 || code == 0x1680 ||
    (0x2000 ≤ code && code ≤ 0x200A) || code == 0x2028 || code == 0x2029 || code == 0x202F ||
    code == 0x205F || code == 0x3000

/-- The characters after the leading blanks. -/
def trimStart (s : List Char) : List Char := s.dropWhile isBlank

/-- The characters between the blanks at either end. -/
def trimChars (s : List Char) : List Char :=
  (trimStart (trimStart s).reverse).reverse

/-- A text without the blanks at either end. -/
def trim (s : String) : String := String.ofList (trimChars s.toList)

end CurrencyLedger.Text
