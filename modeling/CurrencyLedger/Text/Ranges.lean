/-! # Ranges of code points

Properties of characters are given as ascending lists of closed ranges of code points. -/

namespace CurrencyLedger.Text

/-- Whether a code point lies in one of the closed ranges of a list. -/
def inRanges (ranges : List (Nat × Nat)) (code : Nat) : Bool :=
  ranges.any fun range => range.1 ≤ code && code ≤ range.2

end CurrencyLedger.Text
