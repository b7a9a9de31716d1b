import CurrencyLedger.Text.Blank

/-! # References

A caller names each operation by a reference, a text that is neither empty nor too long, with no
blanks around it and no control characters. A transfer records its two sides under references of
their own, made from the caller's. -/

namespace CurrencyLedger.Reference

/-- The greatest length of a reference, in bytes of UTF-8. -/
def maxBytes : Nat := 128

/-- Why a text is no reference. -/
inductive Fault where
  /-- It has no characters. -/
  | empty
  /-- It has too many bytes. -/
  | tooLong
  /-- It has blanks around it or control characters in it. -/
  | unclean
  deriving DecidableEq, Repr

/-- What is wrong with the text. -/
def Fault.message : Fault → String
  | .empty => "reference must not be empty"
  | .tooLong => "reference is longer than 128 bytes"
  | .unclean => "reference contains surrounding whitespace or control characters"

/-- Whether a character is a control character. -/
def isControl (c : Char) : Bool := c.toNat < 0x20 || (0x7F ≤ c.toNat && c.toNat < 0xA0)

/-- Whether a text has no blanks around it and no control characters in it. -/
def isClean (text : String) : Bool :=
  Text.trimChars text.toList == text.toList && !text.toList.any isControl

/-- The first thing wrong with a text, if anything is. -/
def fault? (text : String) : Option Fault :=
  if text.isEmpty then some .empty
  else if maxBytes < text.utf8ByteSize then some .tooLong
  else if isClean text then none
  else some .unclean

/-- The reference of the side of a transfer that gives. -/
def outgoing (reference : String) : String := reference ++ "-out"

/-- The reference of the side of a transfer that receives. -/
def incoming (reference : String) : String := reference ++ "-in"

end CurrencyLedger.Reference
