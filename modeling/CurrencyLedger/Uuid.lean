import CurrencyLedger.Json.Parser
import CurrencyLedger.Text.Quoted

/-! # Universally unique identifiers

Identifiers of 128 bits. They are written in lower case with hyphens, and read in either case with
hyphens, without, in braces or as a URN. -/

namespace CurrencyLedger

/-- An identifier of 128 bits. -/
structure Uuid where
  /-- The bits of the identifier. -/
  bits : BitVec 128
  deriving DecidableEq, Repr

namespace Uuid

/-- The hexadecimal digits of an identifier. -/
def hexChars (u : Uuid) : List Char :=
  (List.range 32).map fun i => Text.hexDigit ((u.bits.toNat >>> (4 * (31 - i))) % 16)

/-- The identifier in groups of eight, four, four, four and twelve digits. -/
def text (u : Uuid) : String :=
  let h := u.hexChars
  String.ofList (h.take 8 ++ '-' :: ((h.drop 8).take 4 ++ '-' :: ((h.drop 12).take 4 ++
    '-' :: ((h.drop 16).take 4 ++ '-' :: h.drop 20))))

/-- Thirty-two hexadecimal digits. -/
def ofDigits? (s : List Char) : Option Uuid := do
  let values ← s.mapM Json.hexValue?
  if values.length = 32 then
    some ⟨BitVec.ofNat 128 (values.foldl (fun n d => 16 * n + d) 0)⟩
  else none

/-- Digits in groups with hyphens between them. -/
def ofGroups? (s : List Char) : Option Uuid :=
  if s.length = 36 ∧ s[8]? = some '-' ∧ s[13]? = some '-' ∧ s[18]? = some '-' ∧ s[23]? = some '-'
  then ofDigits? (s.take 8 ++ (s.drop 9).take 4 ++ (s.drop 14).take 4 ++ (s.drop 19).take 4 ++
    s.drop 24)
  else none

/-- What a URN of an identifier begins with, in either case. -/
def urnStart : List Char := "urn:uuid:".toList

/-- Reads an identifier in any of its forms. -/
def ofChars? (s : List Char) : Option Uuid :=
  if (s.take 9).map Char.toLower = urnStart then ofGroups? (s.drop 9)
  else match s with
    | '\x7b' :: rest =>
      if rest.getLast? = some '\x7d' then ofGroups? rest.dropLast else none
    | s => if s.length = 32 then ofDigits? s else ofGroups? s

/-- Reads an identifier in any of its forms. -/
def ofText? (s : String) : Option Uuid := ofChars? s.toList

end Uuid

end CurrencyLedger
