import CurrencyLedger.Json.Fields
import CurrencyLedger.Json.Printer
import CurrencyLedger.Sha256

/-! # Fingerprints

A fingerprint stands for a request: the SHA-256 of its compact JSON text. Two requests are the same
if their fingerprints are. -/

namespace CurrencyLedger

/-- What a request is recognised by. -/
structure Fingerprint where
  /-- The digest in hexadecimal digits. -/
  hex : String
  deriving DecidableEq, Repr

namespace Fingerprint

/-- The fingerprint of bytes. -/
def ofBytes (bytes : List UInt8) : Fingerprint := ⟨Sha256.hex bytes⟩

/-- The fingerprint of a text in UTF-8. -/
def ofText (text : String) : Fingerprint := ofBytes text.toUTF8.toList

/-- The fingerprint of a JSON value. -/
def ofJson (j : Json) : Fingerprint := ofText j.text

/-- A fingerprint as a JSON value. -/
def toJson (f : Fingerprint) : Json := .str f.hex

/-- Reads a fingerprint from a JSON value: any text. -/
def read? : Json → Option Fingerprint
  | .str s => some ⟨s⟩
  | _ => none

end Fingerprint

end CurrencyLedger
