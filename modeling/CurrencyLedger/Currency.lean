import CurrencyLedger.Json.Fields
import CurrencyLedger.Text.Blank
import CurrencyLedger.Text.Quoted

/-! # Currencies

A currency is named by a code of three capital letters of ASCII, and currencies are ordered by their
codes. A code is read without regard to case and to blanks around it. -/

namespace CurrencyLedger

/-- Whether characters are three capital letters. -/
def isCurrencyCode (cs : List Char) : Bool := cs.length == 3 && cs.all Char.isUpper

/-- A currency. -/
@[ext] structure Currency where
  /-- Three capital letters. -/
  code : String
  wellFormed : isCurrencyCode code.toList = true
  deriving DecidableEq, Repr

/-- A text that names no currency. -/
structure CurrencyError where
  /-- The text as it was given. -/
  text : String
  deriving DecidableEq, Repr

/-- What is wrong with the text. -/
def CurrencyError.message (e : CurrencyError) : String :=
  "Invalid currency code: " ++ Text.quote e.text ++ " (expected three ASCII letters)"

namespace Currency

/-- Currencies are ordered by their codes. -/
instance : Ord Currency := ⟨compareOn code⟩

/-- Two currencies compare as their codes do. -/
theorem compare_def (a b : Currency) : compare a b = compare a.code b.code := rfl

instance : Std.TransOrd Currency :=
  inferInstanceAs (Std.TransCmp (compareOn (fun c : Currency => c.code)))

instance : Std.LawfulEqOrd Currency where
  eq_of_compare {a b} h := by
    rw [compare_def] at h
    exact Currency.ext (Std.LawfulEqCmp.eq_of_compare h)

/-- The currency of three capital letters. -/
def ofCode? (code : String) : Option Currency :=
  if h : isCurrencyCode code.toList = true then some ⟨code, h⟩ else none

/-- Reads a currency: the text without the blanks around it, in capital letters. -/
def ofText (text : String) : Except CurrencyError Currency :=
  let trimmed := Text.trimChars text.toList
  if trimmed.all Char.isAlpha then
    match ofCode? (String.ofList (trimmed.map Char.toUpper)) with
    | some currency => .ok currency
    | none => .error ⟨text⟩
  else .error ⟨text⟩

/-- A currency as a JSON value. -/
def toJson (c : Currency) : Json := .str c.code

/-- Reads a currency from a JSON value. -/
def ofJson? : Json → Option Currency
  | .str s => (ofText s).toOption
  | _ => none

end Currency

end CurrencyLedger
