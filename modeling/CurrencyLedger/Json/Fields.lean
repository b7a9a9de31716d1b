import CurrencyLedger.Decimal.Literal
import CurrencyLedger.Binary64.Shortest
import CurrencyLedger.Json.Basic

/-! # Reading records from JSON values

A record is read from an object, whose unknown members are passed over and whose known members may
not be repeated, or from a list with exactly one item for each field.

* **`fields?`** — the members of a record in the order of given names, absent ones as `none`;
* **`required?`**, **`optional?`** — a field that must be there, and one that may be absent or
  `null`;
* **`int64?`**, **`string?`**, **`decimal?`** — the values of fields. -/

namespace CurrencyLedger.Json

/-- The one member of a name, or `some none` if there is none; `none` if there are several. -/
def single? (name : String) (members : List (String × Json)) : Option (Option Json) :=
  match members.filter (·.1 == name) with
  | [] => some none
  | [(_, value)] => some (some value)
  | _ => none

/-- The members of an object in the order of given names. -/
def members? (names : List String) : Json → Option (List (Option Json))
  | .obj members => names.mapM (single? · members)
  | _ => none

/-- The fields of a record in the order of given names. -/
def fields? (names : List String) (j : Json) : Option (List (Option Json)) :=
  match j with
  | .arr items => if items.length = names.length then some (items.map some) else none
  | j => members? names j

/-- A field that has to be there. -/
def required? (read : Json → Option α) (field : Option Json) : Option α := field.bind read

/-- A field that may be absent or `null`. -/
def optional? (read : Json → Option α) : Option Json → Option (Option α)
  | none => some none
  | some .null => some none
  | some value => (read value).map some

/-- A signed integer of 64 bits. -/
def int64? : Json → Option Int
  | .int n => if Decimal.isInt64 n then some n else none
  | _ => none

/-- A text. -/
def asString? : Json → Option String
  | .str s => some s
  | _ => none

/-- A truth value. -/
def asBool? : Json → Option Bool
  | .bool b => some b
  | _ => none

/-- The name of a case without fields: a text, or an object with that one name and `null`. -/
def caseName? : Json → Option String
  | .str s => some s
  | .obj [(name, .null)] => some name
  | _ => none

/-- A list, item by item. -/
def list? (read : Json → Option α) : Json → Option (List α)
  | .arr items => items.mapM read
  | _ => none

/-- A decimal: a text, an integer, or any other number by its shortest digits. -/
def decimal? : Json → Option Decimal
  | .str s => Decimal.ofText? s
  | .int n => Decimal.mk? n 0
  | .real x => Decimal.literal? x.positional
  | _ => none

/-- A field that is `null` if there is no value. -/
def ofOption (write : α → Json) : Option α → Json
  | none => .null
  | some a => write a

/-- A decimal is written as its plain notation. -/
def ofDecimal (d : Decimal) : Json := .str d.text

end CurrencyLedger.Json
