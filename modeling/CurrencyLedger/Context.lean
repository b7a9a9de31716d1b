import CurrencyLedger.Json.Fields
import CurrencyLedger.Uuid

/-! # Context of an operation

What a caller tells about an operation besides the operation itself: under which identifier it can
be followed, and for which user it runs. Both may be missing. -/

namespace CurrencyLedger

/-- Who asks for an operation. -/
structure Context where
  /-- Under which identifier the operation can be followed. -/
  correlation : Option Uuid := none
  /-- The user it runs for. -/
  user : Option Int := none
  deriving DecidableEq, Repr

namespace Context

/-- The context with an identifier: its own, or else the given new one. -/
def ensureCorrelation (c : Context) (fresh : Uuid) : Context :=
  { c with correlation := some (c.correlation.getD fresh) }

/-- An identifier as a JSON value. -/
def uuidToJson (u : Uuid) : Json := .str u.text

/-- Reads an identifier from a JSON value. -/
def uuidOfJson? : Json → Option Uuid
  | .str s => Uuid.ofText? s
  | _ => none

/-- A context as a JSON value; what is missing is left out. -/
def toJson (c : Context) : Json :=
  .obj ((c.correlation.map fun u => ("correlation_id", uuidToJson u)).toList ++
    (c.user.map fun n => ("request_user_id", Json.int n)).toList)

/-- Reads a context from a JSON value. -/
def ofJson? (j : Json) : Option Context := do
  match ← j.fields? ["correlation_id", "request_user_id"] with
  | [correlation, user] =>
    pure
      { correlation := ← Json.optional? uuidOfJson? correlation
        user := ← Json.optional? Json.int64? user }
  | _ => none

end Context

end CurrencyLedger
