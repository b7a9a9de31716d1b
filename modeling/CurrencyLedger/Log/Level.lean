import CurrencyLedger.Text.Numeral

/-! # Log levels

How much is logged, from nothing to everything. A level is read from its name in either case or from
its place. -/

namespace CurrencyLedger

/-- How much is logged, from nothing to everything. -/
inductive LogLevel where
  | off | error | warn | info | debug | trace
  deriving DecidableEq, Repr

namespace LogLevel

/-- Every level with its name. -/
def names : List (String × LogLevel) :=
  [("off", .off), ("error", .error), ("warn", .warn), ("info", .info), ("debug", .debug),
    ("trace", .trace)]

/-- The place of a level, zero for nothing. -/
def rank : LogLevel → Nat
  | .off => 0
  | .error => 1
  | .warn => 2
  | .info => 3
  | .debug => 4
  | .trace => 5

/-- The name of a level in a log line. -/
def text : LogLevel → String
  | .off => "OFF"
  | .error => "ERROR"
  | .warn => "WARN"
  | .info => "INFO"
  | .debug => "DEBUG"
  | .trace => "TRACE"

/-- The level of a name in either case, or of a place. -/
def ofText? (text : String) : Option LogLevel :=
  let lower := text.map Char.toLower
  match names.find? (·.1 == lower) with
  | some (_, level) => some level
  | none =>
    match Numeral.unsigned? 6 text.toList with
    | some n => (names[n]?).map (·.2)
    | none => none

end LogLevel

end CurrencyLedger
