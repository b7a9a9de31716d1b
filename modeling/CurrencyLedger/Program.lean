import CurrencyLedger.Config
import CurrencyLedger.Log.Filter

/-! # Programs

Two programs use a ledger on a database: one that looks after it, and one that puts it under load.
Both read their configuration first and say what they are about to do. There is no database driver
here, so the address of the database is refused as a matter of configuration, and both end there. -/

namespace CurrencyLedger

/-- A line of output. -/
inductive OutputLine where
  /-- A log line. -/
  | log (format : LogFormat) (event : LogEvent)
  /-- Any other line. -/
  | plain (text : String)

/-- What a program leaves behind. -/
structure Exit where
  /-- The exit code. -/
  code : Nat
  /-- The lines of its output. -/
  output : List OutputLine
  /-- What went wrong, in words. -/
  error : String

namespace Program

/-- The end of a program that cannot go on. -/
def failure (output : List OutputLine) (message : String) : Exit :=
  ⟨1, output, "Error: " ++ message⟩

/-- Why a program ends where it would open its database. -/
def noDatabase : String := "error with configuration"

/-- The log lines of an event. -/
def logged (env : Environment) (config : Config) (event : LogEvent) : List OutputLine :=
  if (LogFilter.ofOption (env.get? "RUST_LOG")).allows event then
    [.log config.logFormat event]
  else []

/-- The event that the first program starts with. -/
def startEvent (config : Config) (command : String) : LogEvent :=
  { level := .info
    target := "wallet_ledger"
    message := "Starting wallet_ledger"
    fields := [("environment", config.environment), ("command", command)] }

/-- The program that looks after a ledger, with its arguments. -/
def maintain (env : Environment) (args : List String) : Exit :=
  match Config.ofEnvironment env with
  | .error e => failure [] e.message
  | .ok config =>
    failure (logged env config (startEvent config (args.head?.getD "reconcile"))) noDatabase

/-- The number after the first occurrence of a name among arguments, or a default. -/
def argument (name : String) (default : Nat) : List String → Nat
  | [] => default
  | arg :: args =>
    if arg == name then
      (args.head?.bind fun s => Numeral.unsigned? Numeral.bound64 s.toList).getD default
    else argument name default args

/-- The program that puts a ledger under load, with its arguments. -/
def load (env : Environment) (args : List String) : Exit :=
  match Config.ofEnvironment env with
  | .error e => failure [] e.message
  | .ok _ =>
    let transfers := argument "--transfers" 1000 args
    let wallets := max (argument "--wallets" 4 args) 2
    failure
      [.plain ("Load Test - " ++ Numeral.text transfers ++ " transfers across " ++
          Numeral.text wallets ++ " wallets"),
        .plain "Connecting to database..."] noDatabase

end Program

end CurrencyLedger
