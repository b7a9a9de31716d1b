import CurrencyLedger.Json.Printer
import CurrencyLedger.Program

/-! # Command line

`load` as the first argument starts the program that puts a ledger under load, with the arguments
after it; anything else starts the program that looks after a ledger. Configuration comes from the
environment and from the file `.env`. -/

namespace CurrencyLedger

/-- The names that the programs look for. -/
def environmentNames : List String :=
  ["DATABASE_URL", "DATABASE_MAX_CONNECTIONS", "ENVIRONMENT", "LOCK_TIMEOUT_MS",
    "TRANSFER_MAX_RETRIES", "TRANSFER_RETRY_BACKOFF_MS", "MINOR_UNIT_SCALE", "EXCHANGE_RATES",
    "LOG_FORMAT", "RUST_LOG"]

/-- The texts of names in the environment of the process. -/
def readEnvironment (names : List String) : IO Environment :=
  names.filterMapM fun name => do
    let text ← IO.getEnv name
    pure (text.map (name, ·))

/-- The file `.env`, empty if there is none. -/
def readFile : IO String := do
  try IO.FS.readFile ".env" catch _ => pure ""

/-- A line of output as text. -/
def OutputLine.text : OutputLine → String
  | .log .json event => event.toJson.text
  | .log .pretty event => event.line
  | .plain text => text

end CurrencyLedger

open CurrencyLedger in
/-- Starts a program. -/
def main (args : List String) : IO UInt32 := do
  let file ← readFile
  let assignments := Environment.fileAssignments file
  let environment ← readEnvironment
    (environmentNames ++ assignments.map (·.name) ++ assignments.flatMap (·.references))
  let env := environment.addFile file
  let exit := match args with
    | "load" :: rest => Program.load env rest
    | _ => Program.maintain env args
  for line in exit.output do
    IO.println line.text
  IO.eprintln exit.error
  pure (UInt32.ofNat exit.code)
