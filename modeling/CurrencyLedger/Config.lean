import CurrencyLedger.Environment.File
import CurrencyLedger.Ledger
import CurrencyLedger.Rates.Text

/-! # Configuration

How a program is set up, read from named texts such as the environment gives. Only the address of
the database has to be there; of several wrong values the first in the order of the fields decides
the error. -/

namespace CurrencyLedger

/-- How log lines are written. -/
inductive LogFormat where
  /-- For people. -/
  | pretty
  /-- For programs. -/
  | json
  deriving DecidableEq, Repr

/-- The name of a format. -/
def LogFormat.text : LogFormat → String
  | .pretty => "pretty"
  | .json => "json"

/-- Why a configuration cannot be read. -/
inductive ConfigError where
  /-- A text that has to be there is missing. -/
  | missing (name : String)
  /-- A text has no meaning. -/
  | invalid (name : String)
  deriving DecidableEq, Repr

/-- What is wrong with the configuration. -/
def ConfigError.message : ConfigError → String
  | .missing name => "Missing environment variable: " ++ name
  | .invalid name => "Invalid value for environment variable: " ++ name

/-- How a program is set up. -/
structure Config where
  /-- The address of the database. -/
  databaseUrl : String
  /-- How many connections to it there may be. -/
  maxConnections : Nat
  /-- Where the program runs. -/
  environment : String
  /-- How many milliseconds a transaction waits for a lock. -/
  lockTimeout : Nat
  /-- How often an operation is attempted. -/
  maxAttempts : Nat
  /-- The first pause between attempts in milliseconds. -/
  backoff : Nat
  /-- How many decimal places there are between major and minor units. -/
  scale : Nat
  /-- The rates that transfers convert by. -/
  rates : Rates
  /-- How log lines are written. -/
  logFormat : LogFormat

namespace Config

/-- A number below a bound, with blanks around it, or a default if there is no text. -/
def number (env : Environment) (name : String) (bound default : Nat) :
    Except ConfigError Nat :=
  match env.get? name with
  | none => .ok default
  | some text =>
    match Numeral.unsigned? bound (Text.trimChars text.toList) with
    | some n => .ok n
    | none => .error (.invalid name)

/-- A number that passes a test. -/
def checked (name : String) (test : Nat → Bool) (n : Nat) : Except ConfigError Nat :=
  if test n then .ok n else .error (.invalid name)

/-- The rates of a text; without a text, or with a blank one, those that hold unless others are
given. -/
def exchangeRates (env : Environment) (name : String) : Except ConfigError Rates :=
  match env.get? name with
  | none => .ok .reference
  | some text =>
    if (Text.trimChars text.toList).isEmpty then .ok .reference
    else (Rates.ofText text).mapError fun _ => .invalid name

/-- The format of log lines. -/
def logFormatOf (env : Environment) (name : String) : Except ConfigError LogFormat :=
  match env.get? name with
  | none => .ok .pretty
  | some text =>
    if text == "json" then .ok .json
    else if text == "pretty" then .ok .pretty
    else .error (.invalid name)

/-- Reads a configuration. -/
def ofEnvironment (env : Environment) : Except ConfigError Config := do
  let databaseUrl ← match env.get? "DATABASE_URL" with
    | some url => .ok url
    | none => .error (.missing "DATABASE_URL")
  let maxConnections ← number env "DATABASE_MAX_CONNECTIONS" Numeral.bound32 10
  let environment := (env.get? "ENVIRONMENT").getD "development"
  let lockTimeout ← number env "LOCK_TIMEOUT_MS" Numeral.bound64 5000
  let attempts ← number env "TRANSFER_MAX_RETRIES" Numeral.bound32 3
  let maxAttempts ← checked "TRANSFER_MAX_RETRIES" (0 < ·) attempts
  let backoff ← number env "TRANSFER_RETRY_BACKOFF_MS" Numeral.bound64 50
  let places ← number env "MINOR_UNIT_SCALE" Numeral.bound32 2
  let scale ← checked "MINOR_UNIT_SCALE" (· ≤ maxPlaces) places
  let rates ← exchangeRates env "EXCHANGE_RATES"
  let logFormat ← logFormatOf env "LOG_FORMAT"
  pure
    { databaseUrl, maxConnections, environment, lockTimeout, maxAttempts, backoff, scale, rates
      logFormat }

/-- Whether the program runs where it counts. -/
def isProduction (c : Config) : Bool := c.environment == "production"

/-- The ledger of a configuration. -/
def ledger (c : Config) : Ledger :=
  { rates := c.rates, retry := .make c.maxAttempts c.backoff, scale := c.scale }

end Config

end CurrencyLedger
