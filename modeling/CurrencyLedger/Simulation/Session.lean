import CurrencyLedger.Ledger
import CurrencyLedger.Simulation.Fault

/-! # Sessions

One ledger on one store, used by one caller after another. Time passes only by pauses and by
waiting, never more than thirty years at once: a lock that another transaction holds stays held, so
waiting for it always ends in a timeout. Calls and stages are written down, and faults strike as
planned.

* **`Session.perform`** — one call, with faults and waiting;
* **`Session.run`** — a script;
* **`Session.begin`**, **`within`**, **`finish`** — transactions that stay open between steps,
  under names. -/

namespace CurrencyLedger.Simulation

/-- The longest time that passes at once, thirty years in milliseconds. -/
def longestWait : Nat := 946080000000

/-- How many milliseconds pass when a timer is set. -/
def waited (ms : Nat) : Nat := min ms longestWait

/-- A ledger in use. -/
structure Session where
  /-- How the ledger works. -/
  ledger : Ledger
  /-- How many milliseconds a call waits for a lock. -/
  lockTimeout : Nat := 5000
  /-- What is stored. -/
  store : Store := {}
  /-- The milliseconds that have passed. -/
  clock : Nat := 0
  /-- What is going to go wrong. -/
  faults : List Fault := []
  /-- The calls made, the last first. -/
  calls : List Call := []
  /-- The stages reached, the last first. -/
  stages : List Transfer.Stage := []
  /-- The open transactions by name. -/
  names : List (String × TransactionId) := []
  /-- The next transaction. -/
  nextTransaction : TransactionId := 0
  /-- How many identifiers were given out. -/
  identifiers : Nat := 0
  /-- Whether a call has overrun 64 bits. That ends a session: what it shows afterwards is void. -/
  overrun : Bool := false

namespace Session

/-- The time of a session. -/
def time (s : Session) : Instant := .ofMillis s.clock

/-- Makes a call. A call that has to wait for a lock waits in vain. -/
def make (t : TransactionId) (c : Call) : StateM Session (Except StoreError c.Answer) := do
  let s ← get
  match s.store.step t s.time c with
  | .answered store answer =>
    set { s with store, overrun := s.overrun || s.store.overruns t c }
    pure answer
  | .blocked =>
    set { s with clock := s.clock + waited s.lockTimeout }
    pure (.error (.lockTimeout ((c.locks?.map Account.text).getD "")))

/-- What a transaction loses when one of its calls is answered with an error in spite of itself: a
transaction that was to begin or to end is gone. -/
def abandon (t : TransactionId) : Call → StateM Session Unit
  | .begin | .commit | .rollback => modify fun s => { s with store := s.store.drop t }
  | _ => pure ()

/-- Makes a call as far as faults allow, and writes it down first. -/
def perform (t : TransactionId) (c : Call) : StateM Session (Except StoreError c.Answer) := do
  let s ← get
  let (effect, faults) := strike (.ofCall c) s.faults
  set { s with faults, calls := c :: s.calls }
  match effect with
  | none => make t c
  | some (.refuse error) =>
    abandon t c
    pure (.error error)
  | some (.deny error) =>
    match ← make t c with
    | .error e => pure (.error e)
    | .ok _ =>
      abandon t c
      pure (.error error)
  | some .conceal => do
    let answer ← make t c
    pure (answer.map (concealed c))

/-- The handlers of a transaction. -/
def handlers (t : TransactionId) : Script.Handlers (StateM Session) where
  call := perform t
  sleep ms := modify fun s => { s with clock := s.clock + waited ms }
  advance stage := modify fun s => { s with stages := stage :: s.stages }
  now := do pure (← get).time

/-- Carries out a script with the calls of a transaction. -/
def runIn (t : TransactionId) (script : Script α) : StateM Session α :=
  script.interpret (handlers t)

/-- The name of a transaction that was never used. -/
def freshTransaction : StateM Session TransactionId :=
  modifyGet fun s => (s.nextTransaction, { s with nextTransaction := s.nextTransaction + 1 })

/-- Carries out a script in a transaction of its own. -/
def run (script : Script α) : StateM Session α := do
  runIn (← freshTransaction) script

/-- An identifier that was never given out. -/
def freshIdentifier : StateM Session Uuid :=
  modifyGet fun s =>
    (⟨BitVec.ofNat 128 (0x6c65646765724a1f8a3d000000000000 + s.identifiers)⟩,
      { s with identifiers := s.identifiers + 1 })

/-! ## Transactions under names -/

/-- The transaction of a name. -/
def transaction? (name : String) (s : Session) : Option TransactionId :=
  (s.names.find? (·.1 == name)).map (·.2)

/-- Closes a name. -/
def close (name : String) : StateM Session Unit :=
  modify fun s => { s with names := s.names.filter (·.1 != name) }

/-- Opens a transaction under a name; one that was open under it is dropped then. -/
def openAs (name : String) : StateM Session (Except StoreError Unit) := do
  let t ← freshTransaction
  let answer ← perform t .begin
  match answer with
  | .error e => pure (.error e)
  | .ok () =>
    match (← get).transaction? name with
    | some old => modify fun s => { s with store := s.store.drop old }
    | none => pure ()
    close name
    modify fun s => { s with names := (name, t) :: s.names }
    pure (.ok ())

/-- Carries out a script with the calls of an open transaction, if the name is open. -/
def within (name : String) (script : Script α) : StateM Session (Option α) := do
  match (← get).transaction? name with
  | some t => do pure (some (← runIn t script))
  | none => pure none

/-- Ends an open transaction by a call, if the name is open. -/
def finish (name : String) (c : Call) :
    StateM Session (Option (Except StoreError c.Answer)) := do
  match (← get).transaction? name with
  | some t => do
    let answer ← perform t c
    close name
    pure (some answer)
  | none => pure none

/-- Drops an open transaction without a call, if the name is open. -/
def dropNamed (name : String) : StateM Session (Option Unit) := do
  match (← get).transaction? name with
  | some t => do
    modify fun s => { s with store := s.store.drop t }
    close name
    pure (some ())
  | none => pure none

end Session

end CurrencyLedger.Simulation
