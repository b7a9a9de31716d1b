import CurrencyLedger.Store.Call
import CurrencyLedger.Transfer

/-! # Scripts

An operation is a script of calls: it asks a store, waits for the answer, and goes on from there. A
script knows nothing of the store that answers, so one script can be run alone or in steps among
others.

* **`Script`** — the calls, the pauses, the stages reached and the readings of the clock;
* **`Script.interpret`** — a script run by handlers for each of these. -/

namespace CurrencyLedger

/-- What an operation does, up to its result. -/
inductive Script (α : Type) : Type where
  /-- The result. -/
  | done (a : α)
  /-- Asks a store and goes on with the answer. -/
  | call (c : Call) (next : Except StoreError c.Answer → Script α)
  /-- Pauses for milliseconds. -/
  | sleep (ms : Nat) (next : Script α)
  /-- Tells which stage a transfer has reached. -/
  | advance (stage : Transfer.Stage) (next : Script α)
  /-- Reads the clock. -/
  | now (next : Instant → Script α)

namespace Script

/-- A script followed by another that depends on its result. -/
def bind (s : Script α) (f : α → Script β) : Script β :=
  match s with
  | .done a => f a
  | .call c next => .call c fun answer => (next answer).bind f
  | .sleep ms next => .sleep ms (next.bind f)
  | .advance stage next => .advance stage (next.bind f)
  | .now next => .now fun time => (next time).bind f

instance : Monad Script where
  pure := .done
  bind := bind

@[simp] theorem done_bind (a : α) (f : α → Script β) : (Script.done a >>= f) = f a := rfl

@[simp] theorem call_bind (c : Call) (next : Except StoreError c.Answer → Script α)
    (f : α → Script β) : (Script.call c next >>= f) = .call c fun answer => next answer >>= f := rfl

@[simp] theorem sleep_bind (ms : Nat) (next : Script α) (f : α → Script β) :
    (Script.sleep ms next >>= f) = .sleep ms (next >>= f) := rfl

@[simp] theorem advance_bind (stage : Transfer.Stage) (next : Script α) (f : α → Script β) :
    (Script.advance stage next >>= f) = .advance stage (next >>= f) := rfl

@[simp] theorem now_bind (next : Instant → Script α) (f : α → Script β) :
    (Script.now next >>= f) = .now fun time => next time >>= f := rfl

/-- Nothing is lost by going on with the result itself. -/
theorem bind_done (s : Script α) : s.bind .done = s := by
  induction s with
  | done a => rfl
  | call c next ih => simp [bind, ih]
  | sleep ms next ih => simp [bind, ih]
  | advance stage next ih => simp [bind, ih]
  | now next ih => simp [bind, ih]

/-- Scripts in a row can be put together from either end. -/
theorem bind_bind (s : Script α) (f : α → Script β) (g : β → Script γ) :
    (s.bind f).bind g = s.bind fun a => (f a).bind g := by
  induction s with
  | done a => rfl
  | call c next ih => simp [bind, ih]
  | sleep ms next ih => simp [bind, ih]
  | advance stage next ih => simp [bind, ih]
  | now next ih => simp [bind, ih]

instance : LawfulMonad Script :=
  LawfulMonad.mk' Script bind_done (fun _ _ => rfl) bind_bind

/-- One call. -/
def ask (c : Call) : Script (Except StoreError c.Answer) := .call c .done

/-- One pause. -/
def pause (ms : Nat) : Script Unit := .sleep ms (.done ())

/-- One stage. -/
def reach (stage : Transfer.Stage) : Script Unit := .advance stage (.done ())

/-- One reading of the clock. -/
def clock : Script Instant := .now .done

/-- How the steps of scripts are carried out. -/
structure Handlers (m : Type → Type) where
  /-- Answers a call. -/
  call : (c : Call) → m (Except StoreError c.Answer)
  /-- Pauses. -/
  sleep : Nat → m Unit
  /-- Takes note of a stage. -/
  advance : Transfer.Stage → m Unit
  /-- Reads the clock. -/
  now : m Instant

/-- Carries out a script. -/
def interpret [Monad m] (h : Handlers m) : Script α → m α
  | .done a => pure a
  | .call c next => do (next (← h.call c)).interpret h
  | .sleep ms next => do h.sleep ms; next.interpret h
  | .advance stage next => do h.advance stage; next.interpret h
  | .now next => do (next (← h.now)).interpret h

/-- Scripts in a row are carried out in a row. -/
theorem interpret_bind [Monad m] [LawfulMonad m] (h : Handlers m) (s : Script α)
    (f : α → Script β) :
    (s >>= f).interpret h = s.interpret h >>= fun a => (f a).interpret h := by
  induction s with
  | done a => simp [interpret]
  | call c next ih => simp [interpret, ih]
  | sleep ms next ih => simp [interpret, ih]
  | advance stage next ih => simp [interpret, ih]
  | now next ih => simp [interpret, ih]

end Script

/-- A script that ends with a result or an error of a store. -/
abbrev StoreScript := ExceptT StoreError Script

/-- A script that ends with a result or an error of the ledger. -/
abbrev Operation := ExceptT LedgerError Script

/-- One call, whose error ends the script. -/
def StoreScript.ask (c : Call) : StoreScript c.Answer := ExceptT.mk (Script.ask c)

namespace Operation

/-- A script of the store as an operation. -/
def ofStore (s : StoreScript α) : Operation α :=
  ExceptT.mk do
    let result ← s.run
    pure (result.mapError LedgerError.ofStore)

/-- One call, whose error ends the operation. -/
def ask (c : Call) : Operation c.Answer := ofStore (.ask c)

/-- A result or an error that is known already. -/
def ofExcept (result : Except LedgerError α) : Operation α := ExceptT.mk (pure result)

/-- Tells which stage a transfer has reached. -/
def reach (stage : Transfer.Stage) : Operation Unit := ExceptT.lift (Script.reach stage)

/-- Reads the clock. -/
def clock : Operation Instant := ExceptT.lift Script.clock

end Operation

end CurrencyLedger
