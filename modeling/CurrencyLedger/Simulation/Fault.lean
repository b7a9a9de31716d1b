import CurrencyLedger.Store.Call

/-! # Faults

A plan of what goes wrong in the calls of a store, so that operations can be watched while their
store fails. A fault waits for calls of one kind, lets some of them pass, and then acts a number of
times. -/

namespace CurrencyLedger.Simulation

/-- The kinds of calls. -/
inductive CallKind where
  | begin | createWallet | findWallet | holdings | allHoldings | entries | totals
  | lock | create | apply | find | append | commit | rollback
  deriving DecidableEq, Repr

namespace CallKind

/-- The kind of a call. -/
def ofCall : Call → CallKind
  | .begin => .begin
  | .createWallet .. => .createWallet
  | .findWallet _ => .findWallet
  | .holdings _ => .holdings
  | .allHoldings => .allHoldings
  | .entries .. => .entries
  | .totals => .totals
  | .lock _ => .lock
  | .create .. => .create
  | .apply .. => .apply
  | .find _ => .find
  | .append _ => .append
  | .commit => .commit
  | .rollback => .rollback

/-- Every kind with its name. -/
def names : List (String × CallKind) :=
  [("begin", .begin), ("create_wallet", .createWallet), ("find_wallet", .findWallet),
    ("balances", .holdings), ("all_balances", .allHoldings), ("entries", .entries),
    ("ledger_totals", .totals), ("lock", .lock), ("create", .create), ("apply", .apply),
    ("find", .find), ("append", .append), ("commit", .commit), ("rollback", .rollback)]

/-- The kind of a name. -/
def ofText? (text : String) : Option CallKind := (names.find? (·.1 == text)).map (·.2)

end CallKind

/-- What a fault does to a call. -/
inductive Effect where
  /-- The call is not made, and answered with an error. -/
  | refuse (error : StoreError)
  /-- The call is made; if it succeeds, it is answered with an error all the same. -/
  | deny (error : StoreError)
  /-- The call is made; if it succeeds and finds or makes something, that is not told. -/
  | conceal

/-- Something that goes wrong. -/
structure Fault where
  /-- In which calls. -/
  kind : CallKind
  /-- What happens to them. -/
  effect : Effect
  /-- How many calls pass first. -/
  skip : Nat := 0
  /-- How many calls it happens to. -/
  times : Nat := 1

/-- What the first fault in wait for a kind of call does now, and the faults that are left. -/
def strike (kind : CallKind) : List Fault → Option Effect × List Fault
  | [] => (none, [])
  | fault :: faults =>
    if fault.kind = kind ∧ 0 < fault.times then
      if 0 < fault.skip then (none, { fault with skip := fault.skip - 1 } :: faults)
      else (some fault.effect, { fault with times := fault.times - 1 } :: faults)
    else
      let rest := strike kind faults
      (rest.1, fault :: rest.2)

/-- The answer of a call without what it found or made. -/
def concealed : (c : Call) → c.Answer → c.Answer
  | .lock _, _ => none
  | .find _, _ => none
  | .findWallet _, _ => none
  | .create .., _ => false
  | _, answer => answer

end CurrencyLedger.Simulation
