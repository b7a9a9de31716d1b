import CurrencyLedger.Store.Call

/-! # Units of work

Any number of units of work use one store, each of which makes whatever calls it likes in whatever
order, may wait in vain for a lock, and may be dropped at any time. Wallets are made and reports are
asked for in between.

* **`Units`**, **`Units.Deed`** — a store with the units of work that have begun and the calls that
  were answered;
* **`Units.Move`**, **`Units.act`**, **`Units.run`** — what may happen to them;
* **`Units.Acts`**, **`Units.acts_act`** — what a move does;
* **`Units.deltas`**, **`Units.initials`** — what a unit of work has done to an account. -/

namespace CurrencyLedger

/-- Whether a call belongs to a transaction that is under way. -/
def Call.isOwn : Call → Bool
  | .lock _ | .create .. | .apply .. | .find _ | .append _ | .commit | .rollback => true
  | _ => false

/-- Whether a call belongs to no transaction: it makes a wallet or asks for a report. -/
def Call.isCommon : Call → Bool
  | .createWallet .. | .findWallet _ | .holdings _ | .allHoldings | .entries .. | .totals => true
  | _ => false

/-! ## Calls in any order -/

namespace Units

/-- A call that was answered. -/
structure Deed where
  /-- The unit of work that made the call, if one did. -/
  unit : Option TransactionId
  /-- The call. -/
  call : Call
  /-- Its answer. -/
  answer : Except StoreError call.Answer

/-- What a call has added to an account for a unit of work, if it has moved it. -/
def Deed.delta? (t : TransactionId) (account : Account) : Deed → Option Int
  | ⟨some u, .apply other delta, .ok _⟩ => if u = t ∧ other = account then some delta else none
  | _ => none

/-- What a call has given an account for a unit of work to begin with, if it has made its
balance. -/
def Deed.initial? (t : TransactionId) (account : Account) : Deed → Option Int
  | ⟨some u, .create other initial, .ok true⟩ =>
    if u = t ∧ other = account then some initial else none
  | _ => none

/-- What may happen next. -/
inductive Move where
  /-- A unit of work begins. -/
  | begin
  /-- A unit of work makes a call, unless it has to wait. -/
  | ask (t : TransactionId) (c : Call) (now : Instant)
  /-- A unit of work has waited in vain for the lock that a call needs. -/
  | expire (t : TransactionId) (c : Call)
  /-- A unit of work is dropped. -/
  | drop (t : TransactionId)
  /-- A wallet is made, or a report is asked for. -/
  | request (c : Call) (now : Instant)

/-- The unit of work that makes a move, if one that has begun does. -/
def Move.unit? : Move → Option TransactionId
  | .ask t _ _ | .expire t _ | .drop t => some t
  | _ => none

end Units

/-- A store with the units of work that have begun. -/
structure Units where
  /-- What is stored. -/
  store : Store := {}
  /-- The number of the next unit of work. -/
  next : TransactionId := 0
  /-- The calls that were answered, the first one first. -/
  deeds : List Units.Deed := []

namespace Units

/-- A unit of work is under way. -/
def isLive (w : Units) (t : TransactionId) : Bool := (w.store.live.get? t).isSome

/-- The units of work after one more call was answered. -/
def note (w : Units) (store : Store) (deed : Deed) : Units :=
  { w with store := store, deeds := w.deeds ++ [deed] }

/-- The units of work after a move. -/
def act (w : Units) : Move → Units
  | .begin => { w with store := w.store.begin w.next, next := w.next + 1 }
  | .ask t c now =>
    if w.isLive t && c.isOwn then
      match w.store.step t now c with
      | .blocked => w
      | .answered store answer => w.note store ⟨some t, c, answer⟩
    else w
  | .expire t c =>
    match c.locks? with
    | some account =>
      if w.isLive t then w.note w.store ⟨some t, c, .error (.lockTimeout account.text)⟩ else w
    | none => w
  | .drop t => { w with store := w.store.drop t }
  | .request c now =>
    if c.isCommon then
      match w.store.step w.next now c with
      | .blocked => w
      | .answered store answer => w.note store ⟨none, c, answer⟩
    else w

/-- What a move does: nothing, a beginning, an answered call, a timeout, or an end. -/
inductive Acts (w : Units) : Move → Units → Prop
  /-- Nothing. -/
  | idle (move : Move) : Acts w move w
  /-- A unit of work begins. -/
  | begin : Acts w .begin { w with store := w.store.begin w.next, next := w.next + 1 }
  /-- A call of a unit of work is answered. -/
  | ask {t : TransactionId} {c : Call} {now : Instant} {store : Store}
      {answer : Except StoreError c.Answer} (live : w.isLive t = true) (own : c.isOwn = true)
      (step : w.store.step t now c = .answered store answer) :
      Acts w (.ask t c now) (w.note store ⟨some t, c, answer⟩)
  /-- A unit of work has waited in vain. -/
  | expire {t : TransactionId} {c : Call} (account : Account) (live : w.isLive t = true) :
      Acts w (.expire t c) (w.note w.store ⟨some t, c, .error (.lockTimeout account.text)⟩)
  /-- A unit of work is dropped. -/
  | drop (t : TransactionId) : Acts w (.drop t) { w with store := w.store.drop t }
  /-- A call of nobody is answered. -/
  | request {c : Call} {now : Instant} {store : Store} {answer : Except StoreError c.Answer}
      (common : c.isCommon = true) (step : w.store.step w.next now c = .answered store answer) :
      Acts w (.request c now) (w.note store ⟨none, c, answer⟩)

/-- Every move does one of these. -/
theorem acts_act (w : Units) (move : Move) : w.Acts move (w.act move) := by
  cases move with
  | begin => exact .begin
  | ask t c now =>
    rw [act]
    split
    case isFalse => exact .idle _
    case isTrue allowed =>
      obtain ⟨live, own⟩ := Bool.and_eq_true_iff.1 allowed
      split
      case h_1 => exact .idle _
      case h_2 store answer step => exact .ask live own step
  | expire t c =>
    rw [act]
    split
    case h_2 => exact .idle _
    case h_1 account locks =>
      split
      case isFalse => exact .idle _
      case isTrue live => exact .expire account live
  | drop t => exact .drop t
  | request c now =>
    rw [act]
    split
    case isFalse => exact .idle _
    case isTrue common =>
      split
      case h_1 => exact .idle _
      case h_2 store answer step => exact .request common step

/-- The units of work after moves one after another, from an empty store on. -/
def run (moves : List Move) : Units := moves.foldl act {}

/-- What a unit of work has added to an account, call after call. -/
def deltas (w : Units) (t : TransactionId) (account : Account) : List Int :=
  w.deeds.filterMap (Deed.delta? t account)

/-- What a unit of work has given an account to begin with. -/
def initials (w : Units) (t : TransactionId) (account : Account) : List Int :=
  w.deeds.filterMap (Deed.initial? t account)

/-- What a unit of work is about to publish for an account. -/
def staged? (w : Units) (t : TransactionId) (account : Account) : Option Int :=
  (w.store.transaction t).staged.get? account

end Units

end CurrencyLedger
