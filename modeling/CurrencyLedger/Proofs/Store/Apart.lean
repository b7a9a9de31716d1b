import CurrencyLedger.Proofs.Store.Others

/-! # What others do not see

A transaction shows others which locks it holds, and nothing of the balances and entries that it has
collected.

* **`Outcome.onStore`** — an outcome with something done to the store;
* **`Store.step_update`** — what a transaction has collected may be replaced by anything else before
  or after a call of another one: the answer is the same. -/

namespace CurrencyLedger

/-- The outcome of a call with something done to the store that it leaves. -/
def Outcome.onStore {α : Type} (f : Store → Store) : Outcome α → Outcome α
  | .blocked => .blocked
  | .answered s answer => .answered (f s) answer

namespace Store

variable {s : Store} {t u : TransactionId}

/-! ## Two transactions -/

/-- States of two transactions are replaced in either order. -/
theorem update_comm (s : Store) (x y : Transaction) (different : u ≠ t) :
    (s.update t x).update u y = (s.update u y).update t x := by
  have rows : (s.live.insert t x).insert u y = (s.live.insert u y).insert t x := by
    refine Table.ext_get? fun v => ?_
    rw [Table.get?_insert, Table.get?_insert, Table.get?_insert, Table.get?_insert]
    by_cases vu : v = u
    · rw [if_pos vu, if_neg (vu ▸ different), if_pos vu]
    · rw [if_neg vu, if_neg vu]
  rw [update, update, update, update, rows]

/-- One transaction ends and the state of another is replaced in either order. -/
theorem drop_update (s : Store) (x : Transaction) (different : u ≠ t) :
    (s.update t x).drop u = (s.drop u).update t x := by
  have rows : (s.live.insert t x).erase u = (s.live.erase u).insert t x := by
    refine Table.ext_get? fun v => ?_
    rw [Table.get?_erase, Table.get?_insert, Table.get?_insert, Table.get?_erase]
    by_cases vu : v = u
    · rw [if_pos vu, if_neg (vu ▸ different), if_pos vu]
    · rw [if_neg vu, if_neg vu]
  rw [drop, drop, update, update, rows]

/-- What a transaction sees of an account does not depend on another one. -/
theorem current?_update (s : Store) (x : Transaction) (different : u ≠ t) (account : Account) :
    (s.update t x).current? u account = s.current? u account := by
  rw [current?, current?, transaction_update_of_ne s x different]
  rfl

/-- Whether an account is free for a transaction depends on the locks of another one alone. -/
theorem isHeldByOther_update {x : Transaction} (held : x.held = (s.transaction t).held)
    (account : Account) : (s.update t x).isHeldByOther u account = s.isHeldByOther u account := by
  rw [Bool.eq_iff_iff, ← not_iff_not, Bool.not_eq_true, Bool.not_eq_true,
    isHeldByOther_eq_false_iff, isHeldByOther_eq_false_iff]
  have same : ∀ v, ((s.update t x).transaction v).held = (s.transaction v).held := by
    intro v
    by_cases vt : v = t
    · rw [vt, transaction_update_self, held]
    · rw [transaction_update_of_ne s x vt]
  simp only [same]

/-! ## The calls of another transaction -/

variable {x : Transaction}

/-- The lock of an account is given whatever another transaction has collected. -/
theorem lock_update (different : u ≠ t) (held : x.held = (s.transaction t).held)
    (account : Account) :
    (s.update t x).lock u account = (s.lock u account).onStore (·.update t x) := by
  rw [lock, lock, isHeldByOther_update held]
  split
  case isTrue => rfl
  case isFalse =>
    rw [transaction_update_of_ne s x different, current?_update s x different,
      update_comm s x _ different]
    rfl

/-- An account is given a balance whatever another transaction has collected. -/
theorem create_update (different : u ≠ t) (held : x.held = (s.transaction t).held)
    (account : Account) (initial : Int) :
    (s.update t x).create u account initial =
      (s.create u account initial).onStore (·.update t x) := by
  rw [create, create, isHeldByOther_update held, current?_update s x different,
    transaction_update_of_ne s x different, show (s.update t x).hasWallet = s.hasWallet from rfl]
  split
  case isTrue => rfl
  case isFalse =>
    split
    case isTrue => rfl
    case isFalse =>
      cases s.current? u account with
      | some _ => exact congrArg (Outcome.answered · _) (update_comm s x _ different)
      | none => exact congrArg (Outcome.answered · _) (update_comm s x _ different)

/-- A balance is moved whatever another transaction has collected. -/
theorem apply_update (different : u ≠ t) (x : Transaction) (account : Account) (delta : Int) :
    (s.update t x).apply u account delta =
      ((s.apply u account delta).1.update t x, (s.apply u account delta).2) := by
  rw [apply, apply, transaction_update_of_ne s x different, current?_update s x different]
  dsimp only
  split
  case isTrue => rfl
  case isFalse =>
    cases s.current? u account with
    | none => rfl
    | some available =>
      dsimp only
      split
      case isTrue => rfl
      case isFalse =>
        split
        case isTrue => rfl
        case isFalse => rw [update_comm s x _ different]

/-- An entry is written whatever another transaction has collected. -/
theorem append_update (different : u ≠ t) (x : Transaction) (now : Instant) (posting : Posting) :
    (s.update t x).append u now posting =
      ((s.append u now posting).1.update t x, (s.append u now posting).2) := by
  have taken : (s.update t x).isTaken u = s.isTaken u := by
    funext reference
    rw [isTaken, isTaken, transaction_update_of_ne s x different]
    rfl
  rw [append, append, taken, transaction_update_of_ne s x different,
    show (s.update t x).hasWallet = s.hasWallet from rfl]
  split
  case isTrue => rfl
  case isFalse =>
    cases posting.reference.filter (s.isTaken u) with
    | some _ => rfl
    | none =>
      exact congrArg (Prod.mk · _)
        (update_comm { s with nextEntry := s.nextEntry + 1 } x _ different)

/-- A transaction is published whatever another one has collected. -/
theorem commit_update (different : u ≠ t) (x : Transaction) :
    (s.update t x).commit u = ((s.commit u).1.update t x, (s.commit u).2) := by
  rw [commit, commit, transaction_update_of_ne s x different, drop_update s x different,
    show (s.update t x).references = s.references from rfl]
  dsimp only
  split <;> rfl

/-- Every call of a transaction is answered alike whatever another transaction has collected, and
leaves that as it is. -/
theorem step_update (different : u ≠ t) (held : x.held = (s.transaction t).held) (now : Instant)
    (c : Call) : (s.update t x).step u now c = (s.step u now c).onStore (·.update t x) := by
  cases c with
  | begin => exact congrArg (Outcome.answered · _) (update_comm s x {} different)
  | lock account => exact lock_update different held account
  | create account initial => exact create_update different held account initial
  | apply account delta =>
    rw [step, step, apply_update different x]
    rfl
  | find reference =>
    rw [step, step, find, find, transaction_update_of_ne s x different]
    rfl
  | append posting =>
    rw [step, step, append_update different x]
    rfl
  | commit =>
    rw [step, step, commit_update different x]
    rfl
  | rollback => exact congrArg (Outcome.answered · _) (drop_update s x different)
  | _ => rfl

end Store

end CurrencyLedger
