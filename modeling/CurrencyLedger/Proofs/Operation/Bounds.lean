import CurrencyLedger.Operation.Record
import CurrencyLedger.Proofs.Operation.Locking
import CurrencyLedger.Retry
import Mathlib.Data.List.Perm.Subperm

/-! # How many calls scripts make

However a script is answered, it makes a limited number of calls, and all of a kind that can be told
from the script alone.

* **`Script.Makes`** — at most so many calls, all of a kind;
* **`Script.Makes.bind`**, **`Operation.makes_bind`** — scripts in a row;
* **`StoreScript.makes_lockAll`**, **`Operation.makes_inTransaction`**, **`Retry.makes_attempts`** —
  the parts of attempts;
* **`Script.Makes.ensures`** — so it is among others. -/

namespace CurrencyLedger

variable {α β ε : Type} {p : Call → Prop} {m n : Nat}

namespace Script

/-- Whether a script makes at most so many calls, all of a kind, however it is answered. -/
def Makes (p : Call → Prop) : Script α → Nat → Prop
  | .done _, _ => True
  | .call c next, n => p c ∧ 0 < n ∧ ∀ answer, (next answer).Makes p (n - 1)
  | .sleep _ next, n => next.Makes p n
  | .advance _ next, n => next.Makes p n
  | .now next, n => ∀ time, (next time).Makes p n

/-- A script that makes few calls makes few enough for a greater number. -/
theorem Makes.mono {script : Script α} (makes : script.Makes p m) (le : m ≤ n) :
    script.Makes p n := by
  induction script generalizing m n with
  | done a => trivial
  | call c next ih =>
    obtain ⟨kind, positive, rest⟩ := makes
    exact ⟨kind, Nat.lt_of_lt_of_le positive le,
      fun answer => ih answer (rest answer) (Nat.sub_le_sub_right le 1)⟩
  | sleep ms next ih => exact ih makes le
  | advance stage next ih => exact ih makes le
  | now next ih => exact fun time => ih time (makes time) le

/-- Scripts in a row make their calls one after another. -/
theorem Makes.bind {script : Script α} {f : α → Script β} (makes : script.Makes p m)
    (rest : ∀ a, (f a).Makes p n) : (script >>= f).Makes p (m + n) := by
  induction script generalizing m with
  | done a => exact (rest a).mono (Nat.le_add_left n m)
  | call c next ih =>
    obtain ⟨kind, positive, more⟩ := makes
    refine ⟨kind, Nat.add_pos_left positive n, fun answer => ?_⟩
    have same : m + n - 1 = m - 1 + n := by omega
    rw [same]
    exact ih answer (more answer)
  | sleep ms next ih => exact ih makes
  | advance stage next ih => exact ih makes
  | now next ih => exact fun time => ih time (makes time)

/-- One call. -/
theorem makes_ask {c : Call} (kind : p c) : (ask c).Makes p 1 :=
  ⟨kind, Nat.one_pos, fun _ => trivial⟩

end Script

/-! ## Scripts that may fail -/

/-- Scripts that may fail make their calls one after another. -/
theorem Operation.makes_bind {x : ExceptT ε Script α} {f : α → ExceptT ε Script β}
    (makes : x.run.Makes p m) (rest : ∀ a, (f a).run.Makes p n) :
    (x >>= f).run.Makes p (m + n) := by
  rw [ExceptT.run_bind]
  refine makes.bind fun result => ?_
  cases result with
  | error error => trivial
  | ok a => exact rest a

/-- What is known already takes no calls. -/
theorem Operation.makes_ofExcept_bind {x : Except LedgerError α} {f : α → Operation β}
    (rest : ∀ a, x = .ok a → (f a).run.Makes p n) : (ofExcept x >>= f).run.Makes p n := by
  cases x with
  | error error => trivial
  | ok a => exact rest a rfl

/-- Rewriting a result takes no calls. -/
theorem Operation.makes_map {x : ExceptT ε Script α} {f : α → β} (makes : x.run.Makes p n) :
    (f <$> x).run.Makes p n := by
  rw [ExceptT.run_map, map_eq_pure_bind]
  exact makes.bind (n := 0) fun _ => trivial

/-- A script of the store makes the same calls as an operation. -/
theorem Operation.makes_ofStore {x : StoreScript α} (makes : x.run.Makes p n) :
    (Operation.ofStore x).run.Makes p n :=
  Script.Makes.bind makes (n := 0) fun _ => trivial

/-- One call. -/
theorem Operation.makes_ask {c : Call} (kind : p c) : (Operation.ask c).run.Makes p 1 :=
  makes_ofStore (Script.makes_ask kind)

namespace StoreScript

/-- An account is locked in three calls. -/
theorem makes_lockOne {account : Account} (locks : p (.lock account))
    (creates : p (.create account 0)) : (lockOne account).run.Makes p 3 := by
  refine Operation.makes_bind (m := 1) (n := 2) (Script.makes_ask locks) fun held => ?_
  cases held with
  | some amount => trivial
  | none =>
    refine Operation.makes_bind (m := 1) (n := 1) (Script.makes_ask creates) fun _ => ?_
    refine Operation.makes_bind (m := 1) (n := 0) (Script.makes_ask locks) fun held => ?_
    cases held with
    | some amount => trivial
    | none => trivial

/-- Accounts are locked in three calls each. -/
theorem makes_lockEach {accounts : List Account} {held : Table Account Int}
    (locks : ∀ account ∈ accounts, p (.lock account))
    (creates : ∀ account ∈ accounts, p (.create account 0)) :
    (lockEach held accounts).run.Makes p (3 * accounts.length) := by
  induction accounts generalizing held with
  | nil => trivial
  | cons account accounts ih =>
    rw [List.length_cons, Nat.mul_succ, Nat.add_comm]
    exact Operation.makes_bind
      (makes_lockOne (locks account List.mem_cons_self) (creates account List.mem_cons_self))
      fun amount => ih (fun a mem => locks a (List.mem_cons_of_mem _ mem))
        fun a mem => creates a (List.mem_cons_of_mem _ mem)

/-- Accounts are locked in three calls each, and those that are listed twice only once. -/
theorem makes_lockAll {accounts : List Account} (locks : ∀ account ∈ accounts, p (.lock account))
    (creates : ∀ account ∈ accounts, p (.create account 0)) :
    (lockAll accounts).run.Makes p (3 * accounts.length) := by
  have fewer : (Account.ascending accounts).length ≤ accounts.length :=
    (List.subperm_of_subset (Account.nodup_ascending accounts)
      fun _ => Account.mem_ascending.1).length_le
  exact (makes_lockEach (fun a mem => locks a (Account.mem_ascending.1 mem))
    fun a mem => creates a (Account.mem_ascending.1 mem)).mono (Nat.mul_le_mul_left 3 fewer)

end StoreScript

/-! ## Attempts -/

namespace Operation

/-- A reference is looked up in one call. -/
theorem makes_findCompleted {reference : String} {kind : OperationKind} {fingerprint : Fingerprint}
    (finds : p (.find reference)) :
    (findCompleted reference kind fingerprint).run.Makes p 1 := by
  refine makes_bind (n := 0) (makes_ask finds) fun found => ?_
  cases found with
  | none => trivial
  | some entry =>
    refine makes_bind (m := 0) (n := 0) trivial fun completion => ?_
    exact makes_bind (m := 0) (n := 0) trivial fun _ => trivial

/-- Looking for an earlier completion takes one call more than the work that follows. -/
theorem makes_recall {reference : String} {kind : OperationKind} {fingerprint : Fingerprint}
    {read : Json → Option α} {work : Operation (Progress α)} (finds : p (.find reference))
    (makes : work.run.Makes p n) :
    (ExceptT.run do
      match ← findCompleted reference kind fingerprint with
      | some completion =>
        let receipt ← ofExcept
          ((completion.outcomeAs read reference).mapError LedgerError.ofCompletion)
        pure (.replayed receipt)
      | none => work).Makes p (1 + n) := by
  refine makes_bind (makes_findCompleted finds) fun found => ?_
  cases found with
  | none => exact makes
  | some completion =>
    refine Script.Makes.mono (m := 0 + 0) ?_ (Nat.zero_le n)
    exact makes_bind (m := 0) (n := 0) trivial fun _ => trivial

/-- References are looked up in one call each. -/
theorem makes_ensureUnclaimed {references : List String}
    (finds : ∀ reference ∈ references, p (.find reference)) :
    (ensureUnclaimed references).run.Makes p references.length := by
  induction references with
  | nil => trivial
  | cons reference references ih =>
    rw [List.length_cons, Nat.add_comm]
    refine makes_bind (makes_bind (n := 0) (makes_ask (finds reference List.mem_cons_self))
      fun _ => trivial) fun claimed => ?_
    cases claimed with
    | true => trivial
    | false => exact ih fun r mem => finds r (List.mem_cons_of_mem _ mem)

/-- A transaction takes two calls more than its work. -/
theorem makes_inTransaction {reach : Transfer.Stage → Script Unit} {work : Operation (Progress α)}
    (reaches : ∀ stage, (reach stage).Makes p 0) (begins : p .begin) (commits : p .commit)
    (gives_up : p .rollback) (makes : work.run.Makes p n) :
    (inTransaction reach work).run.Makes p (n + 2) := by
  have total : n + 2 = 1 + (n + 1) := by omega
  rw [total]
  refine (Script.makes_ask begins).bind fun begun => ?_
  cases begun with
  | error error => trivial
  | ok _ =>
    refine Script.Makes.bind makes fun result => ?_
    rcases result with error | receipt | receipt
    · refine Script.Makes.mono (m := 0 + (1 + 0)) ?_ (Nat.le_refl _)
      exact (reaches .aborted).bind fun _ => (Script.makes_ask gives_up).bind fun _ => trivial
    · refine Script.Makes.bind (m := 1) (n := 0) (Script.makes_ask gives_up) fun ended => ?_
      cases ended with
      | error error => trivial
      | ok _ => trivial
    · refine Script.Makes.bind (m := 1) (n := 0) (Script.makes_ask commits) fun ended => ?_
      cases ended with
      | error error => exact (reaches .aborted).bind (n := 0) fun _ => trivial
      | ok _ => exact (reaches .committed).bind (n := 0) fun _ => trivial

end Operation

/-- Several attempts make the calls of one as often as there are attempts. -/
theorem Retry.makes_attempts {backoff : Nat} {operation : Script (Except LedgerError α)}
    (makes : operation.Makes p n) (more number : Nat) :
    (attempts Script.pause backoff operation more number).Makes p ((more + 1) * n) := by
  induction more generalizing number with
  | zero =>
    rw [Nat.zero_add, Nat.one_mul]
    exact makes
  | succ more ih =>
    have total : (more + 1 + 1) * n = n + (more + 1) * n := by
      rw [Nat.succ_mul, Nat.add_comm]
    rw [total, attempts]
    refine makes.bind fun result => ?_
    split
    · exact ih (number + 1)
    · trivial

/-! ## Among others -/

/-- Among others a script makes no other calls and no more. -/
theorem Script.Makes.ensures {t : TransactionId} {e : Surroundings t} {trail : Trail} {s : Store}
    {limit : Nat} {script : Script α} (makes : script.Makes p n)
    (few : trail.calls.length + n ≤ limit) :
    script.Ensures e (fun trail c _ => p c ∧ trail.calls.length < limit) (fun _ _ _ => True) trail
      s := by
  induction script generalizing n trail s with
  | done a => trivial
  | call c next ih =>
    obtain ⟨kind, positive, rest⟩ := makes
    have further (answer : Except StoreError c.Answer) (s' : Store) :
        (trail.add c answer s').calls.length + (n - 1) ≤ limit := by
      rw [Trail.add, List.length_cons]
      omega
    intro s' between
    exact ⟨⟨kind, by omega⟩, fun now s'' answer step => ih answer (rest answer) (further _ _),
      fun account locks expires => ih _ (rest _) (further _ _)⟩
  | sleep ms next ih => exact ih makes few
  | advance stage next ih => exact ih makes few
  | now next ih => exact fun time shows => ih time (makes time) few

end CurrencyLedger
