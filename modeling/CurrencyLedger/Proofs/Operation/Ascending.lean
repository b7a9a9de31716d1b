import CurrencyLedger.Proofs.Operation.Bounds

/-! # Locks in ascending order

Whether a script asks for locks in ascending order can be told from the script alone: it is enough
to keep account of the locks that it has been given.

* **`Call.Rises`**, **`Call.holding`** — a call that needs the lock of an account asks for one that
  is held or above all that are held, and what is held after its answer;
* **`Script.Ascends`** — every call of a script rises, however it is answered;
* **`Script.ascends_bind`**, **`Operation.ascends_bind`** — scripts in a row;
* **`StoreScript.ascends_lockAll`** — locking accounts all at once ascends, whatever the accounts
  are and however often they are listed;
* **`Operation.ascends_inTransaction`**, **`Retry.ascends_attempts`** — so do transactions whose
  work ascends, and repetitions of them. -/

namespace CurrencyLedger

variable {α β ε : Type} {held : List Account} {n : Nat}

namespace Call

/-- Whether a call respects the order of locks: a transaction begins with none, and the lock of an
account is asked for when it is held already or above all that are held. -/
def Rises (held : List Account) (c : Call) : Prop :=
  (c = .begin → held = []) ∧
    ∀ account, c.locks? = some account →
      account ∈ held ∨ ∀ other ∈ held, compare other account = .lt

/-- The locks that are held after a call was answered. -/
def holding (held : List Account) : (c : Call) → Except StoreError c.Answer → List Account
  | .begin, _ => []
  | .lock account, .ok _ => account :: held
  | .create account _, .ok _ => account :: held
  | .commit, _ => []
  | .rollback, _ => []
  | _, _ => held

/-- Whether a call neither needs a lock nor begins a transaction. -/
def isLockless : Call → Bool
  | .begin | .lock _ | .create .. => false
  | _ => true

/-- Whether a call neither needs a lock nor begins or ends a transaction. -/
def isSteady : Call → Bool
  | .begin | .lock _ | .create .. | .commit | .rollback => false
  | _ => true

/-- A steady call needs no lock. -/
theorem isLockless_of_isSteady {c : Call} (steady : c.isSteady = true) : c.isLockless = true := by
  cases c <;> simp_all [isSteady, isLockless]

/-- A call that needs no lock respects their order. -/
theorem rises_of_isLockless {c : Call} (free : c.isLockless = true) : c.Rises held := by
  cases c <;> simp_all [Rises, isLockless, locks?]

/-- A steady call leaves the locks as they are. -/
theorem holding_of_isSteady {c : Call} (steady : c.isSteady = true)
    (answer : Except StoreError c.Answer) : c.holding held answer = held := by
  cases c <;> simp_all [holding, isSteady]

end Call

namespace Script

/-- Whether every call of a script respects the order of locks, however it is answered, and what
can be said of its result and of the locks that are held then. -/
def Ascends (Q : α → List Account → Prop) : Script α → List Account → Prop
  | .done a, held => Q a held
  | .call c next, held => c.Rises held ∧ ∀ answer, (next answer).Ascends Q (c.holding held answer)
  | .sleep _ next, held => next.Ascends Q held
  | .advance _ next, held => next.Ascends Q held
  | .now next, held => ∀ time, (next time).Ascends Q held

/-- Less may be said. -/
theorem Ascends.mono {Q Q' : α → List Account → Prop} {script : Script α}
    (h : script.Ascends Q held) (weaker : ∀ a held, Q a held → Q' a held) :
    script.Ascends Q' held := by
  induction script generalizing held with
  | done a => exact weaker a held h
  | call c next ih => exact ⟨h.1, fun answer => ih answer (h.2 answer)⟩
  | sleep ms next ih => exact ih h
  | advance stage next ih => exact ih h
  | now next ih => exact fun time => ih time (h time)

/-- Scripts in a row ascend if the first one leaves locks with which the other does. -/
theorem ascends_bind {Q : β → List Account → Prop} {script : Script α} {f : α → Script β}
    (h : script.Ascends (fun a held => (f a).Ascends Q held) held) :
    (script >>= f).Ascends Q held := by
  induction script generalizing held with
  | done a => exact h
  | call c next ih => exact ⟨h.1, fun answer => ih answer (h.2 answer)⟩
  | sleep ms next ih => exact ih h
  | advance stage next ih => exact ih h
  | now next ih => exact fun time => ih time (h time)

/-- One call. -/
theorem ascends_ask {c : Call} {Q : Except StoreError c.Answer → List Account → Prop}
    (rises : c.Rises held) (h : ∀ answer, Q answer (c.holding held answer)) :
    (ask c).Ascends Q held :=
  ⟨rises, h⟩

/-- Steady calls leave the locks as they are. -/
theorem Makes.ascends_steady {script : Script α} (steady : script.Makes (·.isSteady = true) n) :
    script.Ascends (fun _ held' => held' = held) held := by
  induction script generalizing n with
  | done a => rfl
  | call c next ih =>
    obtain ⟨kind, -, rest⟩ := steady
    refine ⟨Call.rises_of_isLockless (Call.isLockless_of_isSteady kind), fun answer => ?_⟩
    rw [Call.holding_of_isSteady kind]
    exact ih answer (rest answer)
  | sleep ms next ih => exact ih steady
  | advance stage next ih => exact ih steady
  | now next ih => exact fun time => ih time (steady time)

/-- Calls that need no locks ascend with any locks. -/
theorem Makes.ascends {script : Script α} (free : script.Makes (·.isLockless = true) n) :
    script.Ascends (fun _ _ => True) held := by
  induction script generalizing n held with
  | done a => trivial
  | call c next ih =>
    obtain ⟨kind, -, rest⟩ := free
    exact ⟨Call.rises_of_isLockless kind, fun answer => ih answer (rest answer)⟩
  | sleep ms next ih => exact ih free
  | advance stage next ih => exact ih free
  | now next ih => exact fun time => ih time (free time)

end Script

/-! ## Scripts that may fail -/

/-- Scripts that may fail ascend in a row if the first one leaves locks with which the other
does. -/
theorem Operation.ascends_bind {Q : Except ε β → List Account → Prop} {x : ExceptT ε Script α}
    {f : α → ExceptT ε Script β}
    (h : x.run.Ascends (fun result held =>
      match result with
      | .ok a => (f a).run.Ascends Q held
      | .error error => Q (.error error) held) held) :
    (x >>= f).run.Ascends Q held := by
  rw [ExceptT.run_bind]
  refine Script.ascends_bind (h.mono fun result held => ?_)
  cases result <;> exact id

/-- A script of the store ascends as an operation does. -/
theorem Operation.ascends_ofStore {Q : Except LedgerError α → List Account → Prop}
    {x : StoreScript α}
    (h : x.run.Ascends (fun result => Q (result.mapError LedgerError.ofStore)) held) :
    (Operation.ofStore x).run.Ascends Q held :=
  Script.ascends_bind h

/-- A rewritten result changes nothing about the calls. -/
theorem Operation.ascends_map {Q : Except ε β → List Account → Prop} {x : ExceptT ε Script α}
    {f : α → β} (h : x.run.Ascends (fun result => Q (result.map f)) held) :
    (f <$> x).run.Ascends Q held := by
  rw [ExceptT.run_map, map_eq_pure_bind]
  exact Script.ascends_bind h

/-- After steady calls that fail or succeed, the rest goes on with the same locks. -/
theorem Operation.ascends_steady_bind {x : ExceptT ε Script α} {f : α → ExceptT ε Script β}
    (steady : x.run.Makes (·.isSteady = true) n)
    (h : ∀ a, (f a).run.Ascends (fun _ _ => True) held) :
    (x >>= f).run.Ascends (fun _ _ => True) held := by
  refine ascends_bind (steady.ascends_steady.mono ?_)
  rintro (error | a) _ rfl
  · trivial
  · exact h a

/-! ## Locking accounts -/

/-- Accounts in ascending order are, each below those after it. -/
theorem Account.pairwise_ascending (accounts : List Account) :
    (ascending accounts).Pairwise fun a b => compare a b = .lt := by
  rw [ascending, Table.keys, List.pairwise_map]
  exact (Table.ofList _).ascending

namespace StoreScript

/-- Locking an account above all that are held ascends, and holds no other one besides. -/
theorem ascends_lockOne {account : Account}
    (above : ∀ other ∈ held, compare other account = .lt) :
    (lockOne account).run.Ascends
      (fun _ held' => ∀ other ∈ held', other = account ∨ other ∈ held) held := by
  have first (answer : Except StoreError (Option Int)) :
      ∀ other ∈ (Call.lock account).holding held answer, other = account ∨ other ∈ held := by
    cases answer with
    | error error => exact fun other mem => Or.inr mem
    | ok amount => exact fun other mem => List.mem_cons.1 mem
  refine Operation.ascends_bind (Script.ascends_ask ⟨nofun, ?_⟩ ?_)
  · rintro _ ⟨⟩
    exact Or.inr above
  · rintro (error | _ | amount)
    · exact first (.error error)
    · -- Now the account is locked, and it is asked for twice more.
      have locked {list : List Account} (mem : account ∈ list) (c : Call)
          (same : c.locks? = some account) (begun : c ≠ .begin) : c.Rises list :=
        ⟨fun h => absurd h begun, fun other locks => by
          rw [same] at locks
          exact Or.inl (Option.some.inj locks ▸ mem)⟩
      refine Operation.ascends_bind (Script.ascends_ask (locked List.mem_cons_self _ rfl nofun) ?_)
      have second (answer : Except StoreError Bool) :
          account ∈ (Call.create account 0).holding (account :: held) answer ∧
            ∀ other ∈ (Call.create account 0).holding (account :: held) answer,
              other = account ∨ other ∈ held := by
        cases answer with
        | error error => exact ⟨List.mem_cons_self, fun other mem => List.mem_cons.1 mem⟩
        | ok created =>
          refine ⟨List.mem_cons_self, fun other mem => ?_⟩
          exact (List.mem_cons.1 mem).elim Or.inl List.mem_cons.1
      rintro (error | created)
      · exact (second (.error error)).2
      · obtain ⟨mem, others⟩ := second (.ok created)
        refine Operation.ascends_bind (Script.ascends_ask (locked mem _ rfl nofun) ?_)
        have third (answer : Except StoreError (Option Int)) :
            ∀ other ∈ (Call.lock account).holding
              ((Call.create account 0).holding (account :: held) (.ok created)) answer,
              other = account ∨ other ∈ held := by
          cases answer with
          | error error => exact others
          | ok amount => exact fun other mem => (List.mem_cons.1 mem).elim Or.inl (others other)
        rintro (error | _ | amount)
        · exact third (.error error)
        · exact third (.ok none)
        · exact third (.ok (some amount))
    · exact first (.ok (some amount))

/-- Locking accounts one after another ascends if they do, above all that are held. -/
theorem ascends_lockEach {accounts : List Account} {amounts : Table Account Int}
    (ascending : accounts.Pairwise fun a b => compare a b = .lt)
    (above : ∀ other ∈ held, ∀ account ∈ accounts, compare other account = .lt) :
    (lockEach amounts accounts).run.Ascends (fun _ _ => True) held := by
  -- By induction on the accounts: those that are held stay below those that are left.
  induction accounts generalizing amounts held with
  | nil => trivial
  | cons account accounts ih =>
    obtain ⟨below, ascending⟩ := List.pairwise_cons.1 ascending
    refine Operation.ascends_bind ((ascends_lockOne fun other mem =>
      above other mem account List.mem_cons_self).mono fun result held' others => ?_)
    cases result with
    | error error => trivial
    | ok amount =>
      refine ih ascending fun other mem next next_mem => ?_
      rcases others other mem with rfl | mem
      · exact below next next_mem
      · exact above other mem next (List.mem_cons_of_mem _ next_mem)

/-- Locking accounts all at once ascends for a transaction that holds no locks yet. -/
theorem ascends_lockAll (accounts : List Account) :
    (lockAll accounts).run.Ascends (fun _ _ => True) [] :=
  ascends_lockEach (Account.pairwise_ascending accounts) fun _ mem =>
    absurd mem List.not_mem_nil

end StoreScript

/-! ## Attempts -/

/-- A transaction whose work ascends does so, and holds no locks afterwards. -/
theorem Operation.ascends_inTransaction {reach : Transfer.Stage → Script Unit}
    {work : Operation (Progress α)} (reaches : ∀ stage, (reach stage).Makes (·.isSteady = true) 0)
    (ascends : work.run.Ascends (fun _ _ => True) []) :
    (inTransaction reach work).run.Ascends (fun _ held => held = []) [] := by
  have told (stage : Transfer.Stage) {held : List Account} (β : Type) (result : β)
      (none : held = []) :
      (reach stage >>= fun _ => pure result).Ascends (fun _ held => held = []) held :=
    Script.ascends_bind ((reaches stage).ascends_steady.mono fun _ _ same => same.trans none)
  refine Script.ascends_bind (Script.ascends_ask ⟨fun _ => rfl, nofun⟩ ?_)
  rintro (error | begun)
  · exact rfl
  · refine Script.ascends_bind (ascends.mono fun result held _ => ?_)
    rcases result with error | receipt | receipt
    · refine Script.ascends_bind ((reaches .aborted).ascends_steady.mono fun _ held' _ => ?_)
      exact Script.ascends_bind (Script.ascends_ask ⟨nofun, nofun⟩ fun _ => rfl)
    · refine Script.ascends_bind (Script.ascends_ask ⟨nofun, nofun⟩ ?_)
      rintro (error | ended) <;> exact rfl
    · refine Script.ascends_bind (Script.ascends_ask ⟨nofun, nofun⟩ ?_)
      rintro (error | ended)
      · exact told .aborted _ _ rfl
      · exact told .committed _ _ rfl

/-- Attempts that ascend from no locks to none may be repeated. -/
theorem Retry.ascends_attempts {backoff : Nat} {operation : Script (Except LedgerError α)}
    (ascends : operation.Ascends (fun _ held => held = []) []) (more number : Nat) :
    (attempts Script.pause backoff operation more number).Ascends (fun _ held => held = []) [] := by
  induction more generalizing number with
  | zero => exact ascends
  | succ more ih =>
    refine Script.ascends_bind (ascends.mono ?_)
    rintro result _ rfl
    split
    · exact ih (number + 1)
    · exact rfl

end CurrencyLedger
