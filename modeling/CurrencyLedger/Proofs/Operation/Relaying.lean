import CurrencyLedger.Proofs.Order.Attempt

/-! # Errors that are passed on

A script that is refused a call by its store ends with that error: no error of the store is lost on
the way, and none is mended. Only a transaction that cannot be given up after an error keeps to the
error from before.

* **`Script.Always`** — what can be said of every result of a script, however it is answered;
* **`Script.Relays`** — whatever call is refused, the result is that error;
* **`Script.relays_bind`**, **`Operation.relays_bind`** — scripts in a row;
* **`StoreScript.relays_lockAll`**, **`Operation.relays_inTransaction`** — the parts of attempts;
* **`Order.relays_attempt`** — so does an attempt of an order. -/

namespace CurrencyLedger

variable {α β ε ε' : Type} {inj : StoreError → ε} {inj' : StoreError → ε'}

namespace Script

/-- Whether something holds of every result that a script can come to, however it is answered. -/
def Always (Q : α → Prop) : Script α → Prop
  | .done a => Q a
  | .call _ next => ∀ answer, (next answer).Always Q
  | .sleep _ next => next.Always Q
  | .advance _ next => next.Always Q
  | .now next => ∀ time, (next time).Always Q

/-- Whether a script passes on what it is refused: when a call is answered with an error, the result
can only be that error. Giving up a transaction is not asked for the sake of its answer. -/
def Relays (inj : StoreError → ε) : Script (Except ε α) → Prop
  | .done _ => True
  | .call c next =>
    (c ≠ .rollback → ∀ error, (next (.error error)).Always (· = .error (inj error))) ∧
      ∀ answer, (next answer).Relays inj
  | .sleep _ next => next.Relays inj
  | .advance _ next => next.Relays inj
  | .now next => ∀ time, (next time).Relays inj

/-- What holds of every result of scripts in a row can be told from the results of the first. -/
theorem always_bind {P : α → Prop} {Q : β → Prop} {script : Script α} {f : α → Script β}
    (always : script.Always P) (rest : ∀ a, P a → (f a).Always Q) : (script >>= f).Always Q := by
  induction script with
  | done a => exact rest a always
  | call c next ih => exact fun answer => ih answer (always answer)
  | sleep ms next ih => exact ih always
  | advance stage next ih => exact ih always
  | now next ih => exact fun time => ih time (always time)

/-- Scripts in a row pass errors on if each of them does, and the second one keeps to an error that
the first has come to. -/
theorem relays_bind {script : Script (Except ε α)} {f : Except ε α → Script (Except ε' β)}
    (relays : script.Relays inj)
    (keeps : ∀ error, (f (.error (inj error))).Always (· = .error (inj' error)))
    (rest : ∀ result, (f result).Relays inj') : (script >>= f).Relays inj' := by
  induction script with
  | done a => exact rest a
  | call c next ih =>
    refine ⟨fun counts error => ?_, fun answer => ih answer (relays.2 answer)⟩
    refine always_bind (relays.1 counts error) ?_
    rintro _ rfl
    exact keeps error
  | sleep ms next ih => exact ih relays
  | advance stage next ih => exact ih relays
  | now next ih => exact fun time => ih time (relays time)

/-- One call passes its error on. -/
theorem relays_ask (c : Call) : (ask c).Relays id :=
  ⟨fun _ _ => rfl, fun _ => trivial⟩

/-- Where nothing is asked, nothing is refused. -/
theorem Makes.relays {p : Call → Prop} {script : Script α} {f : α → Script (Except ε β)}
    (silent : script.Makes p 0) (rest : ∀ a, (f a).Relays inj) : (script >>= f).Relays inj := by
  induction script with
  | done a => exact rest a
  | call c next ih => exact absurd silent.2.1 (Nat.lt_irrefl 0)
  | sleep ms next ih => exact ih silent
  | advance stage next ih => exact ih silent
  | now next ih => exact fun time => ih time (silent time)

/-- Where nothing is asked, a script comes to what the rest comes to. -/
theorem Makes.always {p : Call → Prop} {Q : β → Prop} {script : Script α} {f : α → Script β}
    (silent : script.Makes p 0) (rest : ∀ a, (f a).Always Q) : (script >>= f).Always Q := by
  induction script with
  | done a => exact rest a
  | call c next ih => exact absurd silent.2.1 (Nat.lt_irrefl 0)
  | sleep ms next ih => exact ih silent
  | advance stage next ih => exact ih silent
  | now next ih => exact fun time => ih time (silent time)

end Script

/-! ## Scripts that may fail -/

/-- Scripts that may fail pass errors on in a row. -/
theorem Operation.relays_bind {x : ExceptT ε Script α} {f : α → ExceptT ε Script β}
    (relays : x.run.Relays inj) (rest : ∀ a, (f a).run.Relays inj) :
    (x >>= f).run.Relays inj := by
  rw [ExceptT.run_bind]
  refine Script.relays_bind relays (fun _ => rfl) fun result => ?_
  cases result with
  | error error => trivial
  | ok a => exact rest a

/-- A rewritten result is refused in the same way. -/
theorem Operation.relays_map {x : ExceptT ε Script α} {f : α → β} (relays : x.run.Relays inj) :
    (f <$> x).run.Relays inj := by
  rw [ExceptT.run_map, map_eq_pure_bind]
  exact Script.relays_bind relays (fun _ => rfl) fun _ => trivial

/-- A script of the store passes errors on as an operation does. -/
theorem Operation.relays_ofStore {x : StoreScript α} (relays : x.run.Relays id) :
    (Operation.ofStore x).run.Relays LedgerError.ofStore :=
  Script.relays_bind relays (fun _ => rfl) fun _ => trivial

/-- One call passes its error on. -/
theorem Operation.relays_ask (c : Call) : (Operation.ask c).run.Relays LedgerError.ofStore :=
  relays_ofStore (Script.relays_ask c)

namespace StoreScript

/-- Locking an account passes errors on. -/
theorem relays_lockOne (account : Account) : (lockOne account).run.Relays id := by
  refine Operation.relays_bind (Script.relays_ask _) fun held => ?_
  cases held with
  | some amount => trivial
  | none =>
    refine Operation.relays_bind (Script.relays_ask _) fun _ => ?_
    refine Operation.relays_bind (Script.relays_ask _) fun held => ?_
    cases held with
    | some amount => trivial
    | none => trivial

/-- Locking accounts one after another passes errors on. -/
theorem relays_lockEach (accounts : List Account) (amounts : Table Account Int) :
    (lockEach amounts accounts).run.Relays id := by
  induction accounts generalizing amounts with
  | nil => trivial
  | cons account accounts ih =>
    exact Operation.relays_bind (relays_lockOne account) fun amount => ih _

/-- Locking accounts all at once passes errors on. -/
theorem relays_lockAll (accounts : List Account) : (lockAll accounts).run.Relays id :=
  relays_lockEach _ _

end StoreScript

/-! ## Attempts -/

namespace Operation

/-- Work that first looks for an earlier completion passes errors on if what it does otherwise
does. -/
theorem relays_recall {reference : String} {kind : OperationKind} {fingerprint : Fingerprint}
    {read : Json → Option α} {work : Operation (Progress α)}
    (relays : work.run.Relays LedgerError.ofStore) :
    (ExceptT.run do
      match ← findCompleted reference kind fingerprint with
      | some completion =>
        let receipt ← ofExcept
          ((completion.outcomeAs read reference).mapError LedgerError.ofCompletion)
        pure (.replayed receipt)
      | none => work).Relays LedgerError.ofStore := by
  refine relays_bind (relays_bind (relays_ask _) fun found => ?_) fun found => ?_
  · cases found with
    | none => trivial
    | some entry => exact relays_bind trivial fun _ => relays_bind trivial fun _ => trivial
  · cases found with
    | none => exact relays
    | some completion => exact relays_bind trivial fun _ => trivial

/-- Looking references up passes errors on. -/
theorem relays_ensureUnclaimed (references : List String) :
    (ensureUnclaimed references).run.Relays LedgerError.ofStore := by
  induction references with
  | nil => trivial
  | cons reference references ih =>
    refine relays_bind (relays_bind (relays_ask _) fun _ => trivial) fun claimed => ?_
    cases claimed with
    | true => trivial
    | false => exact ih

/-- A transaction passes on the errors of its work and its own. -/
theorem relays_inTransaction {reach : Transfer.Stage → Script Unit} {work : Operation (Progress α)}
    {p : Call → Prop} (reaches : ∀ stage, (reach stage).Makes p 0)
    (relays : work.run.Relays LedgerError.ofStore) :
    (inTransaction reach work).run.Relays LedgerError.ofStore := by
  refine Script.relays_bind (Script.relays_ask .begin) (fun _ => rfl) fun begun => ?_
  cases begun with
  | error error => trivial
  | ok _ =>
    refine Script.relays_bind relays (fun _ => ?_) fun result => ?_
    · exact (reaches .aborted).always fun _ _ => rfl
    rcases result with error | receipt | receipt
    · exact (reaches .aborted).relays fun _ => ⟨fun other => absurd rfl other, fun _ => trivial⟩
    · refine Script.relays_bind (Script.relays_ask .rollback) (fun _ => rfl) fun ended => ?_
      cases ended with
      | error error => trivial
      | ok _ => trivial
    · refine Script.relays_bind (Script.relays_ask .commit) (fun _ => ?_) fun ended => ?_
      · exact (reaches .aborted).always fun _ => rfl
      cases ended with
      | error error => exact (reaches .aborted).relays fun _ => trivial
      | ok _ => exact (reaches .committed).relays fun _ => trivial

end Operation

/-- Once its account is locked, a deposit or a withdrawal passes errors on. -/
theorem Adjustment.relays_draft (order : Adjustment) (direction : Direction) (context : Context)
    (available : Int) :
    (order.draft direction context available).run.Relays LedgerError.ofStore := by
  refine Operation.relays_bind trivial fun available => ?_
  refine Operation.relays_bind trivial fun change => ?_
  refine Operation.relays_bind (Operation.relays_ask _) fun balance => ?_
  refine Operation.relays_bind (fun _ => trivial) fun recorded => ?_
  exact Operation.relays_bind (Operation.relays_ask _) fun entry => trivial

/-- Once its accounts are locked, a transfer passes errors on. -/
theorem Transfer.relays_draft (order : Transfer) (rates : Rates) (context : Context)
    (available : Int) :
    (order.draft rates context available).run.Relays LedgerError.ofStore := by
  refine Operation.relays_bind trivial fun _ => ?_
  refine Operation.relays_bind trivial fun _ => ?_
  refine Operation.relays_bind (Operation.relays_ask _) fun sourceBalance => ?_
  refine Operation.relays_bind trivial fun conversion => ?_
  refine Operation.relays_bind (Operation.relays_ask _) fun targetBalance => ?_
  refine Operation.relays_bind trivial fun _ => ?_
  refine Operation.relays_bind (Operation.relays_ask _) fun _ => ?_
  refine Operation.relays_bind (Operation.relays_ask _) fun _ => ?_
  refine Operation.relays_bind (fun _ => trivial) fun recorded => ?_
  refine Operation.relays_bind (Operation.relays_ask _) fun _ => ?_
  exact Operation.relays_bind trivial fun _ => trivial

/-- An attempt of an order passes on every error of the store. -/
theorem Order.relays_attempt (order : Order) (context : Context) :
    (order.attempt context).run.Relays LedgerError.ofStore := by
  cases order with
  | adjust direction order =>
    refine Operation.relays_map (Operation.relays_inTransaction (p := fun _ => True)
      (fun _ => trivial) ?_)
    rw [Adjustment.work_eq]
    refine Operation.relays_recall ?_
    refine Operation.relays_bind (Operation.relays_ofStore (StoreScript.relays_lockAll _))
      fun locked => ?_
    exact order.relays_draft direction context _
  | move rates order =>
    refine Operation.relays_map ?_
    rw [Transfer.attempt]
    split
    · trivial
    refine Operation.relays_inTransaction (p := fun _ => True) (fun _ => trivial) ?_
    rw [Transfer.work_eq]
    refine Operation.relays_recall ?_
    refine Operation.relays_bind (Operation.relays_ensureUnclaimed _) fun _ => ?_
    refine Operation.relays_bind trivial fun _ => ?_
    refine Operation.relays_bind (Operation.relays_ofStore (StoreScript.relays_lockAll _))
      fun locked => ?_
    refine Operation.relays_bind trivial fun _ => ?_
    exact order.relays_draft rates context _

end CurrencyLedger
