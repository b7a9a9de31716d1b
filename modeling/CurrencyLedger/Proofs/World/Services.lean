import CurrencyLedger.Proofs.World.Counted
import CurrencyLedger.Proofs.World.Decided
import CurrencyLedger.Proofs.World.Numbers

/-! # What services add to the ledger

While services are given one after another, a service adds the entries of its order to the ledger if
it is answered with a receipt that was not there before, and nothing otherwise.

* **`Ledger.Service.Adds`** — what a service adds that is answered so;
* **`Serial.Idle.carryOut`** — what an order that is alone leaves, however often it is attempted;
* **`Serial.Idle.serve`** — what a service adds;
* **`Serial.idle_attend`**, **`Serial.ascending_attend`** — after services one after another nothing
  is under way, and entries have been published in the order of their numbers. -/

namespace CurrencyLedger

namespace Ledger.Service

variable {l : Ledger} {service : Service} {result : Except LedgerError Reply} {written : List Entry}

/-- What a service that is answered so adds to the ledger. -/
structure Adds (l : Ledger) (service : Service) (result : Except LedgerError Reply)
    (written : List Entry) : Prop where
  /-- Without a receipt that was not there before it adds nothing. -/
  silent : (∀ receipt, result ≠ .ok (.processed ⟨receipt, false⟩)) → written = []
  /-- With such a receipt it adds the entries of its order, in the order in which they are
  written. -/
  fresh : ∀ receipt, result = .ok (.processed ⟨receipt, false⟩) →
    ∃ demand context fresh order recorded, service = .carryOut demand context fresh ∧
      demand.order l = .ok order ∧ written.map Entry.toPosting =
        order.postings receipt (order.completion receipt (context.ensureCorrelation fresh) recorded)

/-- A service that is answered otherwise adds nothing. -/
theorem Adds.nothing (stale : ∀ receipt, result ≠ .ok (.processed ⟨receipt, false⟩)) :
    service.Adds l result [] :=
  ⟨fun _ => rfl, fun receipt same => absurd same (stale receipt)⟩

/-- A service that fails adds nothing. -/
theorem Adds.of_error (error : LedgerError) : service.Adds l (.error error) [] :=
  .nothing fun _ same => by cases same

/-- A service that tells of something else than an order adds nothing. -/
theorem Adds.of_map {α : Type} {f : α → Reply} (other : ∀ a p, f a ≠ .processed p)
    (x : Except LedgerError α) : service.Adds l (x.map f) [] := by
  refine .nothing fun receipt same => ?_
  obtain ⟨a, -, same⟩ := map_eq_ok.1 same
  exact other a _ same

/-- A service is refused without a call, or it is a task. -/
theorem operation_cases (l : Ledger) (service : Service) :
    (∃ error, service.operation l = throw error) ∨
      ∃ task : Task, service.operation l = task.operation := by
  cases service with
  | createWallet user name => exact Or.inr ⟨.createWallet user name, rfl⟩
  | carryOut demand context fresh =>
    rw [operation, Demand.operation_eq]
    cases demand.order l with
    | error error => exact Or.inl ⟨error, rfl⟩
    | ok order => exact Or.inr ⟨.carryOut order l.retry context fresh, rfl⟩
  | statement wallet => exact Or.inr ⟨.statement wallet, rfl⟩
  | history wallet limit => exact Or.inr ⟨.history wallet limit, rfl⟩
  | reconcile => exact Or.inr ⟨.reconcile, rfl⟩

end Ledger.Service

namespace Serial

variable {serial : Serial} {clock : Nat → Instant} {l : Ledger} {service : Ledger.Service}

/-- Nothing is under way after an order was carried out alone, and it has left what its answer
says. -/
theorem Idle.carryOut (idle : serial.Idle) (order : Order) (policy : Retry.Policy)
    (context : Context) (clock : Nat → Instant) :
    let done := ((order.carryOut policy context).run.interpret (handlers clock)).run serial
    done.2.Idle ∧ order.Leaves context done.1 serial.store done.2.store := by
  intro done
  cases straight : order.isCircular with
  | true =>
    have refused : done = (.error .invalidTarget, serial) := by
      simp only [done]
      rw [Order.carryOut, ExceptT.run_mk, Retry.Policy.run, Retry.interpret_attempts,
        Order.attempt_of_isCircular straight]
      exact Retry.run_eq_of_final policy rfl
    rw [refused]
    exact ⟨idle, .of_error rfl⟩
  | false =>
    have blank : serial.store.transaction 0 = {} := Store.transaction_eq_of_gone (idle.live 0)
    have ensures (e : Surroundings 0) : (order.carryOut policy context).run.Ensures e
        (order.Duty e context (max 1 policy.maxAttempts)) (order.Settles e context) {}
        serial.store := Order.ensures_run policy blank rfl rfl
    obtain ⟨trail, settles, sound, quiet⟩ := Script.Ensures.interpret clock (ensures _) (ensures _)
      (fun _ _ _ duty => duty.1) idle.sound (fun t _ => idle.live t) fun _ => rfl
    obtain ⟨exchange, -, ended⟩ := settles.exists_ended straight
    exact ⟨⟨sound, quiet.live ended.live⟩, (settles.decided idle.sound straight).2⟩

/-- A task that only asks for what is published changes nothing. -/
theorem store_of_isReport (task : Task) (report : task.isReport = true) :
    ((Serial.carryOut clock task).run serial).2.store = serial.store := by
  obtain ⟨n, makes⟩ := task.makes_report report fun _ => id
  refine keeps_of_makes (I := (· = serial.store)) (fun {s s' now c answer} reports step same => ?_)
    makes rfl
  cases c <;> cases reports <;> cases step <;> exact same

/-- Whether a service that is given alone leaves nothing under way and adds what its answer says. -/
def Adds (l : Ledger) (service : Ledger.Service) (serial : Serial)
    (done : Except LedgerError Reply × Serial) : Prop :=
  done.2.Idle ∧ ∃ written, done.2.store.entries = serial.store.entries ++ written ∧
    service.Adds l done.1 written

/-- A service that leaves the store alone adds nothing. -/
theorem Idle.adds_nothing (idle : serial.Idle) {done : Except LedgerError Reply × Serial}
    (same : done.2.store = serial.store) (nothing : service.Adds l done.1 []) :
    Adds l service serial done :=
  ⟨⟨same ▸ idle.sound, fun t => same ▸ idle.live t⟩, [], by rw [same, List.append_nil], nothing⟩

/-- A wallet that is made adds nothing. -/
theorem Idle.adds_createWallet (idle : serial.Idle) (l : Ledger) (clock : Nat → Instant)
    (user : UserId) (name : String) :
    Adds l (.createWallet user name) serial
      ((Serial.carryOut clock (.createWallet user name)).run serial) := by
  have other : ∀ wallet p, Reply.wallet wallet ≠ .processed p := by simp
  cases named : Ledger.walletName name with
  | error error =>
    have refused : (Serial.carryOut clock (.createWallet user name)).run serial =
        (.error error, serial) := by
      rw [Serial.carryOut, Task.script, Task.operation, Ledger.createWallet, named]
      rfl
    rw [refused]
    exact idle.adds_nothing rfl (.of_error error)
  | ok chosen =>
    rw [carryOut_createWallet named]
    exact ⟨⟨idle.sound.createWallet _ _ _, idle.live⟩, [], (List.append_nil _).symm,
      .of_map other (.ok _)⟩

/-- An order adds what its answer says. -/
theorem Idle.adds_carryOut (idle : serial.Idle) (l : Ledger) (clock : Nat → Instant)
    (demand : Demand) (context : Context) (fresh : Uuid) :
    Adds l (.carryOut demand context fresh) serial
      ((((Ledger.Service.carryOut demand context fresh).operation l).run.interpret
        (handlers clock)).run serial) := by
  rw [Ledger.Service.operation, Demand.operation_eq, run_map]
  cases came : demand.order l with
  | error error =>
    have refused : ((throw error : Operation (Processed Order.Receipt)).run.interpret
        (handlers clock)).run serial = (.error error, serial) := rfl
    rw [refused]
    exact idle.adds_nothing rfl (.of_error error)
  | ok order =>
    obtain ⟨calm, leaves⟩ := idle.carryOut order l.retry (context.ensureCorrelation fresh) clock
    generalize ((order.carryOut l.retry (context.ensureCorrelation fresh)).run.interpret
      (handlers clock)).run serial = done at calm leaves ⊢
    obtain ⟨result, after⟩ := done
    by_cases told : ∃ receipt, result = .ok ⟨receipt, false⟩
    · obtain ⟨receipt, rfl⟩ := told
      obtain ⟨recorded, written, entries, posted⟩ := (leaves.fresh receipt rfl).entries
      refine ⟨calm, written, entries, fun stale => absurd rfl (stale receipt), ?_⟩
      rintro _ ⟨⟩
      exact ⟨demand, context, fresh, order, recorded, rfl, came, posted⟩
    · have books := leaves.silent fun receipt same => told ⟨receipt, same⟩
      have entries : after.store.entries = serial.store.entries :=
        congrArg Store.Books.entries books
      refine ⟨calm, [], entries.trans (List.append_nil _).symm, .nothing fun receipt same => ?_⟩
      obtain ⟨processed, eq, same⟩ := map_eq_ok.1 same
      cases same
      exact told ⟨receipt, eq⟩

/-- A report adds nothing. -/
theorem Idle.adds_report {α : Type} {x : Operation α} {f : α → Reply} (idle : serial.Idle)
    (task : Task) (report : task.isReport = true) (same : task.operation = f <$> x)
    (other : ∀ a p, f a ≠ .processed p) :
    Adds l service serial ((task.operation.run.interpret (handlers clock)).run serial) := by
  refine idle.adds_nothing (store_of_isReport task report) ?_
  rw [same, run_map]
  exact .of_map other _

/-- Nothing is under way after a service, which has added what its answer says. -/
theorem Idle.serve (idle : serial.Idle) (l : Ledger) (clock : Nat → Instant)
    (service : Ledger.Service) :
    Adds l service serial (((service.operation l).run.interpret (handlers clock)).run serial) := by
  cases service with
  | createWallet user name => exact idle.adds_createWallet l clock user name
  | carryOut demand context fresh => exact idle.adds_carryOut l clock demand context fresh
  | statement wallet =>
    exact idle.adds_report (.statement wallet) rfl rfl (by simp)
  | history wallet limit =>
    exact idle.adds_report (.history wallet limit) rfl rfl (by simp)
  | reconcile =>
    exact idle.adds_report .reconcile rfl rfl (by simp)

/-- After services that were given one after another nothing is under way. -/
theorem idle_attend (l : Ledger) (clock : Nat → Instant) (services : List Ledger.Service) :
    ((attend l clock services).run {}).2.Idle := by
  induction services using List.reverseRecOn with
  | nil => exact calm_empty.toIdle
  | append_singleton services service ih =>
    rw [attend_append_singleton]
    exact (ih.serve l clock service).1

/-- After services that were given one after another the published entries are in the order of their
numbers. -/
theorem ascending_attend (l : Ledger) (clock : Nat → Instant) (services : List Ledger.Service) :
    ((attend l clock services).run {}).2.store.Ascending 0 := by
  induction services using List.reverseRecOn with
  | nil => exact .empty 0
  | append_singleton services service ih =>
    rw [attend_append_singleton]
    rcases service.operation_cases l with ⟨error, refused⟩ | ⟨task, same⟩
    · rw [refused]
      exact ih
    · rw [same]
      obtain ⟨n, makes⟩ := task.makes_script
      exact keeps_of_makes (I := (·.Ascending 0)) (fun _ step ascending => ascending.step step)
        makes ih

end Serial

end CurrencyLedger
