import CurrencyLedger.Proofs.World.Sane

/-! # What tasks keep

* **`Task.Duty`**, **`Task.Promise`** — when a task may ask what, and what its answer says;
* **`Task.ensures_script`** — a task does its duty and keeps its promise;
* **`World.allKeep_run`** — what every script ensures, all tasks keep in every world that can be
  reached;
* **`World.exists_of_finished`**, **`World.keeps_of_running`** — a task that is answered or under way
  keeps whatever its own script ensures;
* **`World.Faithful`**, **`World.faithful_run`** — so all tasks keep their duties and promises. -/

namespace CurrencyLedger

variable {t : TransactionId} {e : Surroundings t} {trail : Trail} {s : Store}

/-- Whether a call only asks for what is published. -/
def Call.isReport : Call → Bool
  | .findWallet _ | .holdings _ | .allHoldings | .entries .. | .totals => true
  | _ => false

/-- A report publishes nothing. -/
theorem Call.publishes_eq_false {c : Call} (report : c.isReport = true)
    (answer : Except StoreError c.Answer) (s : Store) :
    Exchange.publishes ⟨c, answer, s⟩ = false := by
  cases c <;> simp_all [Call.isReport, Exchange.publishes]

namespace Task

/-- When a task may ask what. -/
def Duty (e : Surroundings t) : Task → Trail → Call → Store → Prop
  | .createWallet user name => fun trail c _ =>
    trail = {} ∧ ∃ chosen, Ledger.walletName name = .ok chosen ∧ c = .createWallet user chosen
  | .carryOut order policy context fresh =>
    order.Duty e (context.ensureCorrelation fresh) (max 1 policy.maxAttempts)
  | _ => fun trail c _ => trail.published = false ∧ c.isReport = true

/-- What the answer to a task says. -/
def Promise (e : Surroundings t) : Task → Except LedgerError Reply → Trail → Store → Prop
  | .createWallet user name => fun result trail _ =>
    match Ledger.walletName name with
    | .error error => result = .error error ∧ trail.published = false
    | .ok chosen => ∃ s now,
      result = .ok (.wallet (s.createWallet now user chosen).2) ∧
      trail.calls =
        [⟨.createWallet user chosen, .ok (s.createWallet now user chosen).2, s⟩]
  | .carryOut order _ context fresh => fun result trail s =>
    ∃ processed : Except LedgerError (Processed Order.Receipt),
      result = processed.map Reply.processed ∧
      order.Settles e (context.ensureCorrelation fresh) processed trail s
  | _ => fun result trail _ =>
    trail.published = false ∧ ∀ reply, result = .ok reply → reply.isFresh = false

/-- A call for a report is allowed as long as nothing was published, and changes nothing about
that. -/
theorem ensures_report {c : Call} {Q : Except LedgerError c.Answer → Trail → Store → Prop}
    (report : c.isReport = true) (unpublished : trail.published = false)
    (h : ∀ result trail' s', trail'.published = false → Q result trail' s') :
    (Operation.ask c).run.Ensures e (fun trail c _ => trail.published = false ∧ c.isReport = true) Q
      trail s := by
  have free : c.locks? = none := by
    cases c <;> simp_all [Call.isReport, Call.locks?]
  refine Operation.ensures_ofStore (Script.ensures_ask free fun s₁ between =>
    ⟨⟨unpublished, report⟩, fun now s₂ answer step => h _ _ _ ?_⟩)
  rw [Trail.published_add, Call.publishes_eq_false report, unpublished]
  rfl

-- How a name is chosen does not matter here, and must not be computed.
seal Ledger.walletName

/-- A task does its duty and keeps its promise. -/
theorem ensures_script (task : Task) (idle : s.transaction t = {}) :
    task.script.Ensures e (task.Duty e) (task.Promise e) {} s := by
  have stale_error (error : LedgerError) (reply : Reply) (h : Except.error error = .ok reply) :
      reply.isFresh = false := by cases h
  have stale_ok {report : Reply} (stale : report.isFresh = false) (reply : Reply)
      (h : (.ok report : Except LedgerError Reply) = .ok reply) : reply.isFresh = false :=
    Except.ok.inj h ▸ stale
  cases task with
  | createWallet user name =>
    rw [script, operation, Ledger.createWallet]
    cases named : Ledger.walletName name with
    | error error =>
      refine Operation.ensures_map (Operation.ensures_bind (Operation.ensures_ofExcept ?_))
      simp only [Promise, named]
      exact ⟨rfl, rfl⟩
    | ok chosen =>
      refine Operation.ensures_map (Operation.ensures_bind (Operation.ensures_ofExcept ?_))
      refine Operation.ensures_ofStore (Script.ensures_ask rfl fun s₁ between =>
        ⟨⟨rfl, chosen, named, rfl⟩, ?_⟩)
      rintro now s₂ answer ⟨⟩
      simp only [Promise, named]
      exact ⟨s₁, now, rfl, rfl⟩
  | carryOut order policy context fresh =>
    rw [script, operation]
    refine Operation.ensures_map ((Order.ensures_run policy idle rfl rfl).mono (fun _ _ _ => id)
      fun result trail s settles => ⟨result, rfl, settles⟩)
  | statement wallet =>
    rw [script, operation, Ledger.statement, Ledger.existing]
    refine Operation.ensures_map (Operation.ensures_bind (Operation.ensures_bind
      (ensures_report rfl rfl fun result trail₁ s₁ unpublished => ?_)))
    rcases result with error | _ | found
    · exact ⟨unpublished, stale_error error⟩
    · exact ⟨unpublished, stale_error _⟩
    · refine Operation.ensures_bind (ensures_report rfl unpublished
        fun result trail₂ s₂ unpublished => ?_)
      cases result with
      | error error => exact ⟨unpublished, stale_error _⟩
      | ok holdings => exact ⟨unpublished, stale_ok rfl⟩
  | history wallet limit =>
    rw [script, operation, Ledger.history, Ledger.existing]
    refine Operation.ensures_map (Operation.ensures_bind (Operation.ensures_bind
      (ensures_report rfl rfl fun result trail₁ s₁ unpublished => ?_)))
    rcases result with error | _ | found
    · exact ⟨unpublished, stale_error error⟩
    · exact ⟨unpublished, stale_error _⟩
    · refine ensures_report rfl unpublished fun result trail₂ s₂ unpublished => ?_
      cases result with
      | error error => exact ⟨unpublished, stale_error _⟩
      | ok entries => exact ⟨unpublished, stale_ok rfl⟩
  | reconcile =>
    rw [script, operation, Audit.reconcile]
    refine Operation.ensures_map (Operation.ensures_bind
      (ensures_report rfl rfl fun result trail₁ s₁ unpublished => ?_))
    cases result with
    | error error => exact ⟨unpublished, stale_error _⟩
    | ok holdings =>
      refine Operation.ensures_bind (ensures_report rfl unpublished
        fun result trail₂ s₂ unpublished => ?_)
      cases result with
      | error error => exact ⟨unpublished, stale_error _⟩
      | ok totals => exact ⟨unpublished, stale_ok rfl⟩

end Task

namespace World

variable {w w' : World} {shows : Instant → Prop} {a : Action} {task : Task} {u : TransactionId}

/-- Whether a task of a number is under way or answered. -/
def Knows (w : World) (t : TransactionId) : Prop :=
  (w.running.get? t).isSome = true ∨ (w.finished.get? t).isSome = true

/-- A task that goes on was known before, or begins. -/
theorem Proceeds.knows {more : Script (Except LedgerError Reply)}
    (proceeds : w.Proceeds t a task more) :
    w.Knows t ∨ ∃ task now, a = .launch task now ∧ t = w.next := by
  cases proceeds with
  | launched _ now begins => exact Or.inr ⟨task, now, rfl, begins⟩
  | answered now running => exact Or.inl (Or.inl (by rw [running]; rfl))
  | expired now running => exact Or.inl (Or.inl (by rw [running]; rfl))

/-- A task that is known after an action was known before, or begins with it. -/
theorem Moves.knows (moves : w.Moves a w') (known : w'.Knows t) :
    w.Knows t ∨ ∃ task now, a = .launch task now ∧ t = w.next := by
  rcases known with known | known
  · obtain ⟨p, running⟩ := Option.isSome_iff_exists.1 known
    rcases moves.running_cases running with old | ⟨_, _, _, proceeds, -⟩
    · exact Or.inl (Or.inl (by rw [old]; rfl))
    · exact proceeds.knows
  · obtain ⟨f, finished⟩ := Option.isSome_iff_exists.1 known
    rcases moves.finished_cases finished with old | ⟨_, _, _, proceeds, -⟩
    · exact Or.inl (Or.inr (by rw [old]; rfl))
    · exact proceeds.knows

/-! ## What all tasks keep -/

section AllKeep

variable {P : TransactionId → Task → Trail → Call → Store → Prop}
  {Q : TransactionId → Task → Except LedgerError Reply → Trail → Store → Prop}

/-- Every task that is under way or answered keeps what tasks of its kind ensure. -/
def AllKeep (w : World) (shows : Instant → Prop)
    (P : TransactionId → Task → Trail → Call → Store → Prop)
    (Q : TransactionId → Task → Except LedgerError Reply → Trail → Store → Prop) : Prop :=
  ∀ t, w.Knows t → ∃ task, w.Keeps shows t task (P t task) (Q t task)

/-- All tasks go on keeping what their scripts ensure, whatever happens. -/
theorem AllKeep.moves (keep : w.AllKeep shows P Q) (sane : w.Sane)
    (ensures : ∀ (t : TransactionId) (task : Task) (s : Store), s.transaction t = {} →
      task.script.Ensures (.crowd shows t) (P t task) (Q t task) {} s)
    (moves : w.Moves a w') (shown : ∀ now ∈ a.time?, shows now) : w'.AllKeep shows P Q := by
  intro t known
  rcases moves.knows known with before | ⟨task, now, rfl, rfl⟩
  · obtain ⟨task, keeps⟩ := keep t before
    rcases keeps.moves sane moves shown with kept | ⟨-, idle, vacant⟩
    · exact ⟨task, kept⟩
    · simp [Knows, idle, vacant] at known
  · -- A task that begins has no transaction yet, so its script ensures what it has to.
    have idle : w.store.transaction w.next = {} :=
      Store.transaction_eq_of_gone (sane.fresh _ (Nat.le_refl _)).2.2
    cases moves with
    | idle =>
      have given := (keep _ known).elim fun _ keeps => keeps.lt_next sane
      exact absurd given (Nat.lt_irrefl _)
    | launch => exact ⟨task, keeps_resume (ensures _ task _ idle) (shown now rfl)⟩

/-- In every world that can be reached all tasks keep what their scripts ensure, as far as the clock
shows what it may. -/
theorem allKeep_run {actions : List Action}
    (ensures : ∀ (t : TransactionId) (task : Task) (s : Store), s.transaction t = {} →
      task.script.Ensures (.crowd shows t) (P t task) (Q t task) {} s)
    (shown : ∀ a ∈ actions, ∀ now ∈ a.time?, shows now) : (run actions).AllKeep shows P Q := by
  -- By induction on the actions; nobody is known at the beginning.
  induction actions using List.reverseRecOn with
  | nil => exact fun _ known => by simp [run, Knows] at known
  | append_singleton actions a ih =>
    rw [run_append_singleton]
    exact (ih fun b mem => shown b (List.mem_append_left _ mem)).moves (sane_run actions) ensures
      (moves_act _ a) (shown a (List.mem_append_right _ (List.mem_singleton_self a)))

end AllKeep

/-- Of all tasks, those of one number keep what the script of one task ensures. -/
theorem allKeep_of_ensures {actions : List Action} {P : Trail → Call → Store → Prop}
    {Q : Except LedgerError Reply → Trail → Store → Prop}
    (ensures : ∀ s : Store, s.transaction t = {} → task.script.Ensures (.crowd shows t) P Q {} s)
    (shown : ∀ a ∈ actions, ∀ now ∈ a.time?, shows now) :
    (run actions).AllKeep shows (fun u other trail c s => u = t ∧ other = task → P trail c s)
      (fun u other result trail s => u = t ∧ other = task → Q result trail s) := by
  refine allKeep_run (fun u other s idle => ?_) shown
  by_cases same : u = t ∧ other = task
  · obtain ⟨rfl, rfl⟩ := same
    exact (ensures s idle).mono (fun _ _ _ met _ => met) fun _ _ _ kept _ => kept
  · exact (Script.ensures_true _ _ _ s).mono (fun _ _ _ _ h => absurd h same)
      fun _ _ _ _ h => absurd h same

/-- A task that is answered keeps whatever its script ensures. -/
theorem exists_of_finished {actions : List Action} {f : Ending} {P : Trail → Call → Store → Prop}
    {Q : Except LedgerError Reply → Trail → Store → Prop}
    (ensures : ∀ s : Store, s.transaction t = {} →
      f.task.script.Ensures (.crowd shows t) P Q {} s)
    (shown : ∀ a ∈ actions, ∀ now ∈ a.time?, shows now)
    (done : (run actions).finished.get? t = some f) : ∃ s, Q f.result f.trail s := by
  obtain ⟨task, keeps⟩ := allKeep_of_ensures ensures shown t (Or.inr (by rw [done]; rfl))
  obtain ⟨-, same, s, kept⟩ := keeps.finished_eq (sane_run actions) done
  exact ⟨s, kept ⟨rfl, same.symm⟩⟩

/-- A task under way keeps whatever its script ensures. -/
theorem keeps_of_running {actions : List Action} {p : Process} {P : Trail → Call → Store → Prop}
    {Q : Except LedgerError Reply → Trail → Store → Prop}
    (ensures : ∀ s : Store, s.transaction t = {} →
      p.task.script.Ensures (.crowd shows t) P Q {} s)
    (shown : ∀ a ∈ actions, ∀ now ∈ a.time?, shows now)
    (running : (run actions).running.get? t = some p) :
    (run actions).Keeps shows t p.task P Q := by
  obtain ⟨task, keeps⟩ := allKeep_of_ensures ensures shown t (Or.inl (by rw [running]; rfl))
  obtain ⟨c, next, eq, holds⟩ := keeps.running_eq running
  have same : p.task = task := congrArg Process.task eq
  subst same
  refine Or.inl ⟨p.trail, c, next, ?_, holds.mono (fun _ _ _ met => met ⟨rfl, rfl⟩)
    fun _ _ _ kept => kept ⟨rfl, rfl⟩⟩
  rw [running]
  exact congrArg some eq

/-- Every task that is under way or answered keeps its duty and its promise. -/
structure Faithful (w : World) (shows : Instant → Prop) : Prop extends w.Sane where
  /-- What each task keeps. -/
  keeps : ∀ t, w.Knows t → ∃ task,
    w.Keeps shows t task (task.Duty (.crowd shows t)) (task.Promise (.crowd shows t))

/-- A world stays faithful whatever happens. -/
theorem Faithful.moves (faithful : w.Faithful shows) (moves : w.Moves a w')
    (shown : ∀ now ∈ a.time?, shows now) : w'.Faithful shows :=
  ⟨faithful.toSane.moves moves, AllKeep.moves faithful.keeps faithful.toSane
    (fun _ task _ idle => task.ensures_script idle) moves shown⟩

/-- Every world that can be reached is faithful, as far as the clock shows what it may. -/
theorem faithful_run {actions : List Action} (shown : ∀ a ∈ actions, ∀ now ∈ a.time?, shows now) :
    (run actions).Faithful shows :=
  ⟨sane_run actions, allKeep_run (fun _ task _ idle => task.ensures_script idle) shown⟩

end World

end CurrencyLedger
