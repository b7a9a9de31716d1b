import CurrencyLedger.Proofs.Order.Stages
import CurrencyLedger.Proofs.World.Once
import CurrencyLedger.Proofs.World.Written

/-! # Transfers by their stages

However many tasks are under way, every attempt of a transfer tells its stages in order up to its
end, and where it is given up tells why.

* **`World.fair_run`** — in every world that can be reached balances can be counted and entries can
  be read;
* **`World.Saw`**, **`World.saw_run`** — so they could whenever a task made a call;
* **`Script.Ensures.exists_end`** — whatever is under way may come to an end;
* **`World.follows_stages`** — stages, results and what is published belong together. -/

namespace CurrencyLedger

variable {t : TransactionId} {s : Store}

/-- Balanced books with entries that can be read are fair. -/
theorem Store.Balanced.fair (balanced : s.Balanced)
    (legible : ∀ entry ∈ s.entries, entry.Legible) : s.Fair :=
  ⟨fun account => (balanced.amount_bounds account).1,
    fun account => (balanced.amount_bounds account).2, legible⟩

/-- A script that is under way may come to an end, and tells more stages until then. -/
theorem Script.Ensures.exists_end {α : Type} {shows : Instant → Prop}
    {P : Trail → Call → Store → Prop} {Q : α → Trail → Store → Prop} {script : Script α}
    {trail : Trail} {s : Store} (h : script.Ensures (.crowd shows t) P Q trail s) (sound : s.Sound)
    (now : Instant) (shown : shows now) :
    ∃ a trail' s', Q a trail' s' ∧ trail.stages <:+ trail'.stages := by
  induction script generalizing trail s with
  | done a => exact ⟨a, trail, s, h, List.suffix_rfl⟩
  | call c next ih =>
    obtain ⟨-, answered, expired⟩ := h s (.refl sound)
    by_cases locked : ∀ account, c.locks? = some account → account ∈ (s.transaction t).held
    · obtain ⟨s', answer, step⟩ := sound.answered now locked
      obtain ⟨a, trail', s'', kept, more⟩ :=
        ih answer (answered now s' answer step) (sound.step step)
      exact ⟨a, trail', s'', kept, more⟩
    · -- A lock that is not held may be waited for in vain.
      push Not at locked
      obtain ⟨account, locks, missing⟩ := locked
      obtain ⟨a, trail', s', kept, more⟩ := ih _ (expired account locks missing) sound
      exact ⟨a, trail', s', kept, more⟩
  | sleep ms next ih => exact ih h sound
  | advance stage next ih =>
    obtain ⟨a, trail', s', kept, more⟩ := ih h sound
    exact ⟨a, trail', s', kept, (List.suffix_cons stage trail.stages).trans more⟩
  | now next ih => exact ih now (h now shown) sound

namespace World

variable {w w' : World} {a : Action} {actions : List Action} {I : Store → Prop}

/-! ## What the calls of tasks have met -/

/-- Whatever an action publishes, all entries can be read. -/
theorem Publishes.legible (publishes : w.Publishes Datable w') (countable : w'.Countable)
    (legible : ∀ entry ∈ w.store.entries, entry.Legible) :
    ∀ entry ∈ w'.store.entries, entry.Legible := by
  cases publishes with
  | nothing books published =>
    have same : w'.store.entries = w.store.entries := congrArg Store.Books.entries books
    rw [same]
    exact legible
  | wallet t user name chosen now trail named vacant store published finished =>
    rw [store]
    exact legible
  | order t order policy context fresh receipt trail straight missed ready free vacant store
      published finished =>
    have new : (t, Task.carryOut order policy context fresh) ∈ w'.published := by
      rw [published]
      exact List.mem_append_right _ (List.mem_singleton_self _)
    obtain ⟨counted, user⟩ := countable t order policy context fresh new
    rw [store]
    exact ready.legible legible counted user fun _ => id

/-- In every world that can be reached balances can be counted and entries can be read. -/
theorem fair_run (dated : ∀ a ∈ actions, ∀ now ∈ a.time?, Datable now)
    (countable : (run actions).Countable) : (run actions).store.Fair := by
  refine (balanced_run actions).fair ?_
  induction actions using List.reverseRecOn with
  | nil => exact fun entry mem => absurd mem List.not_mem_nil
  | append_singleton actions a ih =>
    have publishes := publishes_run dated
    exact publishes.legible countable (ih (fun b mem => dated b (List.mem_append_left _ mem))
      (countable.of_publishes publishes))

/-- Whether something held of the store whenever a task made a call. -/
structure Saw (w : World) (I : Store → Prop) : Prop where
  /-- Tasks under way. -/
  running : ∀ t p, w.running.get? t = some p → ∀ exchange ∈ p.trail.calls, I exchange.store
  /-- Tasks that are answered. -/
  finished : ∀ t f, w.finished.get? t = some f → ∀ exchange ∈ f.trail.calls, I exchange.store

/-- It has still held when a task has gone on by itself. -/
theorem Saw.resume {task : Task} {now : Instant} {rest : Script (Except LedgerError Reply)}
    {trail : Trail} (saw : w.Saw I) (met : ∀ exchange ∈ trail.calls, I exchange.store) :
    (w.resume t task now rest trail).Saw I := by
  have met : ∀ exchange ∈ (rest.settle now trail).2.calls, I exchange.store := by
    rw [Script.calls_settle]
    exact met
  rcases w.resume_cases t task now rest trail with ⟨result, -, eq⟩ | ⟨c, next, -, eq⟩ <;> rw [eq]
  · refine ⟨fun u p running => ?_, fun u f finished => ?_⟩
    · rw [Table.get?_erase] at running
      split at running
      · cases running
      · exact saw.running u p running
    · rw [Table.get?_insert] at finished
      split at finished
      · cases finished
        exact met
      · exact saw.finished u f finished
  · refine ⟨fun u p running => ?_, saw.finished⟩
    rw [Table.get?_insert] at running
    split at running
    · cases running
      exact met
    · exact saw.running u p running

/-- It has still held after an action if it held before it. -/
theorem Saw.moves (saw : w.Saw I) (here : I w.store) (moves : w.Moves a w') : w'.Saw I := by
  have more {trail : Trail} (met : ∀ exchange ∈ trail.calls, I exchange.store) (c : Call)
      (answer : Except StoreError c.Answer) :
      ∀ exchange ∈ (trail.add c answer w.store).calls, I exchange.store := by
    intro exchange mem
    rcases List.mem_cons.1 mem with rfl | mem
    · exact here
    · exact met exchange mem
  cases moves with
  | idle => exact saw
  | launch task now =>
    exact Saw.resume ⟨saw.running, saw.finished⟩ fun _ mem => absurd mem List.not_mem_nil
  | answer running step =>
    exact Saw.resume ⟨saw.running, saw.finished⟩ (more (saw.running _ _ running) _ _)
  | expire running locks missing => exact saw.resume (more (saw.running _ _ running) _ _)
  | abandon u =>
    refine ⟨fun v p running => ?_, saw.finished⟩
    have left : (w.running.erase u).get? v = some p := running
    rw [Table.get?_erase] at left
    split at left
    · cases left
    · exact saw.running v p left

/-- Whenever a task has made a call, balances could be counted and entries could be read. -/
theorem saw_run (dated : ∀ a ∈ actions, ∀ now ∈ a.time?, Datable now)
    (countable : (run actions).Countable) : (run actions).Saw Store.Fair := by
  induction actions using List.reverseRecOn with
  | nil =>
    constructor
    · intro t p running
      cases running
    · intro t f finished
      cases finished
  | append_singleton actions a ih =>
    have before := fun b mem => dated b (List.mem_append_left _ mem)
    have countable := countable.of_publishes (publishes_run dated)
    rw [run_append_singleton]
    exact (ih before countable).moves (fair_run before countable) (moves_act _ a)

/-! ## The stages of transfers -/

section Transfers

open Transfer (Stage Follows)

variable {rates : Rates} {order : Transfer} {policy : Retry.Policy} {context : Context}
  {fresh : Uuid} {trail : Trail}

/-- What the attempts of a transfer tell that is carried out as a task. -/
theorem ensures_tries (idle : s.transaction t = {}) :
    (Task.carryOut (.move rates order) policy context fresh).script.Ensures
      (.crowd (fun _ => True) t) (fun _ _ _ => True) (fun result trail _ =>
        ∃ processed failed last, result = processed.map Reply.processed ∧
          order.Tries t rates (max 1 policy.maxAttempts) trail processed failed last) {} s := by
  refine Operation.ensures_map ((Transfer.ensures_run policy idle).mono (fun _ _ _ => id) ?_)
  rintro result trail s ⟨failed, last, tries⟩
  exact ⟨result, failed, last, rfl, tries⟩

/-- The stages that a transfer has told before it is answered are the beginning of those of some
attempts that are given up, and of a last one. -/
theorem stages_of_running {rest : Script (Except LedgerError Reply)}
    (running : (run actions).running.get? t =
      some ⟨.carryOut (.move rates order) policy context fresh, trail, rest⟩) :
    ∃ (failed : List (List Stage)) (last : List Stage),
      trail.stages.reverse <+: failed.flatten ++ last ∧ (∀ stages ∈ failed, Stage.Aborted stages) ∧
      (last = [] ∨ last = Stage.chain ++ [.committed] ∨ Stage.Aborted last) := by
  have keeps := keeps_of_running (fun s idle => ensures_tries idle) (fun _ _ _ _ => trivial) running
  obtain ⟨c, next, -, ensures⟩ := keeps.running_eq running
  -- It may come to an end from here, and then it has told all.
  obtain ⟨result, trail', s', ⟨processed, failed, last, -, tries⟩, more⟩ :=
    ensures.exists_end (sane_run actions).sound (.ofMillis 0) trivial
  refine ⟨failed.map Prod.fst, last, ?_, fun stages mem => ?_, tries.ends.stages_cases⟩
  · rw [← tries.told]
    exact List.reverse_prefix.2 more
  · obtain ⟨⟨_, error⟩, tried, rfl⟩ := List.mem_map.1 mem
    obtain ⟨n, there⟩ := List.mem_iff_getElem?.1 tried
    obtain ⟨retryable, goes⟩ := tries.fail n _ error there
    exact goes.aborted retryable

/-- Whatever tasks are under way, a transfer that is answered was attempted some times, at most as
often as its policy allows, and has told the stages of its attempts one after another. Each of them
has followed its stages: all but the last one to an error that is worth another attempt, and the last
one to the answer. A transfer whose answer is a receipt that was not there before is one of the tasks
that have published something, and no other transfer is. While a transfer is under way it has told
the beginning of such stages. -/
theorem follows_stages (actions : List Action)
    (dated : ∀ a ∈ actions, ∀ now ∈ a.time?, Datable now) (countable : (run actions).Countable) :
    (∀ t rates order policy context fresh trail result,
      (run actions).finished.get? t =
        some ⟨.carryOut (.move rates order) policy context fresh, trail, result⟩ →
      ∃ (failed : List (List Stage × LedgerError)) (last : List Stage)
        (processed : Except LedgerError (Processed Order.Receipt)),
        result = processed.map Reply.processed ∧
        failed.length < max 1 policy.maxAttempts ∧
        trail.stages.reverse = (failed.map Prod.fst).flatten ++ last ∧
        (∀ n stages error, failed[n]? = some (stages, error) →
          error.isRetryable = true ∧ Follows stages (.error error)
            (∃ exchange, trail.closing? n = some exchange ∧ exchange.publishes = true)) ∧
        Follows last processed (∃ exchange, trail.closing? failed.length = some exchange ∧
          exchange.publishes = true) ∧
        ((t, .carryOut (.move rates order) policy context fresh) ∈ (run actions).published ↔
          ∃ receipt, processed = .ok ⟨receipt, false⟩)) ∧
    ∀ t rates order policy context fresh trail rest,
      (run actions).running.get? t =
        some ⟨.carryOut (.move rates order) policy context fresh, trail, rest⟩ →
      ∃ (failed : List (List Stage)) (last : List Stage),
        trail.stages.reverse <+: failed.flatten ++ last ∧
        (∀ stages ∈ failed, Stage.Aborted stages) ∧
        (last = [] ∨ last = Stage.chain ++ [.committed] ∨ Stage.Aborted last) := by
  refine ⟨fun t rates order policy context fresh trail result done => ?_,
    fun _ _ _ _ _ _ _ _ => stages_of_running⟩
  obtain ⟨s, processed, failed, last, rfl, tries⟩ :=
    exists_of_finished (fun s idle => ensures_tries idle) (fun _ _ _ _ => trivial) done
  -- Whatever ended an attempt was one of the calls, so balances and entries were in order then.
  have fair (n : Nat) (exchange : Exchange) (closing : trail.closing? n = some exchange) :
      exchange.store.Fair := by
    have mem := List.mem_of_getElem? closing
    rw [List.mem_reverse] at mem
    exact (saw_run dated countable).finished t _ done exchange (List.mem_of_mem_filter mem)
  refine ⟨failed, last, processed, rfl, tries.few, tries.told, fun n stages error there => ?_,
    tries.ends.follows (fair _), ?_⟩
  · obtain ⟨retryable, goes⟩ := tries.fail n stages error there
    exact ⟨retryable, goes.follows (fair n)⟩
  · rw [(traced_run actions).mem_iff]
    constructor
    · rintro ⟨_, reply, same, new⟩
      rw [done] at same
      rcases processed with error | ⟨receipt, _ | _⟩
      · cases same
      · exact ⟨receipt, rfl⟩
      · cases same
        cases new
    · rintro ⟨receipt, rfl⟩
      exact ⟨trail, _, done, rfl⟩

/-- The transfer waits in vain for a withdrawal, which is given up then, and is attempted again. -/
def Sample.retried : List Action :=
  Sample.opening ++
    [.launch (Sample.once Sample.withdrawal 8) (.ofMillis 3),
      .launch (.carryOut Sample.transfer {} {} ⟨9⟩) (.ofMillis 4)] ++
    Sample.steps 3 3 ++ Sample.steps 4 4 ++ [.expire 4 (.ofMillis 5)] ++ Sample.steps 4 1 ++
    [.abandon 3] ++ Sample.steps 4 14

/-- In that run the deposit was published, and then the transfer. -/
theorem Sample.published_retried : (run retried).published =
    [(1, .createWallet ⟨2⟩ ""), (0, .createWallet ⟨1⟩ ""), (2, once deposit 7),
      (4, .carryOut transfer {} {} ⟨9⟩)] := by
  decide +kernel

/-- Wallets and users of that run have numbers of 64 bits. -/
theorem Sample.countable_retried : (run retried).Countable := by
  intro t order policy context fresh mem
  rw [published_retried] at mem
  simp only [once, List.mem_cons, Prod.mk.injEq, reduceCtorEq, and_false, List.not_mem_nil,
    or_false, false_or, Task.carryOut.injEq] at mem
  rcases mem with ⟨-, rfl, -, rfl, -⟩ | ⟨-, rfl, -, rfl, -⟩
  · exact ⟨(by decide : ∀ account ∈ deposit.accounts, _), fun n user => by cases user⟩
  · exact ⟨(by decide : ∀ account ∈ transfer.accounts, _), fun n user => by cases user⟩

/-- The transfer is given up once after the references were looked up, and committed then. -/
theorem follows_stages_retried :
    (∀ a ∈ Sample.retried, ∀ now ∈ a.time?, Datable now) ∧ (run Sample.retried).Countable ∧
    ∃ trail receipt, (run Sample.retried).finished.get? 4 =
        some ⟨.carryOut Sample.transfer {} {} ⟨9⟩, trail, .ok (.processed ⟨receipt, false⟩)⟩ ∧
      ∃ failed : List (List Stage × LedgerError), failed.length < 3 ∧
        (failed.map Prod.fst).flatten = [.idempotencyChecked, .aborted] ∧
        trail.stages.reverse = (failed.map Prod.fst).flatten ++ (Stage.chain ++ [.committed]) ∧
        ∃ exchange, trail.closing? failed.length = some exchange ∧ exchange.publishes = true := by
  have dated : ∀ a ∈ Sample.retried, ∀ now ∈ a.time?, Datable now := by
    show ∀ a ∈ Sample.retried, ∀ now ∈ a.time?, Instant.isYear (Instant.civil now.day).year = true
    decide +kernel
  have published : (4, .carryOut Sample.transfer {} {} ⟨9⟩) ∈ (run Sample.retried).published := by
    rw [Sample.published_retried]
    simp
  have told : ((run Sample.retried).finished.get? 4).map (·.trail.stages.reverse) =
      some (.idempotencyChecked :: .aborted :: (Stage.chain ++ [.committed])) := by
    decide +kernel
  obtain ⟨trail, receipt, done⟩ := exists_receipt published
  rw [done] at told
  obtain ⟨failed, last, processed, same, few, stages, -, follows, -⟩ :=
    (follows_stages Sample.retried dated Sample.countable_retried).1 _ _ _ _ _ _ _ _ done
  have fresh : ∃ receipt, processed = .ok ⟨receipt, false⟩ := by
    rcases processed with error | ⟨receipt, _ | _⟩
    · cases same
    · exact ⟨receipt, rfl⟩
    · cases same
  rw [follows.whole.2 fresh] at stages
  refine ⟨dated, Sample.countable_retried, trail, receipt, done, failed, few, ?_, stages,
    follows.published.2 fresh⟩
  exact List.append_cancel_right (stages.symm.trans (Option.some.inj told))

end Transfers

end World

end CurrencyLedger
