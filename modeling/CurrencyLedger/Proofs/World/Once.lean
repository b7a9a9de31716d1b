import CurrencyLedger.Proofs.World.Progress

/-! # Once and no more

An order is attempted several times, and each attempt is a transaction of its own. Only the last of
them can publish anything, and then the answer says so. So whoever is told of a receipt that was not
there before has moved money once, and whoever is told anything else has moved none.

* **`Demand`**, **`Demand.operation_eq`** — what callers can ask for to move money, and the order
  that it comes down to;
* **`Trail.PublishesLast`** — the last attempt has published something, and no other;
* **`Script.Ensures.spare`** — a script that makes no call after it has published something
  publishes with its last call;
* **`World.Touches`** — an action of a task changes the books;
* **`World.Claiming`**, **`World.claiming_run`** — no reference serves two orders that were
  published;
* **`World.carryOut_once`** — what the answer to an order says of its attempts. -/

namespace CurrencyLedger

/-! ## What callers ask for -/

/-- What callers can ask for to move money: orders, and requests that are counted in minor units
first. -/
inductive Demand where
  /-- An order to move one account. -/
  | adjust (direction : Direction) (order : Adjustment)
  /-- A request to move one account. -/
  | adjustRequest (direction : Direction) (asked : Adjustment.Request)
  /-- An order to move money between two accounts. -/
  | move (order : Transfer)
  /-- A request to move money between two accounts. -/
  | moveRequest (asked : Transfer.Request)

namespace Demand

/-- What a ledger does for a demand. -/
def operation (l : Ledger) (context : Context) (fresh : Uuid) :
    Demand → Operation (Processed Order.Receipt)
  | .adjust direction order =>
    (fun p => ⟨.adjusted p.receipt, p.replayed⟩) <$> l.adjust direction order context fresh
  | .adjustRequest direction asked =>
    (fun p => ⟨.adjusted p.receipt, p.replayed⟩) <$> l.request direction asked context fresh
  | .move order => (fun p => ⟨.moved p.receipt, p.replayed⟩) <$> l.move order context fresh
  | .moveRequest asked =>
    (fun p => ⟨.moved p.receipt, p.replayed⟩) <$> l.transfer asked context fresh

/-- The order that a demand comes down to, or why it is refused. -/
def order (l : Ledger) : Demand → Except LedgerError Order
  | .adjust direction order => .ok (.adjust direction order)
  | .adjustRequest direction asked => (asked.toOrder l.scale).map (.adjust direction)
  | .move order => .ok (.move l.rates order)
  | .moveRequest asked => (asked.toOrder l.scale).map (.move l.rates)

/-- A demand is refused without a call, or its order is carried out. -/
theorem operation_eq (l : Ledger) (context : Context) (fresh : Uuid) (demand : Demand) :
    demand.operation l context fresh =
      match demand.order l with
      | .error error => throw error
      | .ok order => order.carryOut l.retry (context.ensureCorrelation fresh) := by
  cases demand with
  | adjust direction order => exact l.adjust_eq direction order context fresh
  | adjustRequest direction asked =>
    rw [operation, Ledger.request, Demand.order]
    cases asked.toOrder l.scale with
    | error error => rfl
    | ok order => exact l.adjust_eq direction order context fresh
  | move order => exact l.move_eq order context fresh
  | moveRequest asked =>
    rw [operation, Ledger.transfer, Demand.order]
    cases asked.toOrder l.scale with
    | error error => rfl
    | ok order => exact l.move_eq order context fresh

end Demand

variable {t u : TransactionId}

/-! ## Calls that publish -/

namespace Trail

variable {trail : Trail} {limit : Nat}

/-- Whether few transactions have ended, and none of the calls but the last one has published
anything. -/
structure Spare (trail : Trail) (limit : Nat) : Prop where
  /-- Few transactions have ended. -/
  few : trail.ended ≤ limit
  /-- Nothing was published before the last call. -/
  before : ∀ exchange ∈ trail.calls.tail, exchange.publishes = false

/-- Nothing at all is spare. -/
theorem spare_empty (limit : Nat) : Spare {} limit :=
  ⟨Nat.zero_le limit, fun _ mem => absurd mem List.not_mem_nil⟩

/-- Whether transactions have ended, at most so many, of which the last one has published something
and no other. -/
structure PublishesLast (trail : Trail) (limit : Nat) : Prop where
  /-- Some transaction has ended. -/
  some : 0 < trail.ended
  /-- Not too many have. -/
  few : trail.ended ≤ limit
  /-- The end of the last one has published something, the others were given up. -/
  last : ∀ n < trail.ended, ∃ exchange, trail.closing? n = Option.some exchange ∧
    (exchange.publishes = true ↔ n + 1 = trail.ended)

/-- A trail that publishes nothing before its end publishes something with the end of its last
transaction. -/
theorem Spare.publishesLast (spare : trail.Spare limit) {exchange : Exchange}
    {calls : List Exchange} (last : trail.calls = exchange :: calls)
    (ends : exchange.call.isEnd = true) (publishes : exchange.publishes = true) :
    trail.PublishesLast limit := by
  -- The transactions before the last one have ended in the trail before the last call.
  have count : trail.ended = (⟨calls, trail.stages⟩ : Trail).ended + 1 := by
    rw [ended, ended, last, List.countP_cons, if_pos ends]
  refine ⟨by omega, spare.few, fun n before => ?_⟩
  rcases Nat.lt_or_ge n (⟨calls, trail.stages⟩ : Trail).ended with earlier | late
  · have further : calls <:+ trail.calls := last ▸ List.suffix_cons exchange calls
    obtain ⟨other, closing⟩ := exists_closing? earlier
    have mem : other ∈ calls := by
      have there := List.mem_of_getElem? closing
      rw [List.mem_reverse] at there
      exact List.mem_of_mem_filter there
    have silent := spare.before other (by rw [last]; exact mem)
    have same : trail.closing? n = (⟨calls, trail.stages⟩ : Trail).closing? n :=
      closing?_of_suffix further earlier
    exact ⟨other, same.trans closing,
      ⟨fun loud => absurd (silent.symm.trans loud) Bool.false_ne_true, fun same => by omega⟩⟩
  · have same : trail.ended = n + 1 := by omega
    exact ⟨exchange, closing?_of_calls last ends same, iff_of_true publishes same.symm⟩

end Trail

/-- A script that calls only as long as nothing was published and few transactions have ended
publishes something with its last call at most. -/
theorem Script.Ensures.spare {α : Type} {e : Surroundings t} {P : Trail → Call → Store → Prop}
    {Q : α → Trail → Store → Prop} {script : Script α} {trail : Trail} {s : Store} {limit : Nat}
    (h : script.Ensures e P Q trail s)
    (duty : ∀ trail c s, P trail c s → trail.published = false ∧ trail.ended < limit)
    (now : trail.Spare limit) :
    script.Ensures e P (fun a trail s => Q a trail s ∧ trail.Spare limit) trail s := by
  induction script generalizing trail s with
  | done a => exact ⟨h, now⟩
  | call c next ih =>
    intro s' between
    obtain ⟨met, answered, expired⟩ := h s' between
    obtain ⟨unpublished, few⟩ := duty _ _ _ met
    -- One more call ends one more transaction at most, and comes after calls that were silent.
    have more (answer : Except StoreError c.Answer) : (trail.add c answer s').Spare limit := by
      refine ⟨?_, fun exchange mem => ?_⟩
      · rw [Trail.ended_add]
        split <;> omega
      · exact eq_false_of_ne_true (List.any_eq_false.1 unpublished exchange mem)
    exact ⟨met, fun time s'' answer step => ih _ (answered time s'' answer step) (more answer),
      fun account locks expires => ih _ (expired account locks expires) (more _)⟩
  | sleep ms next ih => exact ih h now
  | advance stage next ih => exact ih h ⟨now.few, now.before⟩
  | now next ih => exact fun time shows => ih time (h time shows) now

namespace World

variable {w w' : World} {shows : Instant → Prop} {a : Action}

/-! ## Actions that change the books -/

/-- Whether an action of a task changes the books after the actions before it. -/
def Touches (t : TransactionId) (before : List Action) (a : Action) : Prop :=
  a.isOf t = true ∧ (run (before ++ [a])).store.books ≠ (run before).store.books

/-- Only a step of a task publishes for it. -/
theorem Moves.published_eq (moves : w.Moves a w') :
    w'.published = w.published ∨ ∃ t now task, a = .step t now ∧
      w'.published = w.published ++ [(t, task)] := by
  cases moves with
  | idle => exact Or.inl rfl
  | launch task now => exact Or.inl published_resume
  | @answer t now task trail c next store answer running step =>
    rw [published_resume]
    cases Exchange.publishes ⟨c, answer, w.store⟩ with
    | false => exact Or.inl rfl
    | true => exact Or.inr ⟨t, now, task, rfl, rfl⟩
  | expire running locks missing => exact Or.inl published_resume
  | abandon t => exact Or.inl rfl

/-- Answers are never taken back, whatever else happens. -/
theorem finished_run_append {f : Ending} {before : List Action} (more : List Action)
    (done : (run before).finished.get? t = some f) :
    (run (before ++ more)).finished.get? t = some f := by
  induction more using List.reverseRecOn with
  | nil =>
    rw [List.append_nil]
    exact done
  | append_singleton more a ih =>
    rw [← List.append_assoc, run_append_singleton]
    exact (sane_run _).finished_moves (moves_act _ a) ih

/-- An action of a task that changes the books answers the task with something new. -/
theorem Touches.finished {before : List Action} (touches : Touches t before a) :
    (run before).finished.get? t = none ∧ ∃ task trail reply,
      (run (before ++ [a])).finished.get? t = some ⟨task, trail, .ok reply⟩ ∧
      reply.isFresh = true := by
  obtain ⟨own, books⟩ := touches
  have faithful : (run before).Faithful fun _ => True := faithful_run fun _ _ _ _ => trivial
  have moves := moves_act (run before) a
  rw [run_append_singleton] at books ⊢
  have publishes := faithful.publishes moves fun _ _ => trivial
  -- What is published is published for the task whose action it is.
  have turn {u : TransactionId} {task : Task}
      (published : ((run before).act a).published = (run before).published ++ [(u, task)]) :
      u = t := by
    rcases moves.published_eq with same | ⟨v, now, other, rfl, more⟩
    · rw [same, List.self_eq_append_right] at published
      cases published
    · rw [published] at more
      obtain ⟨rfl, -⟩ := Prod.mk.inj (List.singleton_inj.1 (List.append_cancel_left more))
      exact beq_iff_eq.1 own
  cases publishes with
  | nothing same => exact absurd same books
  | wallet u user name chosen now trail named vacant store published finished =>
    obtain rfl := turn published
    exact ⟨vacant, _, trail, _, finished, rfl⟩
  | order u order policy context fresh receipt trail straight missed ready free vacant store
      published finished =>
    obtain rfl := turn published
    exact ⟨vacant, _, trail, _, finished, rfl⟩

/-- Of the actions of a task at most one changes the books. -/
theorem Touches.unique {actions before before' after after' : List Action} {a' : Action}
    (first : actions = before ++ a :: after) (second : actions = before' ++ a' :: after')
    (touches : Touches t before a) (touches' : Touches t before' a') : before' = before := by
  -- Whichever comes first has answered the task, so the other one does not find it unanswered.
  have apart {x y : List Action} {b c : Action} {rest rest' : List Action}
      (touches : Touches t x b) (touches' : Touches t y c) (less : x.length < y.length)
      (same : x ++ b :: rest = y ++ c :: rest') : False := by
    obtain ⟨-, task, trail, reply, done, -⟩ := touches.finished
    obtain ⟨more, rfl⟩ : ∃ more, y = x ++ [b] ++ more := by
      have long : (x ++ [b]).length ≤ y.length := by simpa using Nat.succ_le_of_lt less
      have both : x ++ [b] <+: y ++ c :: rest' := ⟨rest, by rw [← same]; simp⟩
      obtain ⟨more, eq⟩ := List.prefix_of_prefix_length_le both (List.prefix_append _ _) long
      exact ⟨more, eq.symm⟩
    have vacant := touches'.finished.1
    rw [finished_run_append more done] at vacant
    cases vacant
  rcases Nat.lt_trichotomy before.length before'.length with less | equal | less
  · exact (apart touches touches' less (first.symm.trans second)).elim
  · exact List.append_inj_left (second.symm.trans first) equal.symm
  · exact (apart touches' touches less (second.symm.trans first)).elim

/-- What comes about in a run comes about by one of its actions. -/
theorem exists_turn {p : World → Prop} {actions : List Action} (start : ¬ p {})
    (ends : p (run actions)) : ∃ before a after, actions = before ++ a :: after ∧
      ¬ p (run before) ∧ p ((run before).act a) := by
  induction actions using List.reverseRecOn with
  | nil => exact absurd ends start
  | append_singleton actions a ih =>
    by_cases earlier : p (run actions)
    · obtain ⟨before, b, after, rfl, no, yes⟩ := ih earlier
      exact ⟨before, b, after ++ [a], by simp, no, yes⟩
    · rw [run_append_singleton] at ends
      exact ⟨actions, a, [], rfl, earlier, ends⟩

/-! ## References of published orders -/

/-- Whether the references of the orders that were published are written, and none of them serves
two tasks. -/
structure Claiming (w : World) : Prop where
  /-- They are written. -/
  written : ∀ t order policy context fresh,
    (t, .carryOut order policy context fresh) ∈ w.published →
    ∀ reference ∈ order.references, reference ∈ w.store.references
  /-- None serves two tasks. -/
  apart : ∀ t u order other policy policy' context context' fresh fresh',
    (t, .carryOut order policy context fresh) ∈ w.published →
    (u, .carryOut other policy' context' fresh') ∈ w.published →
    ∀ reference ∈ order.references, reference ∈ other.references → t = u

/-- No reference comes to serve two tasks as long as no order is published. -/
theorem Claiming.of_older (claiming : w.Claiming)
    (older : ∀ t order policy context fresh,
      (t, Task.carryOut order policy context fresh) ∈ w'.published →
      (t, Task.carryOut order policy context fresh) ∈ w.published)
    (same : w'.store.references = w.store.references) : w'.Claiming := by
  refine ⟨fun t order policy context fresh mem => ?_, ?_⟩
  · rw [same]
    exact claiming.written _ _ _ _ _ (older _ _ _ _ _ mem)
  · intro t u order other policy policy' context context' fresh fresh' mem mem'
    exact claiming.apart _ _ _ _ _ _ _ _ _ _ (older _ _ _ _ _ mem) (older _ _ _ _ _ mem')

/-- No reference comes to serve two tasks, whatever is published. -/
theorem Claiming.publishes (claiming : w.Claiming) (publishes : w.Publishes shows w') :
    w'.Claiming := by
  cases publishes with
  | nothing books published =>
    refine claiming.of_older (fun _ _ _ _ _ mem => published ▸ mem) ?_
    exact congrArg Store.Books.references books
  | wallet t user name chosen now trail named vacant store published finished =>
    refine claiming.of_older (fun _ _ _ _ _ mem => ?_) (by rw [store]; rfl)
    rw [published, List.mem_append, List.mem_singleton] at mem
    exact mem.resolve_right nofun
  | order t order policy context fresh receipt trail straight missed ready free vacant store
      published finished =>
    have own {r : String} (mem : r ∈ order.references) : r ∈ w.store.ownReferences t := by
      rw [ready.ownReferences_eq, List.mem_append, List.mem_singleton]
      exact (List.mem_cons.1 mem).symm
    have references : w'.store.references = w.store.ownReferences t ++ w.store.references := by
      rw [store]
      rfl
    -- An order is published by now if it was before, or if it is the one published now, whose
    -- references were free.
    have cases {u : TransactionId} {other : Order} {policy' : Retry.Policy} {context' : Context}
        {fresh' : Uuid} (mem : (u, Task.carryOut other policy' context' fresh') ∈ w'.published) :
        (u, Task.carryOut other policy' context' fresh') ∈ w.published ∨ u = t ∧ other = order := by
      rw [published, List.mem_append, List.mem_singleton] at mem
      refine mem.imp_right fun same => ?_
      cases same
      exact ⟨rfl, rfl⟩
    refine ⟨fun u other policy' context' fresh' mem r used => ?_, ?_⟩
    · rw [references, List.mem_append]
      rcases cases mem with old | ⟨-, rfl⟩
      · exact Or.inr (claiming.written _ _ _ _ _ old r used)
      · exact Or.inl (own used)
    · intro u v other another policy' policy'' context' context'' fresh' fresh'' mem mem' r used
        used'
      rcases cases mem with old | ⟨rfl, rfl⟩ <;> rcases cases mem' with old' | ⟨rfl, rfl⟩
      · exact claiming.apart _ _ _ _ _ _ _ _ _ _ old old' r used used'
      · exact absurd (claiming.written _ _ _ _ _ old r used) (free r (own used'))
      · exact absurd (claiming.written _ _ _ _ _ old' r used') (free r (own used))
      · rfl

/-- In every world that can be reached no reference serves two orders that were published. -/
theorem claiming_run (actions : List Action) : (run actions).Claiming := by
  induction actions using List.reverseRecOn with
  | nil =>
    refine ⟨fun _ _ _ _ _ mem => ?_, fun _ _ _ _ _ _ _ _ _ _ mem => ?_⟩
    · cases mem
    · cases mem
  | append_singleton actions a ih =>
    have publishes : (run actions).Publishes (fun _ => True) (run (actions ++ [a])) :=
      publishes_run fun _ _ _ _ => trivial
    exact ih.publishes publishes

/-! ## What answers say -/

/-- An order that was answered with a receipt that was not there before has published it with one of
its actions, and was answered then. -/
theorem exists_touches {actions : List Action} {order : Order} {policy : Retry.Policy}
    {context : Context} {fresh : Uuid} {trail : Trail} {receipt : Order.Receipt}
    (done : (run actions).finished.get? t =
      some ⟨.carryOut order policy context fresh, trail, .ok (.processed ⟨receipt, false⟩)⟩) :
    ∃ before a after, actions = before ++ a :: after ∧ Touches t before a ∧
      (run (before ++ [a])).finished.get? t =
        some ⟨.carryOut order policy context fresh, trail, .ok (.processed ⟨receipt, false⟩)⟩ := by
  have published := ((traced_run actions).mem_iff _ _).2 ⟨_, _, done, rfl⟩
  obtain ⟨before, a, after, rfl, old, new⟩ := exists_turn
    (p := fun w => (t, Task.carryOut order policy context fresh) ∈ w.published)
    List.not_mem_nil published
  have faithful : (run before).Faithful fun _ => True := faithful_run fun _ _ _ _ => trivial
  have moves := moves_act (run before) a
  obtain ⟨receipt', trail', -, ready, -, store, finished⟩ :=
    (faithful.publishes moves fun _ _ => trivial).order_of_mem new old
  refine ⟨before, a, after, rfl, ⟨?_, fun books => ?_⟩, ?_⟩
  · rcases moves.published_eq with same | ⟨u, now, task, rfl, more⟩
    · exact absurd (same ▸ new) old
    · rw [more, List.mem_append, List.mem_singleton] at new
      obtain ⟨rfl, -⟩ := Prod.mk.inj (new.resolve_left old)
      exact beq_self_eq_true t
  · -- The references of the order were written, so the books are others.
    rw [run_append_singleton, store] at books
    have references : (run before).store.ownReferences t ++ (run before).store.references =
        (run before).store.references := congrArg Store.Books.references books
    have none := List.self_eq_append_left.1 references.symm
    rw [ready.ownReferences_eq] at none
    simp at none
  · rw [← run_append_singleton] at finished
    have later := finished_run_append after finished
    rw [List.append_assoc, List.singleton_append, done] at later
    rw [finished, later]

/-- An order that has settled has published something iff its receipt was not there before. -/
theorem published_of_settles {e : Surroundings t} {order : Order} {context : Context}
    {result : Except LedgerError (Processed Order.Receipt)} {trail : Trail} {s : Store}
    (settles : order.Settles e context result trail s) :
    trail.published = Order.isFresh result := by
  obtain ⟨before, unpublished, ⟨-, rfl, rfl⟩ | ⟨-, concluded⟩⟩ := settles
  · exact unpublished
  · rw [concluded.published, unpublished, Bool.false_or]

/-- An order that was answered has settled, and its trail is spare. -/
theorem settles_of_finished {actions : List Action} {order : Order} {policy : Retry.Policy}
    {context : Context} {fresh : Uuid} {trail : Trail} {result : Except LedgerError Reply}
    (done : (run actions).finished.get? t =
      some ⟨.carryOut order policy context fresh, trail, result⟩) :
    trail.Spare (max 1 policy.maxAttempts) ∧
      ∃ (processed : Except LedgerError (Processed Order.Receipt)) (s : Store),
        result = processed.map Reply.processed ∧
        order.Settles (.crowd (fun _ => True) t) (context.ensureCorrelation fresh) processed trail
          s := by
  obtain ⟨s, ⟨processed, same, settles⟩, spare⟩ := exists_of_finished
    (fun s idle => ((Task.carryOut order policy context fresh).ensures_script idle).spare
      (fun _ _ _ duty => ⟨duty.1, duty.2.1⟩) (Trail.spare_empty (max 1 policy.maxAttempts)))
    (fun _ _ _ _ => trivial) done
  exact ⟨spare, processed, s, same, settles⟩

/-- An order that was published is answered with a receipt that was not there before. -/
theorem exists_receipt {actions : List Action} {order : Order} {policy : Retry.Policy}
    {context : Context} {fresh : Uuid}
    (published : (t, .carryOut order policy context fresh) ∈ (run actions).published) :
    ∃ trail receipt, (run actions).finished.get? t =
      some ⟨.carryOut order policy context fresh, trail, .ok (.processed ⟨receipt, false⟩)⟩ := by
  obtain ⟨trail, reply, done, new⟩ := ((traced_run actions).mem_iff _ _).1 published
  obtain ⟨-, processed, s, same, -⟩ := settles_of_finished done
  rcases processed with error | ⟨receipt, _ | _⟩
  · cases same
  · exact ⟨trail, receipt, done.trans (by rw [same]; rfl)⟩
  · rw [Except.ok.inj same] at new
    cases new

/-- Whatever callers ask for, in whichever form, comes down to an order that is carried out, or is
refused without a call. An order that is answered with a receipt that was not there before has
published it with the last of its attempts, and no other of its actions has changed the books. One
that is answered with an earlier receipt, or with an error, has changed nothing. And of all tasks
whose orders share a reference, at most one is answered with a receipt that was not there before. -/
theorem carryOut_once (actions : List Action) :
    (∀ (l : Ledger) (context : Context) (fresh : Uuid) (demand : Demand),
      demand.operation l context fresh =
        match demand.order l with
        | .error error => throw error
        | .ok order => order.carryOut l.retry (context.ensureCorrelation fresh)) ∧
    (∀ t order policy context fresh trail result,
      (run actions).finished.get? t =
        some ⟨.carryOut order policy context fresh, trail, result⟩ →
      (∀ receipt, result = .ok (.processed ⟨receipt, false⟩) →
        trail.PublishesLast (max 1 policy.maxAttempts) ∧
        ∃ before a after, actions = before ++ a :: after ∧ Touches t before a ∧
          (run (before ++ [a])).finished.get? t =
            some ⟨.carryOut order policy context fresh, trail, result⟩ ∧
          ∀ before' a' after', actions = before' ++ a' :: after' → Touches t before' a' →
            before' = before) ∧
      ((∀ receipt, result ≠ .ok (.processed ⟨receipt, false⟩)) →
        trail.published = false ∧
        ∀ before a after, actions = before ++ a :: after → ¬ Touches t before a)) ∧
    ∀ t u order other policy policy' context context' fresh fresh' trail trail' receipt receipt',
      (run actions).finished.get? t =
        some ⟨.carryOut order policy context fresh, trail, .ok (.processed ⟨receipt, false⟩)⟩ →
      (run actions).finished.get? u = some ⟨.carryOut other policy' context' fresh', trail',
        .ok (.processed ⟨receipt', false⟩)⟩ →
      ∀ reference ∈ order.references, reference ∈ other.references → t = u := by
  refine ⟨fun l context fresh demand => demand.operation_eq l context fresh, ?_, ?_⟩
  · intro t order policy context fresh trail result done
    obtain ⟨spare, processed, s, same, settles⟩ := settles_of_finished done
    have published := published_of_settles settles
    refine ⟨?_, fun stale => ⟨?_, ?_⟩⟩
    · rintro receipt rfl
      refine ⟨?_, ?_⟩
      · obtain ⟨before, -, ⟨-, rfl, -⟩ | ⟨-, concluded⟩⟩ := settles
        · cases same
        · obtain ⟨exchange, calls, last, -, ended⟩ := concluded.ended
          cases ended with
          | published => exact spare.publishesLast last rfl rfl
          | _ => cases same
      · obtain ⟨before, a, after, split, touches, finished⟩ := exists_touches done
        exact ⟨before, a, after, split, touches, finished, fun before' a' after' split' touches' =>
          touches.unique split split' touches'⟩
    · rw [published]
      rcases processed with error | ⟨receipt, _ | _⟩
      · rfl
      · exact absurd same (stale receipt)
      · rfl
    · rintro before a after rfl touches
      obtain ⟨-, task, trail', reply, finished, new⟩ := touches.finished
      have later := finished_run_append after finished
      rw [List.append_assoc, List.singleton_append, done] at later
      cases later
      rcases processed with error | ⟨receipt, _ | _⟩
      · cases same
      · exact absurd same (stale receipt)
      · rw [Except.ok.inj same] at new
        cases new
  · intro t u order other policy policy' context context' fresh fresh' trail trail' receipt receipt'
      done done' reference used used'
    have traced := traced_run actions
    exact (claiming_run actions).apart _ _ _ _ _ _ _ _ _ _
      ((traced.mem_iff _ _).2 ⟨_, _, done, rfl⟩) ((traced.mem_iff _ _).2 ⟨_, _, done', rfl⟩)
      reference used used'

/-- A withdrawal that waits in vain for a transfer, which is given up then, and that is attempted
again. -/
def Sample.contended : List Action :=
  Sample.opening ++
    [.launch (Sample.once Sample.transfer 8) (.ofMillis 3),
      .launch (.carryOut Sample.withdrawal {} {} ⟨9⟩) (.ofMillis 4)] ++
    Sample.steps 3 5 ++ Sample.steps 4 2 ++ [.expire 4 (.ofMillis 5)] ++ Sample.steps 4 1 ++
    [.abandon 3] ++ Sample.steps 4 8

/-- The withdrawal is answered with its receipt after two attempts, of which the first one has
published nothing. -/
theorem carryOut_once_contended : ∃ trail receipt,
    (run Sample.contended).finished.get? 4 =
        some ⟨.carryOut Sample.withdrawal {} {} ⟨9⟩, trail, .ok (.processed ⟨receipt, false⟩)⟩ ∧
      trail.ended = 2 ∧ trail.PublishesLast 3 ∧
      (∃ before a after, Sample.contended = before ++ a :: after ∧ Touches 4 before a) := by
  have published : (4, .carryOut Sample.withdrawal {} {} ⟨9⟩) ∈
      (run Sample.contended).published := by decide +kernel
  have twice : ((run Sample.contended).finished.get? 4).map (·.trail.ended) = some 2 := by
    decide +kernel
  obtain ⟨trail, receipt, done⟩ := exists_receipt published
  rw [done] at twice
  obtain ⟨last, before, a, after, split, touches, -⟩ :=
    ((carryOut_once Sample.contended).2.1 _ _ _ _ _ _ _ done).1 receipt rfl
  exact ⟨trail, receipt, done, Option.some.inj twice, last, before, a, after, split, touches⟩

end World

end CurrencyLedger
