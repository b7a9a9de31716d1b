import CurrencyLedger.Proofs.World.Task

/-! # What is published

* **`Store.books_eq_of_step`** — a call that publishes nothing leaves the books alone;
* **`World.Publishes`**, **`World.Faithful.publishes`** — an action publishes nothing, a wallet, or
  an order that is ready, and then the task is answered with what was published;
* **`World.Traced`**, **`World.traced_run`** — the tasks that have published are those that were
  answered with something new. -/

namespace CurrencyLedger

variable {t : TransactionId} {s s' : Store}

/-- A call that publishes nothing leaves the books alone. -/
theorem Store.books_eq_of_step {now : Instant} {c : Call} {answer : Except StoreError c.Answer}
    (step : s.step t now c = .answered s' answer)
    (silent : Exchange.publishes ⟨c, answer, s⟩ = false) : s'.books = s.books := by
  cases c with
  | begin => cases step; rfl
  | createWallet user name => cases step; cases silent
  | findWallet wallet => cases step; rfl
  | holdings wallet => cases step; rfl
  | allHoldings => cases step; rfl
  | entries wallet limit => cases step; rfl
  | totals => cases step; rfl
  | lock account =>
    obtain ⟨-, rfl, -⟩ := lock_eq_answered step
    rfl
  | create account initial =>
    rcases create_eq_answered step with ⟨-, rfl, -⟩ | ⟨-, -, ⟨-, rfl, -⟩ | ⟨-, rfl, -⟩⟩ <;> rfl
  | apply account delta =>
    cases step
    rcases apply_cases s t account delta with ⟨e, h⟩ | ⟨_, _, -, -, -, h⟩
    · rw [h]
    · rw [h]
      rfl
  | find reference => cases step; rfl
  | append posting =>
    cases step
    rcases append_cases s t now posting with ⟨-, h⟩ | ⟨_, -, -, h⟩ | ⟨-, h⟩
    · rw [h]
    · rw [h]
    · rw [h]
      rfl
  | commit =>
    cases step
    rcases commit_cases s t with ⟨_, -, -, h⟩ | ⟨-, h⟩
    · rw [h]
      rfl
    · rw [h] at silent
      cases silent
  | rollback => cases step; rfl

/-- A script that settles makes no calls. -/
@[simp] theorem Script.calls_settle {α : Type} (now : Instant) (script : Script α) (trail : Trail) :
    (script.settle now trail).2.calls = trail.calls := by
  induction script generalizing trail with
  | done a => rfl
  | call c next => rfl
  | sleep ms next ih => exact ih trail
  | advance stage next ih => exact ih (trail.reach stage)
  | now next ih => exact ih now trail

/-- A script that settles publishes nothing. -/
@[simp] theorem Script.published_settle {α : Type} (now : Instant) (script : Script α)
    (trail : Trail) : (script.settle now trail).2.published = trail.published := by
  rw [Trail.published, calls_settle]
  rfl

namespace Task

variable {e : Surroundings t} {trail : Trail} {task : Task}

/-- Only tasks that have published nothing make calls. -/
theorem Duty.unpublished {c : Call} (duty : task.Duty e trail c s) : trail.published = false := by
  cases task with
  | createWallet user name =>
    obtain ⟨rfl, -⟩ := duty
    rfl
  | carryOut order policy context fresh => exact duty.1
  | statement wallet => exact duty.1
  | history wallet limit => exact duty.1
  | reconcile => exact duty.1

/-- A task is answered with something new iff it has published something. -/
theorem Promise.isFresh_eq {reply : Reply} (promise : task.Promise e (.ok reply) trail s) :
    reply.isFresh = trail.published := by
  cases task with
  | createWallet user name =>
    cases named : Ledger.walletName name with
    | error error =>
      simp only [Promise, named] at promise
      cases promise.1
    | ok chosen =>
      simp only [Promise, named] at promise
      obtain ⟨_, _, same, calls⟩ := promise
      rw [Except.ok.inj same, Trail.published, calls]
      rfl
  | carryOut order policy context fresh =>
    obtain ⟨processed, same, before, unpublished, ⟨-, refused, -⟩ | ⟨-, concluded⟩⟩ := promise
    · rw [refused] at same
      cases same
    · have published := concluded.published
      rw [unpublished, Bool.false_or] at published
      rw [published]
      cases processed with
      | error error => cases same
      | ok processed =>
        rw [Except.ok.inj same]
        rfl
  | statement wallet => exact (promise.2 reply rfl).trans promise.1.symm
  | history wallet limit => exact (promise.2 reply rfl).trans promise.1.symm
  | reconcile => exact (promise.2 reply rfl).trans promise.1.symm

end Task

namespace World

variable {w w' : World} {shows : Instant → Prop} {a : Action}

/-- What an action publishes. -/
inductive Publishes (shows : Instant → Prop) (w w' : World) : Prop where
  /-- Nothing. -/
  | nothing (books : w'.store.books = w.store.books) (published : w'.published = w.published)
  /-- A wallet, which the task is answered with. -/
  | wallet (t : TransactionId) (user : UserId) (name chosen : String) (now : Instant) (trail : Trail)
      (named : Ledger.walletName name = .ok chosen) (vacant : w.finished.get? t = none)
      (store : w'.store = (w.store.createWallet now user chosen).1)
      (published : w'.published = w.published ++ [(t, .createWallet user name)])
      (finished : w'.finished.get? t = some ⟨.createWallet user name, trail,
        .ok (.wallet (w.store.createWallet now user chosen).2)⟩)
  /-- Everything that belongs to an order, whose receipt the task is answered with. -/
  | order (t : TransactionId) (order : Order) (policy : Retry.Policy) (context : Context)
      (fresh : Uuid) (receipt : Order.Receipt) (trail : Trail) (straight : order.isCircular = false)
      (missed : ∀ r ∈ order.references, (Surroundings.crowd shows t).Missed r)
      (ready : order.Ready (.crowd shows t) (context.ensureCorrelation fresh) receipt w.store)
      (free : ∀ reference ∈ w.store.ownReferences t, reference ∉ w.store.references)
      (vacant : w.finished.get? t = none) (store : w'.store = w.store.publish t)
      (published : w'.published = w.published ++ [(t, .carryOut order policy context fresh)])
      (finished : w'.finished.get? t = some ⟨.carryOut order policy context fresh, trail,
        .ok (.processed ⟨receipt, false⟩)⟩)

/-- A task that has just published something is answered. -/
theorem finished_resume_of_published {task : Task} {now : Instant}
    {rest : Script (Except LedgerError Reply)} {trail : Trail} (sound : w.store.Sound)
    (ensures : rest.Ensures (.crowd shows t) (task.Duty (.crowd shows t))
      (task.Promise (.crowd shows t)) trail w.store)
    (shown : shows now) (published : trail.published = true) :
    ∃ result trail', (w.resume t task now rest trail).finished.get? t =
        some ⟨task, trail', result⟩ ∧ trail'.calls = trail.calls ∧
      task.Promise (.crowd shows t) result trail' w.store := by
  have settled := ensures.settle now shown
  rcases w.resume_cases t task now rest trail with ⟨result, h, eq⟩ | ⟨c, next, h, eq⟩
  · rw [h] at settled
    rw [eq]
    exact ⟨result, _, Table.get?_insert_self _ t _, Script.calls_settle now rest trail, settled⟩
  · -- A next call would have to come from a task that has published nothing.
    rw [h] at settled
    have unpublished := (settled w.store (.refl sound)).1.unpublished
    rw [Script.published_settle, published] at unpublished
    cases unpublished

/-- An order whose last call has published something was ready, and is answered with its receipt. -/
theorem receipt_of_settles {order : Order} {context : Context} {trail : Trail} {s s' : Store}
    {calls : List Exchange} {result : Except LedgerError (Processed Order.Receipt)}
    (settles : order.Settles (.crowd shows t) context result trail s')
    (last : trail.calls = ⟨.commit, .ok (), s⟩ :: calls) :
    ∃ receipt, result = .ok ⟨receipt, false⟩ ∧ order.isCircular = false ∧
      (∀ r ∈ order.references, (Surroundings.crowd shows t).Missed r) ∧
      order.Ready (.crowd shows t) context receipt s := by
  have published : trail.published = true := by rw [Trail.published, last]; rfl
  obtain ⟨before, unpublished, ⟨-, -, same⟩ | ⟨straight, concluded⟩⟩ := settles
  · rw [same, unpublished] at published
    cases published
  · obtain ⟨exchange, calls', eq, meets, ended⟩ := concluded.ended
    rw [last] at eq
    obtain ⟨rfl, -⟩ := List.cons.inj eq
    cases ended with
    | published _ receipt worked free =>
      cases worked with
      | applied _ missed ready => exact ⟨receipt, rfl, straight, missed, ready⟩

/-- Every action publishes one of these. -/
theorem Faithful.publishes (faithful : w.Faithful shows) (moves : w.Moves a w')
    (shown : ∀ now ∈ a.time?, shows now) : w.Publishes shows w' := by
  cases moves with
  | idle => exact .nothing rfl rfl
  | launch task now => exact .nothing (by rw [store_resume]) (by rw [published_resume])
  | @expire t now task trail c next account running locks missing =>
    exact .nothing (by rw [store_resume]) (by rw [published_resume])
  | abandon t => exact .nothing rfl rfl
  | @answer t now task trail c next store answer running step =>
    have told : shows now := shown now rfl
    have sound := faithful.sound
    have vacant : w.finished.get? t = none := faithful.apart t (by rw [running]; rfl)
    -- The task has done its duty up to this call, and goes on to keep its promise.
    obtain ⟨task, keeps⟩ := faithful.keeps t (Or.inl (by rw [running]; rfl))
    obtain ⟨c, next, eq, ensures⟩ := keeps.running_eq running
    cases eq
    obtain ⟨duty, answered, -⟩ := ensures w.store (.refl sound)
    have goes_on := answered now store answer step
    cases publishes : Exchange.publishes ⟨c, answer, w.store⟩ with
    | false =>
      refine .nothing ?_ ?_
      · rw [store_resume]
        exact Store.books_eq_of_step step publishes
      · rw [published_resume]
        rfl
    | true =>
      have published : (trail.add c answer w.store).published = true := by
        rw [Trail.published_add, publishes, Bool.true_or]
      -- A task that has published something makes no more calls, so it is answered at once.
      obtain ⟨result, trail', finished, last, promise⟩ := finished_resume_of_published
        (w := { w with store := store, published := w.published ++ [(t, task)] }) (sound.step step)
        goes_on told published
      cases task with
      | createWallet user name =>
        obtain ⟨-, chosen, named, rfl⟩ := duty
        cases step
        simp only [Task.Promise, named] at promise
        obtain ⟨s, now', rfl, calls⟩ := promise
        rw [last] at calls
        obtain ⟨-, same, -⟩ := Exchange.mk.inj (List.cons.inj calls).1
        rw [← Except.ok.inj (eq_of_heq same)] at finished
        refine .wallet t user name chosen now trail' named vacant ?_ ?_ finished
        · rw [store_resume]
        · rw [published_resume]
          rfl
      | carryOut order policy context fresh =>
        obtain ⟨processed, rfl, settles⟩ := promise
        obtain ⟨-, -, allowed⟩ := duty
        cases c with
        | commit =>
          have committed : w.store.commit t = (store, answer) := by
            cases step
            rfl
          rcases Store.commit_cases w.store t with ⟨reference, -, -, h⟩ | ⟨free, h⟩
          · rw [h] at committed
            cases committed
            cases publishes
          · rw [h] at committed
            cases committed
            obtain ⟨receipt, rfl, straight, missed, ready⟩ := receipt_of_settles settles last
            refine .order t order policy context fresh receipt trail' straight missed ready free
              vacant ?_ ?_ finished
            · rw [store_resume]
            · rw [published_resume]
              rfl
        | createWallet user name => exact absurd allowed id
        | _ => cases publishes
      | statement wallet =>
        rw [Call.publishes_eq_false duty.2] at publishes
        cases publishes
      | history wallet limit =>
        rw [Call.publishes_eq_false duty.2] at publishes
        cases publishes
      | reconcile =>
        rw [Call.publishes_eq_false duty.2] at publishes
        cases publishes

/-- The last action of a run publishes one of these, as far as the clock shows what it may. -/
theorem publishes_run {actions : List Action}
    (shown : ∀ b ∈ actions ++ [a], ∀ now ∈ b.time?, shows now) :
    (run actions).Publishes shows (run (actions ++ [a])) := by
  have faithful : (run actions).Faithful shows :=
    faithful_run fun b mem => shown b (List.mem_append_left _ mem)
  rw [run_append_singleton]
  exact faithful.publishes (moves_act _ a)
    (shown a (List.mem_append_right _ (List.mem_singleton_self a)))

/-! ## Who has published -/

/-- The tasks that have published something are those that were answered with something new, and
each has published once. -/
structure Traced (w : World) : Prop where
  /-- Those that were answered with something new. -/
  mem_iff : ∀ t task, (t, task) ∈ w.published ↔ ∃ trail reply,
    w.finished.get? t = some ⟨task, trail, .ok reply⟩ ∧ reply.isFresh = true
  /-- Each once. -/
  once : (w.published.map Prod.fst).Nodup

/-- Answers are never taken back. -/
theorem Sane.finished_moves {f : Ending} (sane : w.Sane) (moves : w.Moves a w')
    (done : w.finished.get? t = some f) : w'.finished.get? t = some f := by
  have given : t < w.next := by
    by_contra h
    rw [(sane.fresh t (Nat.le_of_not_lt h)).2.1] at done
    cases done
  have idle {u : TransactionId} {p : Process} (running : w.running.get? u = some p) : t ≠ u := by
    rintro rfl
    rw [sane.apart t (by rw [running]; rfl)] at done
    cases done
  cases moves with
  | idle => exact done
  | launch task now =>
    rw [finished_resume_of_ne (Nat.ne_of_lt given)]
    exact done
  | answer running step =>
    rw [finished_resume_of_ne (idle running)]
    exact done
  | expire running locks missing =>
    rw [finished_resume_of_ne (idle running)]
    exact done
  | abandon u => exact done

/-- The answer of a task that has just gone on has its calls. -/
theorem finished_resume_self {task : Task} {now : Instant}
    {rest : Script (Except LedgerError Reply)} {trail : Trail} {f : Ending}
    (vacant : w.finished.get? t = none)
    (done : (w.resume t task now rest trail).finished.get? t = some f) :
    f.task = task ∧ f.trail.published = trail.published := by
  rcases w.resume_cases t task now rest trail with ⟨result, -, eq⟩ | ⟨c, next, -, eq⟩
  · rw [eq] at done
    obtain rfl := Option.some.inj ((Table.get?_insert_self w.finished t _).symm.trans done)
    exact ⟨rfl, Script.published_settle now rest trail⟩
  · rw [eq] at done
    exact absurd (vacant.symm.trans done) (by simp)

/-- An action publishes for one task at most, and then for one that was not answered before. -/
theorem Publishes.published_eq (publishes : w.Publishes shows w') :
    w'.published = w.published ∨ ∃ t task trail reply, w.finished.get? t = none ∧
      w'.published = w.published ++ [(t, task)] ∧
      w'.finished.get? t = some ⟨task, trail, .ok reply⟩ ∧ reply.isFresh = true := by
  cases publishes with
  | nothing books published => exact Or.inl published
  | wallet t user name chosen now trail named vacant store published finished =>
    exact Or.inr ⟨t, _, trail, _, vacant, published, finished, rfl⟩
  | order t order policy context fresh receipt trail straight missed ready free vacant store
      published finished =>
    exact Or.inr ⟨t, _, trail, _, vacant, published, finished, rfl⟩

/-- What has been published stays published. -/
theorem Publishes.published_isPrefix (publishes : w.Publishes shows w') :
    w.published <+: w'.published := by
  rcases publishes.published_eq with same | ⟨_, _, _, _, -, more, -⟩
  · exact ⟨[], by rw [same, List.append_nil]⟩
  · rw [more]
    exact List.prefix_append _ _

/-- An order that has just been published was ready, and is answered with its receipt. -/
theorem Publishes.order_of_mem {order : Order} {policy : Retry.Policy} {context : Context}
    {fresh : Uuid} (publishes : w.Publishes shows w')
    (new : (t, .carryOut order policy context fresh) ∈ w'.published)
    (before : (t, .carryOut order policy context fresh) ∉ w.published) :
    ∃ receipt trail, order.isCircular = false ∧
      order.Ready (.crowd shows t) (context.ensureCorrelation fresh) receipt w.store ∧
      (∀ reference ∈ w.store.ownReferences t, reference ∉ w.store.references) ∧
      w'.store = w.store.publish t ∧
      w'.finished.get? t =
        some ⟨.carryOut order policy context fresh, trail, .ok (.processed ⟨receipt, false⟩)⟩ := by
  cases publishes with
  | nothing books published => exact absurd (published ▸ new) before
  | wallet u user name chosen now trail named vacant store published finished =>
    rw [published, List.mem_append, List.mem_singleton] at new
    rcases new with mem | same
    · exact absurd mem before
    · cases same
  | order u other policy context fresh receipt trail straight missed ready free vacant store
      published finished =>
    rw [published, List.mem_append, List.mem_singleton] at new
    rcases new with mem | same
    · exact absurd mem before
    · cases same
      exact ⟨receipt, trail, straight, ready, free, store, finished⟩

/-- A task that has just been answered with something new has just published it. -/
theorem Faithful.mem_published {task : Task} {trail : Trail} {reply : Reply}
    (faithful : w.Faithful shows) (moves : w.Moves a w') (shown : ∀ now ∈ a.time?, shows now)
    (vacant : w.finished.get? t = none)
    (done : w'.finished.get? t = some ⟨task, trail, .ok reply⟩) (fresh : reply.isFresh = true) :
    (t, task) ∈ w'.published := by
  have faithful' := faithful.moves moves shown
  obtain ⟨task', keeps⟩ := faithful'.keeps t (Or.inr (by rw [done]; rfl))
  obtain ⟨-, rfl, s, promise⟩ := keeps.finished_eq faithful'.toSane done
  have published : trail.published = true := promise.isFresh_eq.symm.trans fresh
  -- Of all actions, only an answered call that publishes leaves such a trail.
  cases moves with
  | idle => simp [vacant] at done
  | launch other now =>
    by_cases same : t = w.next
    · subst same
      obtain ⟨-, silent⟩ := finished_resume_self (w := { w with next := w.next + 1 }) vacant done
      rw [silent] at published
      cases published
    · rw [finished_resume_of_ne same] at done
      simp [vacant] at done
  | @answer u now other before c next store answer running step =>
    by_cases same : t = u
    · subst same
      obtain ⟨rfl, more⟩ := finished_resume_self (w := { w with store := store, published := _ })
        vacant done
      obtain ⟨_, keeps⟩ := faithful.keeps t (Or.inl (by rw [running]; rfl))
      obtain ⟨_, _, eq, ensures⟩ := keeps.running_eq running
      cases eq
      have silent := (ensures w.store (.refl faithful.sound)).1.unpublished
      rw [published, Trail.published_add, silent, Bool.or_false] at more
      rw [published_resume, ← more]
      exact List.mem_append_right _ (List.mem_singleton_self _)
    · rw [finished_resume_of_ne same] at done
      simp [vacant] at done
  | @expire u now other before c next account running locks missing =>
    by_cases same : t = u
    · subst same
      obtain ⟨-, more⟩ := finished_resume_self vacant done
      obtain ⟨_, keeps⟩ := faithful.keeps t (Or.inl (by rw [running]; rfl))
      obtain ⟨_, _, eq, ensures⟩ := keeps.running_eq running
      cases eq
      have silent := (ensures w.store (.refl faithful.sound)).1.unpublished
      have locked : Exchange.publishes ⟨c, .error (.lockTimeout account.text), w.store⟩ = false := by
        cases c <;> rfl
      rw [published, Trail.published_add, silent, locked] at more
      cases more
    · rw [finished_resume_of_ne same] at done
      simp [vacant] at done
  | abandon u => simp [vacant] at done

/-- Whatever happens, the tasks that have published are those that were answered with something
new. -/
theorem Traced.moves (traced : w.Traced) (faithful : w.Faithful shows) (moves : w.Moves a w')
    (shown : ∀ now ∈ a.time?, shows now) : w'.Traced := by
  have publishes := faithful.publishes moves shown
  have stays {t task} (mem : (t, task) ∈ w.published) : ∃ trail reply,
      w'.finished.get? t = some ⟨task, trail, .ok reply⟩ ∧ reply.isFresh = true := by
    obtain ⟨trail, reply, done, fresh⟩ := (traced.mem_iff t task).1 mem
    exact ⟨trail, reply, faithful.finished_moves moves done, fresh⟩
  have back {t task} (h : ∃ trail reply,
      w'.finished.get? t = some ⟨task, trail, .ok reply⟩ ∧ reply.isFresh = true) :
      (t, task) ∈ w'.published := by
    obtain ⟨trail, reply, done, fresh⟩ := h
    cases before : w.finished.get? t with
    | none => exact faithful.mem_published moves shown before done fresh
    | some f =>
      obtain rfl := Option.some.inj ((faithful.finished_moves moves before).symm.trans done)
      exact publishes.published_isPrefix.subset
        ((traced.mem_iff t task).2 ⟨trail, reply, before, fresh⟩)
  rcases publishes.published_eq with same | ⟨u, new, trail, reply, vacant, more, done, fresh⟩
  · refine ⟨fun t task => ⟨fun mem => stays (same ▸ mem), back⟩, ?_⟩
    rw [same]
    exact traced.once
  · refine ⟨fun t task => ⟨fun mem => ?_, back⟩, ?_⟩
    · rw [more, List.mem_append, List.mem_singleton, Prod.mk.injEq] at mem
      rcases mem with mem | ⟨rfl, rfl⟩
      · exact stays mem
      · exact ⟨trail, reply, done, fresh⟩
    · rw [more, List.map_append, List.nodup_append]
      refine ⟨traced.once, List.nodup_singleton _, ?_⟩
      intro t mem t' mem' same
      obtain ⟨⟨v, task⟩, old, rfl⟩ := List.mem_map.1 mem
      -- It has not published before, for it was not answered before.
      obtain ⟨_, _, before, -⟩ := (traced.mem_iff v task).1 old
      obtain rfl : v = u := same.trans (List.mem_singleton.1 mem')
      rw [vacant] at before
      cases before

/-- In every world that can be reached, the tasks that have published are those that were answered
with something new. -/
theorem traced_run (actions : List Action) : (run actions).Traced := by
  induction actions using List.reverseRecOn with
  | nil => exact ⟨fun t task => by simp [run], List.Pairwise.nil⟩
  | append_singleton actions a ih =>
    have faithful : (run actions).Faithful fun _ => True := faithful_run fun _ _ _ _ => trivial
    rw [run_append_singleton]
    exact ih.moves faithful (moves_act _ a) fun _ _ => trivial

end World

end CurrencyLedger
