import CurrencyLedger.Proofs.Order.Recall
import CurrencyLedger.Proofs.World.Progress

/-! # Requests that are made again

* **`World.Remembers`**, **`World.remembers_run`**, **`World.recorded_of_published`** — the receipt
  of every order that was published is kept under its reference, whatever happens later;
* **`World.repeats_answer`** — an order that finds an entry under its reference is answered what the
  entry tells, and leaves no trace;
* **`World.replays_receipt`** — a request that is made again after it was published is answered with
  the receipt of the first time, and leaves no trace. -/

namespace CurrencyLedger.World

variable {w w' : World} {shows : Instant → Prop} {a : Action} {t : TransactionId}

/-- Whether the year of an instant can be told. -/
def Datable (now : Instant) : Prop := Instant.isYear (Instant.civil now.day).year = true

/-- The times of the sample run have a date. -/
theorem Sample.datable_overlapping : ∀ a ∈ overlapping, ∀ now ∈ a.time?, Datable now := by
  show ∀ a ∈ overlapping, ∀ now ∈ a.time?, Instant.isYear (Instant.civil now.day).year = true
  decide +kernel

/-! ## Receipts are kept -/

/-- Published entries stay where they are. -/
theorem Publishes.entries_isPrefix (publishes : w.Publishes shows w') :
    w.store.entries <+: w'.store.entries := by
  cases publishes with
  | nothing books published =>
    have same : w'.store.entries = w.store.entries := congrArg Store.Books.entries books
    exact ⟨[], by rw [same, List.append_nil]⟩
  | wallet t user name chosen now trail named vacant store published finished =>
    rw [store]
    exact List.prefix_rfl
  | order t order policy context fresh receipt trail straight missed ready free vacant store
      published finished =>
    rw [store]
    exact List.prefix_append _ _

/-- Whatever happens afterwards, what was published stays. -/
theorem prefix_run {before actions : List Action} (more : before <+: actions) :
    (run before).published <+: (run actions).published ∧
      (run before).store.entries <+: (run actions).store.entries := by
  obtain ⟨after, rfl⟩ := more
  induction after using List.reverseRecOn with
  | nil =>
    rw [List.append_nil]
    exact ⟨List.prefix_rfl, List.prefix_rfl⟩
  | append_singleton after a ih =>
    have publishes : (run (before ++ after)).Publishes (fun _ => True)
        (run (before ++ after ++ [a])) := publishes_run fun _ _ _ _ => trivial
    rw [← List.append_assoc]
    exact ⟨ih.1.trans publishes.published_isPrefix, ih.2.trans publishes.entries_isPrefix⟩

/-- The receipt of every order that was published is kept, as far as its numbers have 64 bits. -/
def Remembers (w : World) : Prop :=
  ∀ t order policy context fresh trail receipt,
    w.finished.get? t =
      some ⟨.carryOut order policy context fresh, trail, .ok (.processed ⟨receipt, false⟩)⟩ →
    order.Countable → (∀ n ∈ context.user, Decimal.isInt64 n = true) →
    order.isCircular = false ∧ order.Recorded receipt w.store

/-- What is remembered stays remembered, and what is published is remembered. -/
theorem Remembers.moves (remembers : w.Remembers) (traced : w.Traced)
    (faithful : w.Faithful Datable) (moves : w.Moves a w')
    (shown : ∀ now ∈ a.time?, Datable now) : w'.Remembers := by
  intro t order policy context fresh trail receipt done countable user
  -- The order was published before, or by the action.
  have publishes := faithful.publishes moves shown
  cases before : w.finished.get? t with
  | some f =>
    obtain rfl := Option.some.inj ((faithful.finished_moves moves before).symm.trans done)
    obtain ⟨straight, recorded⟩ :=
      remembers t order policy context fresh trail receipt before countable user
    exact ⟨straight, recorded.of_prefix publishes.entries_isPrefix⟩
  | none =>
    -- The order was published by this very action.
    have new := faithful.mem_published moves shown before done rfl
    have old : (t, Task.carryOut order policy context fresh) ∉ w.published := by
      intro mem
      obtain ⟨_, _, there, -⟩ := (traced.mem_iff _ _).1 mem
      rw [before] at there
      cases there
    obtain ⟨_, _, straight, ready, free, store, finished⟩ := publishes.order_of_mem new old
    cases finished.symm.trans done
    rw [store]
    exact ⟨straight, ready.recorded faithful.sound free countable user fun _ => id⟩

/-- In every world that can be reached, the receipts of the orders that were published are kept. -/
theorem remembers_run {actions : List Action}
    (dated : ∀ a ∈ actions, ∀ now ∈ a.time?, Datable now) : (run actions).Remembers := by
  induction actions using List.reverseRecOn with
  | nil =>
    intro t order policy context fresh trail receipt done
    cases done
  | append_singleton actions a ih =>
    have earlier := fun b mem => dated b (List.mem_append_left _ mem)
    rw [run_append_singleton]
    exact (ih earlier).moves (traced_run actions) (faithful_run earlier) (moves_act _ a)
      (dated a (List.mem_append_right _ (List.mem_singleton_self a)))

/-- An order that was published is answered with a receipt, which is kept. -/
theorem recorded_of_published {actions : List Action} {order : Order} {policy : Retry.Policy}
    {context : Context} {fresh : Uuid} (dated : ∀ a ∈ actions, ∀ now ∈ a.time?, Datable now)
    (countable : order.Countable) (user : ∀ n ∈ context.user, Decimal.isInt64 n = true)
    (published : (t, .carryOut order policy context fresh) ∈ (run actions).published) :
    ∃ trail receipt,
      (run actions).finished.get? t =
        some ⟨.carryOut order policy context fresh, trail, .ok (.processed ⟨receipt, false⟩)⟩ ∧
      order.isCircular = false ∧ order.Recorded receipt (run actions).store := by
  obtain ⟨trail, reply, done, new⟩ := ((traced_run actions).mem_iff _ _).1 published
  have faithful : (run actions).Faithful fun _ => True := faithful_run fun _ _ _ _ => trivial
  obtain ⟨task, keeps⟩ := faithful.keeps t (Or.inr (by rw [done]; rfl))
  obtain ⟨-, rfl, s, processed, is, -⟩ := keeps.finished_eq faithful.toSane done
  rcases processed with error | ⟨receipt, _ | _⟩
  · cases is
  · obtain rfl := Except.ok.inj is
    exact ⟨trail, receipt, done,
      remembers_run dated t order policy context fresh trail receipt done countable user⟩
  · rw [Except.ok.inj is] at new
    cases new

/-! ## Answers are repeated -/

/-- An order that is launched when an entry under its reference tells it an answer will repeat the
answer. -/
theorem keeps_launch {order : Order} {answer : Except LedgerError Order.Receipt}
    (policy : Retry.Policy) (context : Context) (fresh : Uuid) (now : Instant)
    (straight : order.isCircular = false) (settled : Retry.isRetryable answer = false)
    (finds : order.Finds answer w.store) :
    (w.act (.launch (.carryOut order policy context fresh) now)).Keeps (fun _ => True) w.next
      (.carryOut order policy context fresh) (order.Repeats 3)
      fun result _ _ => result = (Order.replay answer).map Reply.processed := by
  refine keeps_resume (w := { w with next := w.next + 1 }) ?_ trivial
  refine Operation.ensures_map ((finds.ensures_run policy settled straight (Nat.le_refl 3)).mono
    (fun _ _ _ => id) fun result trail s repeated => ?_)
  rw [repeated]

/-- A task that only repeats an answer asks for no locks, in less than four calls. -/
theorem prompt_repeats (order : Order) (t : TransactionId) : Prompt t 3 (order.Repeats 3) where
  locked := by
    rintro trail c s ⟨-, rfl | rfl | rfl⟩ account locks
    all_goals cases locks
  few few := few.1

/-- An order that is launched when an entry under its reference tells it an answer is answered that:
under any context and by any policy, after or while anything else is done. It is never kept waiting
and ends within three steps of its own, unless it is given up; none of its actions changes the books,
and it publishes nothing. -/
theorem repeats_answer (before after : List Action) {order : Order}
    {answer : Except LedgerError Order.Receipt} (policy : Retry.Policy) (context : Context)
    (fresh : Uuid) (now : Instant) (straight : order.isCircular = false)
    (settled : Retry.isRetryable answer = false)
    (finds : order.Finds answer (run before).store) :
    let launch : Action := .launch (.carryOut order policy context fresh) now
    let again := (run before).next
    let w := run (before ++ launch :: after)
    (∀ f, w.finished.get? again = some f →
      f.result = (Order.replay answer).map Reply.processed) ∧
    ((∀ a ∈ after, a ≠ .abandon again) → 3 ≤ after.countP (·.isStep again) →
      (w.finished.get? again).isSome = true) ∧
    (run (before ++ [launch])).store.books = (run before).store.books ∧
    (∀ a : Action, a.isOf again = true → (w.act a).store.books = w.store.books) ∧
    ∀ task, (again, task) ∉ w.published := by
  intro launch again w
  -- The task keeps repeating the answer from its launch on, as long as it is known.
  have sane : ((run before).act launch).Sane := (sane_run before).moves (moves_act _ _)
  have kept := keeps_launch policy context fresh now straight settled finds
  have split : w = after.foldl act ((run before).act launch) := by
    show run _ = _
    rw [run, List.foldl_append]
    rfl
  have given : again < ((run before).act launch).next := by
    show again < World.next (World.resume _ _ _ _ _ _)
    rw [next_resume]
    exact Nat.lt_succ_self _
  obtain ⟨sane_w, keeps⟩ := keeps_foldl sane given (Or.inl kept) fun a mem now shown => trivial
  rw [← split] at sane_w keeps
  have told {f : Ending} (here : w.finished.get? again = some f) :
      f.result = (Order.replay answer).map Reply.processed := by
    rcases keeps with keeps | unknown
    · exact (keeps.finished_eq sane_w here).2.2.elim fun _ => id
    · exact absurd (Or.inr (by rw [here]; rfl)) unknown
  refine ⟨fun f => told, fun goes_on enough => ?_, ?_, fun a own => ?_, fun task mem => ?_⟩
  · have begun : ((run before).act launch).Made again 0 := made_resume _ _ _ _ _ {}
    obtain ⟨_, _, _, there, -⟩ := kept.ends sane (prompt_repeats order again) begun
      (fun a mem now shown => trivial) goes_on (by rw [Nat.zero_add]; exact enough)
    rw [split, there]
    rfl
  · rw [run_append_singleton]
    show Store.books (World.store (World.resume _ _ _ _ _ _)) = _
    rw [store_resume]
  · refine books_act_of_keeps sane_w keeps ?_ own
    rintro trail c s ⟨-, rfl | rfl | rfl⟩ answer
    all_goals rfl
  · obtain ⟨_, reply, there, fresh⟩ := ((traced_run _).mem_iff _ _).1 mem
    have same := told there
    cases answer with
    | error error => cases same
    | ok receipt =>
      obtain rfl := Except.ok.inj same
      cases fresh

/-- A request that was published once is answered with the receipt of the first time whenever it is
made again: under any context, by any policy and with any rates, after or while anything else is
done. It is never kept waiting and ends within three steps of its own, unless it is given up; none
of its actions changes the books, and it publishes nothing. -/
theorem replays_receipt (before after : List Action) {t : TransactionId} {order : Order}
    {policy : Retry.Policy} {context : Context} {fresh : Uuid} (other : Order)
    (policy' : Retry.Policy) (context' : Context) (fresh' : Uuid) (now : Instant)
    (dated : ∀ a ∈ before, ∀ now ∈ a.time?, Datable now)
    (countable : order.Countable) (user : ∀ n ∈ context.user, Decimal.isInt64 n = true)
    (published : (t, .carryOut order policy context fresh) ∈ (run before).published)
    (same : order.SameRequest other) :
    ∃ trail receipt,
      (run before).finished.get? t =
        some ⟨.carryOut order policy context fresh, trail, .ok (.processed ⟨receipt, false⟩)⟩ ∧
      let launch : Action := .launch (.carryOut other policy' context' fresh') now
      let again := (run before).next
      let w := run (before ++ launch :: after)
      (∀ f, w.finished.get? again = some f → f.result = .ok (.processed ⟨receipt, true⟩)) ∧
      ((∀ a ∈ after, a ≠ .abandon again) → 3 ≤ after.countP (·.isStep again) →
        (w.finished.get? again).isSome = true) ∧
      (run (before ++ [launch])).store.books = (run before).store.books ∧
      (∀ a : Action, a.isOf again = true → (w.act a).store.books = w.store.books) ∧
      ∀ task, (again, task) ∉ w.published := by
  obtain ⟨trail, receipt, done, straight, recorded⟩ :=
    recorded_of_published dated countable user published
  have finds : other.Finds (.ok receipt) (run before).store := recorded.of_sameRequest same
  exact ⟨trail, receipt, done, repeats_answer before after policy' context' fresh' now
    (same.isCircular_eq ▸ straight) rfl finds⟩

/-- After a transfer and a withdrawal that overlap, the transfer is made again, by other rates, for a
user, and as often as it takes: three steps later it is answered with the receipt of the first
time. -/
theorem replays_receipt_overlapping :
    ∃ trail receipt, (run Sample.overlapping).finished.get? 3 =
        some ⟨Sample.once Sample.transfer 8, trail, .ok (.processed ⟨receipt, false⟩)⟩ ∧
      ∃ f, (run (Sample.overlapping ++
        .launch (.carryOut Sample.transferAgain {} { user := some 7 } ⟨0⟩) (.ofMillis 9) ::
          Sample.steps 5 3)).finished.get? 5 = some f ∧
        f.result = .ok (.processed ⟨receipt, true⟩) := by
  have countable : Sample.transfer.Countable := by
    rintro account mem
    rcases List.mem_cons.1 mem with rfl | mem
    · rfl
    · rw [List.mem_singleton.1 mem]
      rfl
  have published : (3, Sample.once Sample.transfer 8) ∈ (run Sample.overlapping).published := by
    decide +kernel
  have fifth : (run Sample.overlapping).next = 5 := by decide +kernel
  obtain ⟨trail, receipt, done, answer, ends, -⟩ := replays_receipt Sample.overlapping
    (Sample.steps 5 3) Sample.transferAgain {} { user := some 7 } ⟨0⟩ (.ofMillis 9)
    Sample.datable_overlapping countable (fun n mem => by cases mem) published rfl
  rw [fifth] at answer ends
  have steady : ∀ a ∈ Sample.steps 5 3, a ≠ .abandon 5 := by
    intro a mem
    rw [Sample.steps, List.mem_replicate] at mem
    rw [mem.2]
    nofun
  obtain ⟨f, there⟩ := Option.isSome_iff_exists.1 (ends steady (by decide))
  exact ⟨trail, receipt, done, f, there, answer f there⟩

end CurrencyLedger.World
