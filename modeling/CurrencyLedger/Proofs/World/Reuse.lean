import CurrencyLedger.Proofs.Order.Identity
import CurrencyLedger.Proofs.World.Alone
import CurrencyLedger.Proofs.World.Written

/-! # References that are used again

An order claims its reference, and a transfer those of its sides, too. An order whose references are
in use never goes through: it repeats the receipt of the entry under its reference if that is an
entry of the same request, and is told that a reference is in use if it is not, however much the
orders that are there before it use one another's references.

* **`Order.claims`** — the references that an order needs for itself;
* **`Order.Settles.of_found`**, **`Order.Settles.of_side`**, **`Order.Settles.of_free`** — what an
  order that is alone comes to, by the entries that carry its references;
* **`World.Wrote`**, **`World.Completed`** — whose entry it is;
* **`World.detects_reuse`** — so whether an order is repeated or refused depends on nothing else. -/

namespace CurrencyLedger

/-- No error of a store tells that a reference is in use. -/
theorem LedgerError.ofStore_ne_conflict (error : StoreError) (reference : String) :
    ofStore error ≠ .idempotencyConflict reference := by
  cases error <;> simp [ofStore]

/-! ## Orders that are alone -/

/-- What is answered for work that has come this far. -/
def Operation.Progress.processed {α : Type} : Progress α → Processed α
  | .replayed receipt => ⟨receipt, true⟩
  | .applied receipt => ⟨receipt, false⟩

namespace Order

open Operation (Progress)

variable {order : Order} {context : Context} {clock : Nat → Instant} {t : TransactionId}
  {s s' x : Store} {entry : Entry} {trail : Trail}

/-- The references that an order needs for itself. One that gives to the account that it takes from
is refused before it looks at any. -/
def claims (order : Order) : List String := if order.isCircular then [] else order.references

/-- The work of an order that is alone and finds an entry under its reference comes to what the
entry tells. -/
theorem Worked.of_found {result : Except LedgerError (Progress Receipt)}
    (worked : order.Worked (.alone clock s.books t) context x result) (same : x.books = s.books)
    (found : Store.findEntry s.entries order.reference = some entry) :
    result = (order.receiptIn entry).map Progress.replayed := by
  have entries : x.entries = s.entries := congrArg Store.Books.entries same
  have absurd' {α : Prop} (missed : (Surroundings.alone clock s.books t).Missed order.reference) :
      α := by
    rw [findEntry_of_missed missed] at found
    cases found
  cases worked with
  | replayed other receipt begun there reads =>
    rw [entries, found] at there
    rw [Option.some.inj there, reads]
    rfl
  | repeated other error begun there reads =>
    rw [entries, found] at there
    rw [Option.some.inj there, reads]
    rfl
  | claimed other reference begun missed => exact absurd' missed
  | expired account s₁ missed => exact absurd' (missed _ List.mem_cons_self)
  | homeless before account after s₁ missed => exact absurd' (missed _ List.mem_cons_self)
  | rejected error missed => exact absurd' (missed _ List.mem_cons_self)
  | taken receipt other reference missed => exact absurd' (missed _ List.mem_cons_self)
  | applied receipt missed => exact absurd' (missed _ List.mem_cons_self)

/-- The work of an order that is alone and finds no entry under its reference, but one under that of
a side, comes to a conflict about the first such side. -/
theorem Worked.of_side {result : Except LedgerError (Progress Receipt)} {side : String}
    (worked : order.Worked (.alone clock s.books t) context x result) (same : x.books = s.books)
    (free : Store.findEntry s.entries order.reference = none)
    (first : order.sides.find? (fun r => (Store.findEntry s.entries r).isSome) = some side) :
    result = .error (.idempotencyConflict side) := by
  have entries : x.entries = s.entries := congrArg Store.Books.entries same
  have absurd' {α : Prop} (missed : ∀ r ∈ order.references,
      (Surroundings.alone clock s.books t).Missed r) : α := by
    have found := List.find?_some first
    rw [findEntry_of_missed
      (missed side (List.mem_cons_of_mem _ (List.mem_of_find?_eq_some first)))] at found
    cases found
  cases worked with
  | replayed other receipt begun there reads =>
    rw [entries, free] at there
    cases there
  | repeated other error begun there reads =>
    rw [entries, free] at there
    cases there
  | claimed other reference begun missed mem there earlier =>
    -- Whatever stands before this side was looked for in vain.
    obtain ⟨before, after, split, missed⟩ := earlier
    have this : order.sides.find? (fun r => (Store.findEntry s.entries r).isSome) =
        some reference := by
      rw [split, List.find?_eq_some_iff_append]
      refine ⟨by rw [← entries, there]; rfl, before, after, rfl, fun r mem => ?_⟩
      rw [findEntry_of_missed (missed r mem)]
      rfl
    rw [this] at first
    rw [Option.some.inj first]
  | expired account s₁ missed => exact absurd' missed
  | homeless before account after s₁ missed => exact absurd' missed
  | rejected error missed => exact absurd' missed
  | taken receipt other reference missed => exact absurd' missed
  | applied receipt missed => exact absurd' missed

/-- The work of an order that is alone and finds no entries under its references neither repeats a
receipt nor comes to a conflict. -/
theorem Worked.of_free {result : Except LedgerError (Progress Receipt)}
    (worked : order.Worked (.alone clock s.books t) context x result) (same : x.books = s.books)
    (unused : order.Unused s) :
    (∀ receipt, result ≠ .ok (.replayed receipt)) ∧
      ∀ reference, result ≠ .error (.idempotencyConflict reference) := by
  rcases worked.of_unused same unused with
    ⟨account, -, rfl⟩ | ⟨-, ⟨error, refused, rfl⟩ | ⟨receipt, -, rfl, -⟩⟩
  · exact ⟨fun receipt => by simp, fun reference => by simp⟩
  · refine ⟨fun receipt => by simp, fun reference conflict => ?_⟩
    have refusal := isRefusal_of_evaluate refused
    rw [Except.error.inj conflict] at refusal
    cases refusal
  · exact ⟨fun receipt => by simp, fun reference => by simp⟩

variable {result : Except LedgerError (Processed Receipt)}

/-- An attempt whose work is not about to publish anything answers what the work comes to, and leaves
no trace. -/
theorem Ended.exists_worked {e : Surroundings t} {exchange : Exchange}
    (ended : order.Ended e context result exchange s') :
    ∃ progress, order.Worked e context exchange.store progress ∧
      ((∃ receipt, progress = .ok (.applied receipt)) ∨
        s'.books = exchange.store.books ∧
          result = progress.map Progress.processed) := by
  cases ended with
  | replayed x receipt worked => exact ⟨_, worked, Or.inr ⟨rfl, rfl⟩⟩
  | published x receipt worked => exact ⟨_, worked, Or.inl ⟨receipt, rfl⟩⟩
  | collided x receipt reference worked => exact ⟨_, worked, Or.inl ⟨receipt, rfl⟩⟩
  | failed x error worked => exact ⟨_, worked, Or.inr ⟨rfl, rfl⟩⟩

/-- An order that is alone and finds an entry under its reference answers what the entry tells, and
leaves no trace. -/
theorem Settles.of_found
    (settles : order.Settles (.alone clock s.books t) context result trail s')
    (straight : order.isCircular = false)
    (found : Store.findEntry s.entries order.reference = some entry) :
    s'.books = s.books ∧
      result = (order.receiptIn entry).map fun receipt => ⟨receipt, true⟩ := by
  obtain ⟨exchange, same, ended⟩ := settles.exists_ended straight
  obtain ⟨progress, worked, ⟨receipt, applied⟩ | ⟨books, answer⟩⟩ := ended.exists_worked
  · rw [worked.of_found same found] at applied
    obtain ⟨_, -, replayed⟩ := map_eq_ok.1 applied
    cases replayed
  · rw [answer, worked.of_found same found]
    exact ⟨books.trans same, by cases order.receiptIn entry <;> rfl⟩

/-- An order that is alone and finds no entry under its reference, but one under that of a side, is
told that the reference of the first such side is in use, and leaves no trace. -/
theorem Settles.of_side {side : String}
    (settles : order.Settles (.alone clock s.books t) context result trail s')
    (straight : order.isCircular = false)
    (free : Store.findEntry s.entries order.reference = none)
    (first : order.sides.find? (fun r => (Store.findEntry s.entries r).isSome) = some side) :
    s'.books = s.books ∧ result = .error (.idempotencyConflict side) := by
  obtain ⟨exchange, same, ended⟩ := settles.exists_ended straight
  obtain ⟨progress, worked, ⟨receipt, applied⟩ | ⟨books, answer⟩⟩ := ended.exists_worked
  · cases applied.symm.trans (worked.of_side same free first)
  · obtain rfl := worked.of_side same free first
    exact ⟨books.trans same, answer⟩

/-- An order that is alone and finds no entries under the references that it claims neither repeats
a receipt nor is told that a reference is in use. -/
theorem Settles.of_free
    (settles : order.Settles (.alone clock s.books t) context result trail s')
    (free : ∀ r ∈ order.claims, Store.findEntry s.entries r = none) :
    (∀ receipt, result ≠ .ok ⟨receipt, true⟩) ∧
      ∀ reference, result ≠ .error (.idempotencyConflict reference) := by
  obtain ⟨_, -, ⟨-, refused, -⟩ | ⟨straight, concluded⟩⟩ := settles
  · rw [refused]
    exact ⟨fun receipt => by simp, fun reference => by simp⟩
  rw [claims, straight] at free
  obtain ⟨exchange, calls, -, meets, ended⟩ := concluded.ended
  cases ended with
  | replayed x receipt worked => exact absurd rfl ((worked.of_free meets.books free).1 receipt)
  | published => exact ⟨fun receipt => by simp, fun reference => by simp⟩
  | collided =>
    refine ⟨fun receipt => by simp, fun reference conflict => ?_⟩
    exact LedgerError.ofStore_ne_conflict _ _ (Except.error.inj conflict)
  | failed x error worked =>
    refine ⟨fun receipt => by simp, fun reference conflict => ?_⟩
    exact (worked.of_free meets.books free).2 reference
      (congrArg Except.error (Except.error.inj conflict))

end Order

namespace World

variable {actions : List Action} {order other : Order} {entry : Entry}

/-! ## Whose entry it is -/

/-- Whether an entry belongs to an order, because the action that published the order has written
it. -/
def Wrote (actions : List Action) (order : Order) (entry : Entry) : Prop :=
  ∃ before a after t policy context fresh block, actions = before ++ a :: after ∧
    (run (before ++ [a])).published =
      (run before).published ++ [(t, .carryOut order policy context fresh)] ∧
    (run (before ++ [a])).store.entries = (run before).store.entries ++ block ∧ entry ∈ block

/-- Whether the entry under the reference of an order belongs to an attempt of the same request. -/
def Completed (actions : List Action) (order : Order) : Prop :=
  ∃ other entry, Wrote actions other entry ∧ entry.reference = some order.reference ∧
    other.SameRequest order

/-- What belongs to an order belongs to it later, too. -/
theorem Wrote.append (wrote : Wrote actions order entry) (more : List Action) :
    Wrote (actions ++ more) order entry := by
  obtain ⟨before, a, after, t, policy, context, fresh, block, rfl, rest⟩ := wrote
  exact ⟨before, a, after ++ more, t, policy, context, fresh, block, by simp, rest⟩

/-- Every entry belongs to an order. -/
theorem exists_wrote (dated : ∀ a ∈ actions, ∀ now ∈ a.time?, Datable now)
    (countable : (run actions).Countable) (mem : entry ∈ (run actions).store.entries) :
    ∃ order, Wrote actions order entry := by
  induction actions using List.reverseRecOn with
  | nil => cases mem
  | append_singleton actions a ih =>
    have publishes := publishes_run dated
    have before (mem : entry ∈ (run actions).store.entries) :
        ∃ order, Wrote (actions ++ [a]) order entry := by
      obtain ⟨order, wrote⟩ := ih (fun b mem => dated b (List.mem_append_left _ mem))
        (countable.of_publishes publishes) mem
      exact ⟨order, wrote.append [a]⟩
    rcases publishes.written (balanced_run actions) countable with
      ⟨-, same⟩ | ⟨t, order, policy, context, fresh, block, published, entries, -⟩
    · exact before (same ▸ mem)
    · rw [entries] at mem
      rcases List.mem_append.1 mem with mem | mem
      · exact before mem
      · exact ⟨order, actions, a, [], t, policy, context, fresh, block, rfl, published, entries,
          mem⟩

/-- What belongs to an order is one of the entries that the order has written. -/
theorem Wrote.written (wrote : Wrote actions order entry)
    (dated : ∀ a ∈ actions, ∀ now ∈ a.time?, Datable now) (countable : (run actions).Countable) :
    entry ∈ (run actions).store.entries ∧ order ∈ (run actions).orders ∧ order.Countable ∧
      ∃ before block, order.Written before block ∧ entry ∈ block := by
  obtain ⟨before, a, after, t, policy, context, fresh, block, rfl, published, entries, mem⟩ := wrote
  have split : before ++ a :: after = before ++ [a] ++ after := by simp
  rw [split] at dated countable ⊢
  obtain ⟨stays, stay⟩ := prefix_run (List.prefix_append (before ++ [a]) after)
  have known : (t, .carryOut order policy context fresh) ∈
      (run (before ++ [a] ++ after)).published := by
    refine stays.subset ?_
    rw [published]
    exact List.mem_append_right _ (List.mem_singleton_self _)
  refine ⟨stay.subset ?_, List.mem_filterMap.2 ⟨_, known, rfl⟩, (countable _ _ _ _ _ known).1,
    (run before).store.entries, block, ?_, mem⟩
  · rw [entries]
    exact List.mem_append_right _ mem
  · -- The action has published one order and nothing else.
    have publishes := publishes_run fun b mem => dated b (List.mem_append_left _ mem)
    have counted : (run (before ++ [a])).Countable := fun t order policy context fresh mem =>
      countable t order policy context fresh (stays.subset mem)
    rcases publishes.written (balanced_run before) counted with
      ⟨same, kept⟩ | ⟨t', order', policy', context', fresh', block', published', entries', written⟩
    · rw [kept, List.self_eq_append_right] at entries
      rw [entries] at mem
      cases mem
    · have one := List.append_cancel_left (published.symm.trans published')
      obtain ⟨-, same⟩ := Prod.mk.inj (List.cons.inj one).1
      obtain ⟨rfl, -⟩ := Task.carryOut.inj same
      rw [List.append_cancel_left (entries.symm.trans entries')]
      exact written

/-! ## Entries that an order finds -/

section Found

variable (dated : ∀ a ∈ actions, ∀ now ∈ a.time?, Datable now)
  (countable : (run actions).Countable)

include dated countable

/-- An entry of another order under the reference of an order tells whether they are attempts of one
request. -/
theorem Wrote.answers (wrote : Wrote actions other entry)
    (named : entry.reference = some order.reference) (counted : order.Countable)
    (apart : Sha256.Apart
      (order.requestBytes :: (run actions).orders.map Order.requestBytes)) :
    (other.SameRequest order ∧ ∃ receipt, order.receiptIn entry = .ok receipt) ∨
    (¬ other.SameRequest order ∧
      order.receiptIn entry = .error (.idempotencyConflict order.reference)) := by
  obtain ⟨-, known, counted', before, block, written, mem⟩ := wrote.written dated countable
  refine written.answers mem named (apart.mono ?_) counted' counted
  simp only [List.mem_cons, List.not_mem_nil, or_false]
  rintro m (rfl | rfl)
  · exact Or.inr (List.mem_map_of_mem known)
  · exact Or.inl rfl

/-- An order that finds no entry under its reference repeats no request of the past. -/
theorem not_completed_of_free
    (free : Store.findEntry (run actions).store.entries order.reference = none) :
    ¬ Completed actions order := by
  rintro ⟨other, entry, wrote, named, -⟩
  exact Store.findEntry_eq_none.1 free entry (wrote.written dated countable).1 named

/-- The entry under the reference of an order keeps a receipt for the order if it belongs to an
attempt of the same request, and tells that the reference is in use if it does not. -/
theorem receiptIn_of_found (counted : order.Countable)
    (apart : Sha256.Apart (order.requestBytes :: (run actions).orders.map Order.requestBytes))
    (found : Store.findEntry (run actions).store.entries order.reference = some entry) :
    (Completed actions order ∧ ∃ receipt, order.receiptIn entry = .ok receipt) ∨
    (¬ Completed actions order ∧
      order.receiptIn entry = .error (.idempotencyConflict order.reference)) := by
  obtain ⟨mem, named⟩ := Store.mem_of_findEntry_eq_some found
  obtain ⟨other, wrote⟩ := exists_wrote dated countable mem
  rcases wrote.answers dated countable named counted apart with
    ⟨same, reads⟩ | ⟨different, refused⟩
  · exact Or.inl ⟨⟨other, entry, wrote, named, same⟩, reads⟩
  · refine Or.inr ⟨?_, refused⟩
    rintro ⟨another, entry', wrote', named', same⟩
    -- Both orders have written the one entry that stands there.
    have sound : (run actions).store.Sound := (sane_run actions).sound
    have only := sound.distinct.findEntry_eq (wrote'.written dated countable).1 named'
    rw [found] at only
    obtain rfl := Option.some.inj only
    rcases wrote'.answers dated countable named counted apart with
      ⟨-, receipt, reads⟩ | ⟨different, -⟩
    · cases refused.symm.trans reads
    · exact different same

end Found

/-! ## Orders that use references again -/

/-- An order that is carried out while nothing else is under way settles as if it were alone. -/
theorem settles_of_idle (order : Order) (policy : Retry.Policy) (context : Context)
    (clock : Nat → Instant) (ticks : Nat) (idle : ∀ t, (run actions).store.live.get? t = none) :
    let done := ((order.carryOut policy context).run.interpret (Serial.handlers clock)).run
      ⟨(run actions).store, ticks⟩
    ∃ trail, order.Settles (.alone clock (run actions).store.books 0) context done.1 trail
      done.2.store := by
  have blank : (run actions).store.transaction 0 = {} := Store.transaction_eq_of_gone (idle 0)
  have ensures (e : Surroundings 0) : (order.carryOut policy context).run.Ensures e
      (order.Duty e context (max 1 policy.maxAttempts)) (order.Settles e context) {}
      (run actions).store :=
    Order.ensures_run policy blank rfl rfl
  intro done
  obtain ⟨trail, settles, -⟩ : ∃ trail, order.Settles _ context done.1 trail done.2.store ∧
      done.2.store.Sound ∧ done.2.store.Quiet 0 :=
    Script.Ensures.interpret clock (ensures _) (ensures _) (fun _ _ _ duty => duty.1)
      (sane_run actions).sound (fun t _ => idle t) fun _ => rfl
  exact ⟨trail, settles⟩

/-- However tasks have used references before, if nothing is under way then an order is told whether
its references are in use. If some entry carries a reference that the order claims, whatever it is
about and whatever the accounts hold and the rates are, the order leaves no trace: it is answered
with a receipt of the past iff the entry under its reference belongs to an attempt of the same
request, and otherwise that a reference is in use. If no entry carries one, neither happens. That
requests have digests of their own is taken for granted. -/
theorem detects_reuse (actions : List Action) (order : Order) (policy : Retry.Policy)
    (context : Context) (clock : Nat → Instant) (ticks : Nat)
    (dated : ∀ a ∈ actions, ∀ now ∈ a.time?, Datable now) (countable : (run actions).Countable)
    (counted : order.Countable) (idle : ∀ t, (run actions).store.live.get? t = none)
    (apart : Sha256.Apart
      (order.requestBytes :: (run actions).orders.map Order.requestBytes)) :
    let done := ((order.carryOut policy context).run.interpret (Serial.handlers clock)).run
      ⟨(run actions).store, ticks⟩
    ((∃ entry ∈ (run actions).store.entries, ∃ r ∈ order.claims, entry.reference = some r) →
      done.2.store.books = (run actions).store.books ∧
      ((∃ receipt, done.1 = .ok ⟨receipt, true⟩) ↔ Completed actions order) ∧
      (¬ Completed actions order → ∃ r ∈ order.claims, done.1 = .error (.idempotencyConflict r))) ∧
    ((∀ entry ∈ (run actions).store.entries, ∀ r ∈ order.claims, entry.reference ≠ some r) →
      (∀ receipt, done.1 ≠ .ok ⟨receipt, true⟩) ∧
        ∀ r, done.1 ≠ .error (.idempotencyConflict r)) := by
  intro done
  obtain ⟨trail, settles⟩ := settles_of_idle order policy context clock ticks idle
  refine ⟨fun claimed => ?_, fun unclaimed => ?_⟩
  · obtain ⟨entry, mem, r, claims, named⟩ := claimed
    have straight : order.isCircular = false := by
      cases circular : order.isCircular with
      | false => rfl
      | true => simp [Order.claims, circular] at claims
    have all : order.claims = order.references := if_neg (by simp [straight])
    rw [all] at claims ⊢
    cases found : Store.findEntry (run actions).store.entries order.reference with
    | some entry =>
      obtain ⟨books, answer⟩ := settles.of_found straight found
      refine ⟨books, ?_⟩
      rcases receiptIn_of_found dated countable counted apart found with
        ⟨completed, receipt, reads⟩ | ⟨incomplete, refused⟩
      · rw [reads] at answer
        exact ⟨iff_of_true ⟨receipt, answer⟩ completed, absurd completed⟩
      · rw [refused] at answer
        refine ⟨iff_of_false ?_ incomplete, fun _ => ⟨order.reference, List.mem_cons_self, answer⟩⟩
        rintro ⟨receipt, replayed⟩
        cases replayed.symm.trans answer
    | none =>
      -- The entry carries the reference of a side.
      have side : r ∈ order.sides := by
        rcases List.mem_cons.1 claims with rfl | side
        · exact absurd named (Store.findEntry_eq_none.1 found entry mem)
        · exact side
      have sound : (run actions).store.Sound := (sane_run actions).sound
      have there : (order.sides.find?
          fun r => (Store.findEntry (run actions).store.entries r).isSome).isSome = true := by
        rw [List.find?_isSome]
        exact ⟨r, side, by rw [sound.distinct.findEntry_eq mem named]; rfl⟩
      obtain ⟨reference, first⟩ := Option.isSome_iff_exists.1 there
      have known := List.mem_of_find?_eq_some first
      obtain ⟨books, conflict⟩ := settles.of_side straight found first
      refine ⟨books, iff_of_false ?_ (not_completed_of_free dated countable found),
        fun _ => ⟨reference, List.mem_cons_of_mem _ known, conflict⟩⟩
      rintro ⟨receipt, replayed⟩
      cases replayed.symm.trans conflict
  · refine settles.of_free fun r mem => Store.findEntry_eq_none.2 fun entry there => ?_
    exact unclaimed entry there r mem

/-- A deposit under the reference of the side of the transfer that gives. -/
def Sample.intruder : Order :=
  .adjust .deposit ⟨dollars 1, ⟨70, by decide, by decide⟩, "share-out"⟩

/-- What an order is answered after the sample run. -/
def Sample.answer (order : Order) : Except LedgerError (Processed Order.Receipt) :=
  (((order.carryOut {} {}).run.interpret (Serial.handlers fun _ => .ofMillis 9)).run
    ⟨(run overlapping).store, 0⟩).1

/-- The transfer belongs to the request that is made again by other rates, and is repeated. The
entry under the reference of its side belongs to no deposit, and the deposit is refused. -/
theorem detects_reuse_overlapping :
    (Completed Sample.overlapping Sample.transferAgain ∧
      ∃ receipt, Sample.answer Sample.transferAgain = .ok ⟨receipt, true⟩) ∧
    ¬ Completed Sample.overlapping Sample.intruder ∧
      Sample.answer Sample.intruder = .error (.idempotencyConflict "share-out") := by
  have quiet : (run Sample.overlapping).store.live.rows = [] := by decide +kernel
  have idle (t : TransactionId) : (run Sample.overlapping).store.live.get? t = none := by
    rw [Table.get?, quiet]
    rfl
  have orders : (run Sample.overlapping).orders = [Sample.deposit, Sample.transfer] := by
    rw [orders, Sample.published_overlapping]
    rfl
  have apart : Sha256.Apart [Sample.intruder.requestBytes, Sample.deposit.requestBytes,
      Sample.transfer.requestBytes] := by
    show ∀ a ∈ _, ∀ b ∈ _, _ → _
    decide +kernel
  constructor
  · have apart' : Sha256.Apart (Sample.transferAgain.requestBytes ::
        (run Sample.overlapping).orders.map Order.requestBytes) := by
      rw [orders]
      refine apart.mono fun m mem => ?_
      simp only [List.map_cons, List.map_nil, List.mem_cons, List.not_mem_nil, or_false] at mem ⊢
      exact Or.inr (mem.elim Or.inr id)
    have counted : Sample.transferAgain.Countable := by
      rw [Order.Countable]
      decide
    have claimed : ∃ entry ∈ (run Sample.overlapping).store.entries,
        ∃ r ∈ Sample.transferAgain.claims, entry.reference = some r := by decide +kernel
    have replayed : (Sample.answer Sample.transferAgain).map (·.replayed) = .ok true := by
      decide +kernel
    obtain ⟨⟨receipt, _⟩, answer, rfl⟩ := map_eq_ok.1 replayed
    obtain ⟨-, known, -⟩ := (detects_reuse Sample.overlapping Sample.transferAgain {} {} _ 0
      Sample.datable_overlapping Sample.countable_overlapping counted idle apart').1 claimed
    exact ⟨known.1 ⟨receipt, answer⟩, receipt, answer⟩
  · have apart' : Sha256.Apart (Sample.intruder.requestBytes ::
        (run Sample.overlapping).orders.map Order.requestBytes) := by
      rw [orders]
      exact apart
    have counted : Sample.intruder.Countable := by
      rw [Order.Countable]
      decide
    have claimed : ∃ entry ∈ (run Sample.overlapping).store.entries,
        ∃ r ∈ Sample.intruder.claims, entry.reference = some r := by decide +kernel
    have refused : Sample.answer Sample.intruder = .error (.idempotencyConflict "share-out") := by
      decide +kernel
    obtain ⟨-, known, -⟩ := (detects_reuse Sample.overlapping Sample.intruder {} {} _ 0
      Sample.datable_overlapping Sample.countable_overlapping counted idle apart').1 claimed
    refine ⟨fun completed => ?_, refused⟩
    obtain ⟨receipt, replayed⟩ := known.2 completed
    cases replayed.symm.trans refused

end World

end CurrencyLedger
