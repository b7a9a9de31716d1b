import CurrencyLedger.Operation.Script
import CurrencyLedger.Proofs.Store.Others

/-! # What scripts ensure

A script is asked about one call at a time, and between two calls the store belongs to others. What
a script ensures is said for every way in which they may use it.

* **`Trail`** — what a script has done so far;
* **`Surroundings`** — what may happen around the calls of a transaction;
* **`Script.Ensures`** — every call of a script meets a duty, and its result a promise;
* **`Script.ensures_bind`**, **`Operation.ensures_bind`** — scripts in a row;
* **`Script.ensures_ask`** — one call. -/

namespace CurrencyLedger

/-! ## Trails -/

/-- A call that was made. -/
structure Exchange where
  /-- The call. -/
  call : Call
  /-- Its answer. -/
  answer : Except StoreError call.Answer
  /-- The store that was asked. -/
  store : Store

/-- Whether a call was answered by publishing something. -/
def Exchange.publishes : Exchange → Bool
  | ⟨.commit, .ok _, _⟩ => true
  | ⟨.createWallet .., .ok _, _⟩ => true
  | _ => false

/-- Whether a call ends a transaction. -/
def Call.isEnd : Call → Bool
  | .commit | .rollback => true
  | _ => false

/-- Whether a call stands inside a transaction and makes no wallet. -/
def Call.isInner : Call → Bool
  | .begin | .commit | .rollback | .createWallet .. => false
  | _ => true

/-- What a script has done so far, the last first. -/
structure Trail where
  /-- The calls. -/
  calls : List Exchange := []
  /-- The stages. -/
  stages : List Transfer.Stage := []

namespace Trail

/-- The trail with one more call. -/
def add (trail : Trail) (c : Call) (answer : Except StoreError c.Answer) (s : Store) : Trail :=
  { trail with calls := ⟨c, answer, s⟩ :: trail.calls }

/-- The trail with one more stage. -/
def reach (trail : Trail) (stage : Transfer.Stage) : Trail :=
  { trail with stages := stage :: trail.stages }

/-- Whether one of the calls has published something. -/
def published (trail : Trail) : Bool := trail.calls.any Exchange.publishes

/-- How many transactions have ended. -/
def ended (trail : Trail) : Nat := trail.calls.countP (·.call.isEnd)

/-- The call that has ended a transaction, by the number of those that had ended before it. -/
def closing? (trail : Trail) (n : Nat) : Option Exchange :=
  (trail.calls.filter (·.call.isEnd)).reverse[n]?

@[simp] theorem stages_add (trail : Trail) (c : Call) (answer : Except StoreError c.Answer)
    (s : Store) : (trail.add c answer s).stages = trail.stages := rfl

@[simp] theorem published_add (trail : Trail) (c : Call) (answer : Except StoreError c.Answer)
    (s : Store) :
    (trail.add c answer s).published = (Exchange.publishes ⟨c, answer, s⟩ || trail.published) := rfl

theorem ended_add (trail : Trail) (c : Call) (answer : Except StoreError c.Answer) (s : Store) :
    (trail.add c answer s).ended = trail.ended + if c.isEnd then 1 else 0 := by
  rw [add, ended, ended, List.countP_cons]

/-- As many calls have ended a transaction as transactions have ended. -/
theorem closing?_eq_none {trail : Trail} {n : Nat} (h : trail.ended ≤ n) :
    trail.closing? n = none := by
  rw [closing?, List.getElem?_eq_none_iff, List.length_reverse]
  rwa [ended, List.countP_eq_length_filter] at h

/-- A call that ends a transaction comes after those that ended one before. -/
theorem closing?_add (trail : Trail) (c : Call) (answer : Except StoreError c.Answer) (s : Store)
    (n : Nat) : (trail.add c answer s).closing? n =
      if c.isEnd = true ∧ n = trail.ended then some ⟨c, answer, s⟩ else trail.closing? n := by
  have count : (trail.calls.filter (·.call.isEnd)).reverse.length = trail.ended := by
    rw [List.length_reverse, ended, List.countP_eq_length_filter]
  rw [closing?, add, List.filter_cons]
  cases ends : c.isEnd with
  | false => rfl
  | true =>
    rw [if_pos rfl, List.reverse_cons, closing?]
    -- The end is the last of the list, in the place that counts those before.
    rcases Nat.lt_trichotomy n trail.ended with before | rfl | beyond
    · rw [List.getElem?_append_left (count ▸ before), if_neg fun h => Nat.ne_of_lt before h.2]
    · rw [List.getElem?_append_right (Nat.le_of_eq count), count, Nat.sub_self, if_pos ⟨rfl, rfl⟩]
      rfl
    · rw [if_neg fun h => Nat.ne_of_gt beyond h.2, List.getElem?_eq_none,
        List.getElem?_eq_none (count.trans_le (Nat.le_of_lt beyond))]
      rw [List.length_append, count]
      exact beyond

/-- What has ended a transaction is not changed by further calls. -/
theorem closing?_of_suffix {trail trail' : Trail} {n : Nat} (further : trail.calls <:+ trail'.calls)
    (before : n < trail.ended) : trail'.closing? n = trail.closing? n := by
  obtain ⟨calls, h⟩ := further
  rw [closing?, closing?, ← h, List.filter_append, List.reverse_append, List.getElem?_append_left]
  rw [List.length_reverse, ← List.countP_eq_length_filter]
  exact before

/-- A trail that ends with the end of a transaction has it in its place. -/
theorem closing?_of_calls {trail : Trail} {exchange : Exchange} {calls : List Exchange} {n : Nat}
    (last : trail.calls = exchange :: calls) (ends : exchange.call.isEnd = true)
    (count : trail.ended = n + 1) : trail.closing? n = some exchange := by
  have before : (⟨calls, trail.stages⟩ : Trail).ended = n := by
    rw [ended, last, List.countP_cons, if_pos ends] at count
    exact Nat.succ.inj count
  have whole : trail =
      (⟨calls, trail.stages⟩ : Trail).add exchange.call exchange.answer exchange.store :=
    congrArg (Trail.mk · trail.stages) last
  rw [whole, closing?_add, if_pos ⟨ends, before.symm⟩]

/-- Every transaction that has ended was ended by a call. -/
theorem exists_closing? {trail : Trail} {n : Nat} (before : n < trail.ended) :
    ∃ exchange, trail.closing? n = some exchange := by
  rw [ended, List.countP_eq_length_filter, ← List.length_reverse] at before
  exact ⟨_, List.getElem?_eq_getElem before⟩

/-- Whether something holds of the store until the transaction ends before which `n` have ended. -/
structure Until (n : Nat) (I : Store → Prop) (trail : Trail) (s : Store) : Prop where
  /-- The `n` transactions have ended. -/
  least : n ≤ trail.ended
  /-- It holds now, if the transaction is under way. -/
  holds : trail.ended = n → I s
  /-- It held when the transaction was ended. -/
  closed : ∀ exchange, trail.closing? n = some exchange → I exchange.store

/-- Whether only calls inside a transaction were added to a trail. -/
structure Within (trail trail' : Trail) : Prop where
  /-- No stage was reached. -/
  stages : trail'.stages = trail.stages
  /-- Nothing was published. -/
  published : trail'.published = trail.published
  /-- No transaction has ended. -/
  ended : trail'.ended = trail.ended

/-- Whether stages and calls inside a transaction were added to a trail. -/
structure Reaches (stages : List Transfer.Stage) (trail trail' : Trail) : Prop where
  /-- The stages, in order. -/
  stages : trail'.stages = stages.reverse ++ trail.stages
  /-- Nothing was published. -/
  published : trail'.published = trail.published
  /-- No transaction has ended. -/
  ended : trail'.ended = trail.ended

/-- Calls inside a transaction add no stages. -/
theorem Within.reaches {trail trail' : Trail} (within : Within trail trail') :
    Reaches [] trail trail' := ⟨within.stages, within.published, within.ended⟩

/-- Calls before add no stages. -/
theorem Within.reaches_of_reaches {stages : List Transfer.Stage} {a b c : Trail}
    (within : Within a b) (reaches : Reaches stages b c) : Reaches stages a c :=
  ⟨reaches.stages.trans (congrArg _ within.stages), reaches.published.trans within.published,
    reaches.ended.trans within.ended⟩

/-- More calls add no stages. -/
theorem Reaches.within {stages : List Transfer.Stage} {a b c : Trail} (reaches : Reaches stages a b)
    (within : Within b c) : Reaches stages a c :=
  ⟨within.stages.trans reaches.stages, within.published.trans reaches.published,
    within.ended.trans reaches.ended⟩

/-- One more stage is the last one. -/
theorem Reaches.reach {stages : List Transfer.Stage} {a b : Trail} (reaches : Reaches stages a b)
    (stage : Transfer.Stage) : Reaches (stages ++ [stage]) a (b.reach stage) := by
  refine ⟨?_, reaches.published, reaches.ended⟩
  rw [Trail.reach, reaches.stages, List.reverse_append]
  rfl

theorem Within.refl (trail : Trail) : Within trail trail := ⟨rfl, rfl, rfl⟩

theorem Within.trans {a b c : Trail} (first : Within a b) (second : Within b c) : Within a c :=
  ⟨second.stages.trans first.stages, second.published.trans first.published,
    second.ended.trans first.ended⟩

/-- The beginning of a transaction and the calls inside publish and end nothing. -/
theorem Within.add {trail trail' : Trail} (within : Within trail trail') {c : Call}
    (inner : c = .begin ∨ c.isInner = true) (answer : Except StoreError c.Answer) (s : Store) :
    Within trail (trail'.add c answer s) := by
  refine ⟨within.stages, ?_, ?_⟩
  · rw [published_add, ← within.published]
    cases c <;> simp_all [Exchange.publishes, Call.isInner]
  · rw [ended_add, ← within.ended]
    cases c <;> simp_all [Call.isEnd, Call.isInner]

end Trail

/-! ## Surroundings -/

/-- What may happen around the calls of a transaction. -/
structure Surroundings (t : TransactionId) where
  /-- What may become of a store until the next call. -/
  between : Store → Store → Prop
  /-- Whether waiting for the lock of an account may be in vain. -/
  expires : Store → Account → Prop
  /-- What the clock may show. -/
  shows : Instant → Prop
  rely : ∀ {s s'}, between s s' → Store.Others t s s'
  trans : ∀ {s s' s''}, between s s' → between s' s'' → between s s''
  missing : ∀ {s s' account}, between s s' → expires s' account →
    account ∉ (s'.transaction t).held

namespace Surroundings

variable {t : TransactionId}

/-- The stores that a transaction may come to ask. -/
def Meets (e : Surroundings t) (s' : Store) : Prop := ∃ s, e.between s s'

theorem Meets.sound {e : Surroundings t} {s : Store} (meets : e.Meets s) : s.Sound :=
  meets.elim fun _ between => (e.rely between).sound

end Surroundings

/-! ## What scripts ensure -/

namespace Script

variable {α β : Type} {t : TransactionId} {e : Surroundings t} {P P' : Trail → Call → Store → Prop}
  {trail : Trail} {s s' : Store}

/-- A script with a trail, asking a store, meets the duty `P` in each of its calls and keeps the
promise `Q` with its result. -/
def Ensures (e : Surroundings t) (P : Trail → Call → Store → Prop) (Q : α → Trail → Store → Prop) :
    Script α → Trail → Store → Prop
  | .done a, trail, s => Q a trail s
  | .call c next, trail, s => ∀ s', e.between s s' →
      P trail c s' ∧
      (∀ now s'' answer, s'.step t now c = .answered s'' answer →
        (next answer).Ensures e P Q (trail.add c answer s') s'') ∧
      ∀ account, c.locks? = some account → e.expires s' account →
        (next (.error (.lockTimeout account.text))).Ensures e P Q
          (trail.add c (.error (.lockTimeout account.text)) s') s'
  | .sleep _ next, trail, s => next.Ensures e P Q trail s
  | .advance stage next, trail, s => next.Ensures e P Q (trail.reach stage) s
  | .now next, trail, s => ∀ time, e.shows time → (next time).Ensures e P Q trail s

/-- What is ensured may be weakened. -/
theorem Ensures.mono {Q Q' : α → Trail → Store → Prop} {script : Script α}
    (h : script.Ensures e P Q trail s) (duty : ∀ trail c s, P trail c s → P' trail c s)
    (promise : ∀ a trail s, Q a trail s → Q' a trail s) : script.Ensures e P' Q' trail s := by
  induction script generalizing trail s with
  | done a => exact promise _ _ _ h
  | call c next ih =>
    intro s' between
    obtain ⟨met, answered, expired⟩ := h s' between
    exact ⟨duty _ _ _ met, fun now s'' answer step => ih _ (answered now s'' answer step),
      fun account locks expires => ih _ (expired account locks expires)⟩
  | sleep ms next ih => exact ih h
  | advance stage next ih => exact ih h
  | now next ih => exact fun time shows => ih time (h time shows)

/-- Scripts in a row ensure what the first one ensures the other needs. -/
theorem ensures_bind {Q : β → Trail → Store → Prop} {script : Script α} {f : α → Script β} :
    (script >>= f).Ensures e P Q trail s ↔
      script.Ensures e P (fun a trail s => (f a).Ensures e P Q trail s) trail s := by
  induction script generalizing trail s with
  | done a => exact Iff.rfl
  | call c next ih =>
    rw [call_bind]
    simp only [Ensures, ih]
  | sleep ms next ih => exact ih
  | advance stage next ih => exact ih
  | now next ih =>
    rw [now_bind]
    simp only [Ensures, ih]

/-- A script that is about to ask a store may as well ask what the store has become. -/
theorem Ensures.between {Q : α → Trail → Store → Prop} {c : Call}
    {next : Except StoreError c.Answer → Script α}
    (h : (Script.call c next).Ensures e P Q trail s) (between : e.between s s') :
    (Script.call c next).Ensures e P Q trail s' :=
  fun s'' more => h s'' (e.trans between more)

/-- What is ensured in two ways is ensured together. -/
theorem Ensures.and {Q Q' : α → Trail → Store → Prop} {script : Script α}
    (h : script.Ensures e P Q trail s) (h' : script.Ensures e P' Q' trail s) :
    script.Ensures e (fun trail c s => P trail c s ∧ P' trail c s)
      (fun a trail s => Q a trail s ∧ Q' a trail s) trail s := by
  induction script generalizing trail s with
  | done a => exact ⟨h, h'⟩
  | call c next ih =>
    intro s' between
    obtain ⟨met, answered, expired⟩ := h s' between
    obtain ⟨met', answered', expired'⟩ := h' s' between
    exact ⟨⟨met, met'⟩,
      fun now s'' answer step => ih _ (answered now s'' answer step) (answered' now s'' answer step),
      fun account locks expires => ih _ (expired account locks expires)
        (expired' account locks expires)⟩
  | sleep ms next ih => exact ih h h'
  | advance stage next ih => exact ih h h'
  | now next ih => exact fun time shows => ih time (h time shows) (h' time shows)

/-- Every script ensures what is always so. -/
theorem ensures_true (e : Surroundings t) (script : Script α) (trail : Trail) (s : Store) :
    script.Ensures e (fun _ _ _ => True) (fun _ _ _ => True) trail s := by
  induction script generalizing trail s with
  | done a => trivial
  | call c next ih =>
    exact fun s' between => ⟨trivial, fun now s'' answer step => ih _ _ _,
      fun account locks expires => ih _ _ _⟩
  | sleep ms next ih => exact ih _ _
  | advance stage next ih => exact ih _ _
  | now next ih => exact fun time shows => ih time _ _

/-- A script only adds calls to its trail. -/
theorem ensures_suffix (e : Surroundings t) (script : Script α) (trail : Trail) (s : Store) :
    script.Ensures e (fun trail' _ _ => trail.calls <:+ trail'.calls)
      (fun _ trail' _ => trail.calls <:+ trail'.calls) trail s := by
  induction script generalizing trail s with
  | done a => exact List.suffix_rfl
  | call c next ih =>
    have more (answer : Except StoreError c.Answer) (s' s'' : Store) :
        (next answer).Ensures e (fun trail' _ _ => trail.calls <:+ trail'.calls)
          (fun _ trail' _ => trail.calls <:+ trail'.calls) (trail.add c answer s') s'' := by
      have longer {trail' : Trail} (further : (trail.add c answer s').calls <:+ trail'.calls) :
          trail.calls <:+ trail'.calls := (List.suffix_cons _ _).trans further
      exact (ih answer (trail.add c answer s') s'').mono (fun _ _ _ => longer) fun _ _ _ => longer
    exact fun s' between => ⟨List.suffix_rfl, fun now s'' answer step => more _ _ _,
      fun account locks expires => more _ _ _⟩
  | sleep ms next ih => exact ih trail s
  | advance stage next ih => exact ih (trail.reach stage) s
  | now next ih => exact fun time shows => ih time trail s

/-- What holds of the store of a transaction, and is changed neither by others nor by calls of the
transaction itself before its end, holds until the transaction ends. -/
theorem Ensures.until_end {I : Store → Prop} {Q : α → Trail → Store → Prop} {script : Script α}
    {n : Nat} (between : ∀ {s s'}, e.between s s' → I s → I s')
    (own : ∀ {trail c s now s' answer}, P trail c s → c.isEnd = false → I s →
      s.step t now c = .answered s' answer → I s')
    (h : script.Ensures e P Q trail s) (now : trail.Until n I s) :
    script.Ensures e (fun trail c s => P trail c s ∧ trail.Until n I s)
      (fun a trail s => Q a trail s ∧ trail.Until n I s) trail s := by
  induction script generalizing trail s with
  | done a => exact ⟨h, now⟩
  | call c next ih =>
    intro s' more
    obtain ⟨met, answered, expired⟩ := h s' more
    have here : trail.Until n I s' := ⟨now.least, fun same => between more (now.holds same), now.closed⟩
    -- As long as `n` transactions have ended, no call has ended the next one.
    have inner {answer : Except StoreError c.Answer} (same : (trail.add c answer s').ended = n) :
        trail.ended = n ∧ c.isEnd = false := by
      have least := now.least
      rw [Trail.ended_add] at same
      cases ends : c.isEnd with
      | false => exact ⟨by simpa [ends] using same, rfl⟩
      | true =>
        rw [ends, if_pos rfl] at same
        omega
    have further {answer : Except StoreError c.Answer} {s'' : Store}
        (holds : (trail.add c answer s').ended = n → I s'') :
        (trail.add c answer s').Until n I s'' := by
      refine ⟨?_, holds, fun exchange ends => ?_⟩
      · rw [Trail.ended_add]
        exact Nat.le_add_right_of_le now.least
      · rw [Trail.closing?_add] at ends
        split at ends
        case isTrue last => cases ends; exact here.holds last.2.symm
        case isFalse => exact now.closed exchange ends
    refine ⟨⟨met, here⟩, fun time s'' answer step => ?_, fun account locks expires => ?_⟩
    · refine ih answer (answered time s'' answer step) (further fun same => ?_)
      obtain ⟨same, within⟩ := inner same
      exact own met within (here.holds same) step
    · exact ih _ (expired account locks expires) (further fun same => here.holds (inner same).1)
  | sleep ms next ih => exact ih h now
  | advance stage next ih => exact ih h ⟨now.least, now.holds, now.closed⟩
  | now next ih => exact fun time shows => ih time (h time shows) now

/-- A call whose lock is not needed is answered. -/
theorem ensures_ask {c : Call} {Q : Except StoreError c.Answer → Trail → Store → Prop}
    (free : c.locks? = none)
    (h : ∀ s', e.between s s' → P trail c s' ∧ ∀ now s'' answer,
      s'.step t now c = .answered s'' answer → Q answer (trail.add c answer s') s'') :
    (Script.ask c).Ensures e P Q trail s := by
  intro s' between
  obtain ⟨met, answered⟩ := h s' between
  refine ⟨met, answered, fun account locks => ?_⟩
  simp [free] at locks

end Script

/-! ## Operations -/

variable {α β ε ε' : Type} {t : TransactionId} {e : Surroundings t}
  {P : Trail → Call → Store → Prop} {trail : Trail} {s : Store}

/-- Scripts that may fail ensure in a row what the first one ensures the other needs. -/
theorem Operation.ensures_bind {Q : Except ε β → Trail → Store → Prop} {x : ExceptT ε Script α}
    {f : α → ExceptT ε Script β}
    (h : x.run.Ensures e P (fun result trail s =>
      match result with
      | .ok a => (f a).run.Ensures e P Q trail s
      | .error error => Q (.error error) trail s) trail s) :
    (x >>= f).run.Ensures e P Q trail s := by
  rw [ExceptT.run_bind]
  refine Script.ensures_bind.2 (h.mono (fun _ _ _ => id) fun result trail s => ?_)
  cases result <;> exact id

/-- A script of the store ensures the same as an operation, with the error it becomes. -/
theorem Operation.ensures_ofStore {Q : Except LedgerError α → Trail → Store → Prop}
    {x : StoreScript α}
    (h : x.run.Ensures e P (fun result => Q (result.mapError LedgerError.ofStore)) trail s) :
    (Operation.ofStore x).run.Ensures e P Q trail s :=
  Script.ensures_bind.2 h

/-- A result that is known already is ensured if it is promised. -/
theorem Operation.ensures_ofExcept {Q : Except LedgerError α → Trail → Store → Prop}
    {result : Except LedgerError α} (h : Q result trail s) :
    (Operation.ofExcept result).run.Ensures e P Q trail s := h

/-- Telling a stage adds it to the trail. -/
theorem Operation.ensures_reach {Q : Except LedgerError Unit → Trail → Store → Prop}
    {stage : Transfer.Stage} (h : Q (.ok ()) (trail.reach stage) s) :
    (Operation.reach stage).run.Ensures e P Q trail s := h

/-- The clock may show any of its times. -/
theorem Operation.ensures_clock {Q : Except LedgerError Instant → Trail → Store → Prop}
    (h : ∀ time, e.shows time → Q (.ok time) trail s) :
    Operation.clock.run.Ensures e P Q trail s := h

/-- An operation whose result is rewritten ensures what its own result does. -/
theorem Operation.ensures_map {Q : Except LedgerError β → Trail → Store → Prop} {f : α → β}
    {x : Operation α} (h : x.run.Ensures e P (fun result => Q (result.map f)) trail s) :
    (f <$> x).run.Ensures e P Q trail s := by
  rw [ExceptT.run_map, map_eq_pure_bind]
  exact Script.ensures_bind.2 h

end CurrencyLedger
