import CurrencyLedger.Proofs.Store.Others
import CurrencyLedger.Proofs.Units.Basic
import Mathlib.Algebra.Ring.Int.Defs
import Mathlib.Data.List.Induction

/-! # What units of work do to accounts

* **`Course`** — what a unit of work is about to publish for an account, from what is published and
  what it was answered;
* **`Units.Collects`**, **`Units.collects_of_step`** — what an answered call does to the balances
  that a transaction has collected;
* **`Units.Accounted`**, **`Units.accounted_run`** — every account takes its course for every unit
  of work under way, whatever happens. -/

namespace CurrencyLedger

/-- A transaction begins at once. -/
theorem Store.step_begin (s : Store) (t : TransactionId) :
    s.step t (.ofMillis 0) .begin = .answered (s.begin t) (.ok ()) := rfl

/-! ## The course of an account -/

/-- What a unit of work is about to publish for an account, from what is published and from what the
unit has given the account to begin with and added to it. -/
inductive Course : Option Int → List Int → List Int → Option Int → Prop
  /-- The unit has changed nothing. -/
  | untouched (published : Option Int) : Course published [] [] none
  /-- The unit has moved a published balance. -/
  | moved (published : Int) {deltas : List Int} (changed : deltas ≠ []) :
    Course (some published) [] deltas (some (published + deltas.sum))
  /-- The unit has made the balance, and may have moved it. -/
  | made (initial : Int) (deltas : List Int) :
    Course none [initial] deltas (some (initial + deltas.sum))

namespace Course

variable {published staged : Option Int} {initials deltas : List Int}

/-- The course of an account after what the unit sees of it is moved. -/
theorem move (course : Course published initials deltas staged) {available : Int} (delta : Int)
    (current : staged.or published = some available) :
    Course published initials (deltas ++ [delta]) (some (available + delta)) := by
  cases course with
  | untouched =>
    rw [Option.none_or] at current
    rw [current]
    have next := Course.moved available (List.cons_ne_nil delta [])
    rwa [List.sum_cons, List.sum_nil, Int.add_zero] at next
  | moved amount changed =>
    obtain rfl : amount + deltas.sum = available := by simpa using current
    have next := Course.moved amount (List.concat_ne_nil delta deltas)
    rwa [List.sum_append, List.sum_cons, List.sum_nil, Int.add_zero, ← Int.add_assoc] at next
  | made initial =>
    obtain rfl : initial + deltas.sum = available := by simpa using current
    have next := Course.made initial (deltas ++ [delta])
    rwa [List.sum_append, List.sum_cons, List.sum_nil, Int.add_zero, ← Int.add_assoc] at next

/-- The course of an account after its balance is made: the unit has not seen one before. -/
theorem make (course : Course published initials deltas staged) (initial : Int)
    (current : staged.or published = none) :
    Course published (initials ++ [initial]) deltas (some initial) := by
  cases course with
  | untouched =>
    rw [Option.none_or] at current
    rw [current]
    have next := Course.made initial []
    rwa [List.sum_nil, Int.add_zero] at next
  | moved => cases current
  | made => cases current

/-- An account that a unit does not change takes the same course whatever is published of it. -/
theorem republish (course : Course published initials deltas none) (other : Option Int) :
    Course other initials deltas none := by
  cases course
  exact .untouched other

end Course

namespace Units

variable {w w' : Units} {s s' : Store} {t u : TransactionId} {account : Account}

/-! ## What a call collects -/

/-- A call that belongs to no transaction leaves balances, entries and transactions as they were. -/
theorem eq_of_isCommon {now : Instant} {c : Call} {answer : Except StoreError c.Answer}
    (common : c.isCommon = true) (step : s.step t now c = .answered s' answer) :
    s'.live = s.live ∧ s'.balances = s.balances ∧ s'.entries = s.entries := by
  cases c <;> cases common <;> cases step <;> exact ⟨rfl, rfl, rfl⟩

/-- What a call of one unit of work adds to an account is nothing that another one adds. -/
theorem Deed.delta?_of_ne {deed : Deed} (other : deed.unit ≠ some t) :
    deed.delta? t account = none := by
  unfold Deed.delta?
  split
  case h_1 u _ _ _ => exact if_neg fun same => other (congrArg some same.1)
  case h_2 => rfl

/-- What a call of one unit of work gives an account is nothing that another one gives. -/
theorem Deed.initial?_of_ne {deed : Deed} (other : deed.unit ≠ some t) :
    deed.initial? t account = none := by
  unfold Deed.initial?
  split
  case h_1 u _ _ => exact if_neg fun same => other (congrArg some same.1)
  case h_2 => rfl

/-- A call of which nothing came neither gives nor adds anything. -/
theorem Deed.delta?_error (unit : Option TransactionId) (c : Call) (e : StoreError) :
    Deed.delta? t account ⟨unit, c, .error e⟩ = none := by
  cases unit <;> cases c <;> rfl

theorem Deed.initial?_error (unit : Option TransactionId) (c : Call) (e : StoreError) :
    Deed.initial? t account ⟨unit, c, .error e⟩ = none := by
  cases unit <;> cases c <;> rfl

/-- What an answered call of a transaction does to the balances that the transaction has
collected. -/
inductive Collects (t : TransactionId) (s s' : Store) (deed : Deed) : Prop
  /-- It does nothing to them. -/
  | nothing (balances : s'.balances = s.balances)
    (staged : (s'.transaction t).staged = (s.transaction t).staged)
    (delta : ∀ account, deed.delta? t account = none)
    (initial : ∀ account, deed.initial? t account = none)
  /-- It moves what the transaction sees of an account. -/
  | move (account : Account) (available delta : Int) (balances : s'.balances = s.balances)
    (current : s.current? t account = some available) (nonneg : 0 ≤ available + delta)
    (staged : (s'.transaction t).staged =
      (s.transaction t).staged.insert account (available + delta))
    (delta : ∀ other, deed.delta? t other = if account = other then some delta else none)
    (initial : ∀ account, deed.initial? t account = none)
  /-- It makes a balance where the transaction sees none. -/
  | make (account : Account) (initial : Int) (balances : s'.balances = s.balances)
    (current : s.current? t account = none) (call : deed.call = .create account initial)
    (staged : (s'.transaction t).staged = (s.transaction t).staged.insert account initial)
    (delta : ∀ account, deed.delta? t account = none)
    (initial : ∀ other, deed.initial? t other = if account = other then some initial else none)
  /-- It ends the transaction. -/
  | ended (gone : s'.live.get? t = none)

/-- Every answered call of a transaction collects something or nothing. -/
theorem collects_of_step {now : Instant} {c : Call} {answer : Except StoreError c.Answer}
    (own : c.isOwn = true) (step : s.step t now c = .answered s' answer) :
    Collects t s s' ⟨some t, c, answer⟩ := by
  cases c with
  | lock account =>
    obtain ⟨-, rfl, -⟩ := Store.lock_eq_answered step
    refine .nothing rfl ?_ (fun _ => rfl) fun _ => rfl
    rw [Store.transaction_update_self, Transaction.staged_hold]
  | create account initial =>
    rcases Store.create_eq_answered step with
      ⟨-, rfl, rfl⟩ | ⟨-, -, ⟨-, rfl, rfl⟩ | ⟨current, rfl, rfl⟩⟩
    · exact .nothing rfl rfl (fun _ => rfl) fun _ => rfl
    · refine .nothing rfl ?_ (fun _ => rfl) fun _ => rfl
      rw [Store.transaction_update_self, Transaction.staged_hold]
    · refine .make account initial rfl current rfl ?_ (fun _ => rfl) fun other => ?_
      · rw [Store.transaction_update_self]
      · simp [Deed.initial?]
  | apply account delta =>
    cases step
    rcases Store.apply_cases s t account delta with
      ⟨e, h⟩ | ⟨available, balance, -, current, moved, h⟩
    · rw [h]
      exact .nothing rfl rfl (fun _ => rfl) fun _ => rfl
    · obtain ⟨rfl, nonneg, -⟩ := Store.moved_eq_ok moved
      rw [h]
      refine .move account available delta rfl current nonneg ?_ (fun other => ?_) fun _ => rfl
      · rw [Store.transaction_update_self]
      · simp [Deed.delta?]
  | find reference =>
    cases step
    exact .nothing rfl rfl (fun _ => rfl) fun _ => rfl
  | append posting =>
    cases step
    rcases Store.append_cases s t now posting with ⟨-, h⟩ | ⟨reference, -, -, h⟩ | ⟨-, h⟩
    · rw [h]
      exact .nothing rfl rfl (fun _ => rfl) fun _ => rfl
    · rw [h]
      exact .nothing rfl rfl (fun _ => rfl) fun _ => rfl
    · rw [h]
      refine .nothing rfl ?_ (fun _ => rfl) fun _ => rfl
      rw [Store.transaction_update_self]
  | commit =>
    cases step
    rcases Store.commit_cases s t with ⟨reference, -, -, h⟩ | ⟨-, h⟩
    · rw [h]
      exact .ended (Table.get?_erase_self _ t)
    · rw [h]
      exact .ended (Table.get?_erase_self _ t)
  | rollback =>
    cases step
    exact .ended (Table.get?_erase_self _ t)
  | _ => cases own

/-- Every account takes its course for a transaction that makes a call and goes on. -/
theorem Collects.course {deed : Deed} {initials deltas : Account → List Int}
    (collects : Collects t s s' deed) (goes_on : (s'.live.get? t).isSome = true)
    (course : ∀ account, Course (s.balances.get? account) (initials account) (deltas account)
      ((s.transaction t).staged.get? account)) (account : Account) :
    Course (s'.balances.get? account) (initials account ++ (deed.initial? t account).toList)
      (deltas account ++ (deed.delta? t account).toList)
      ((s'.transaction t).staged.get? account) := by
  cases collects with
  | nothing balances staged delta initial =>
    rw [balances, staged, delta, initial, Option.toList_none, List.append_nil, List.append_nil]
    exact course account
  | move here available change balances current nonneg staged delta initial =>
    rw [balances, staged, delta, initial, Table.get?_insert, Option.toList_none, List.append_nil]
    by_cases same : account = here
    · subst same
      rw [if_pos rfl, if_pos rfl, Option.toList_some]
      exact (course account).move change current
    · rw [if_neg same, if_neg (Ne.symm same), Option.toList_none, List.append_nil]
      exact course account
  | make here amount balances current call staged delta initial =>
    rw [balances, staged, delta, initial, Table.get?_insert, Option.toList_none, List.append_nil]
    by_cases same : account = here
    · subst same
      rw [if_pos rfl, if_pos rfl, Option.toList_some]
      exact (course account).make amount current
    · rw [if_neg same, if_neg (Ne.symm same), Option.toList_none, List.append_nil]
      exact course account
  | ended gone =>
    rw [gone] at goes_on
    cases goes_on

/-- Every account takes its course for a transaction whatever others do: what it is about to change
it holds. -/
theorem course_of_others {initials deltas : List Int} (sound : s.Sound)
    (others : Store.Others t s s')
    (course : Course (s.balances.get? account) initials deltas
      ((s.transaction t).staged.get? account)) :
    Course (s'.balances.get? account) initials deltas
      ((s'.transaction t).staged.get? account) := by
  rw [others.transaction]
  by_cases held : account ∈ (s.transaction t).held
  · rwa [others.balances account held]
  · have unchanged : (s.transaction t).staged.get? account = none :=
      Option.eq_none_iff_forall_ne_some.2 fun _ staged => held (sound.staged_held staged)
    rw [unchanged] at course ⊢
    exact course.republish _

/-! ## Every account takes its course -/

/-- The store is sound, units of work have numbers that were given out, and every account takes its
course for every unit of work under way. -/
structure Accounted (w : Units) : Prop where
  /-- The store is sound. -/
  sound : w.store.Sound
  /-- No unit of work has a number that was not given out. -/
  given : ∀ {t}, w.isLive t = true → t < w.next
  /-- No call was made under such a number. -/
  known : ∀ deed ∈ w.deeds, ∀ t, deed.unit = some t → t < w.next
  /-- Every account takes its course. -/
  course : ∀ {t}, w.isLive t = true → ∀ account,
    Course (w.store.balances.get? account) (w.initials t account) (w.deltas t account)
      (w.staged? t account)

@[simp] theorem deltas_note (w : Units) (store : Store) (deed : Deed) (t : TransactionId)
    (account : Account) :
    (w.note store deed).deltas t account =
      w.deltas t account ++ (deed.delta? t account).toList := by
  rw [deltas, note, List.filterMap_append]
  cases h : deed.delta? t account <;> simp [deltas, h]

@[simp] theorem initials_note (w : Units) (store : Store) (deed : Deed) (t : TransactionId)
    (account : Account) :
    (w.note store deed).initials t account =
      w.initials t account ++ (deed.initial? t account).toList := by
  rw [initials, note, List.filterMap_append]
  cases h : deed.initial? t account <;> simp [initials, h]

/-- A unit of work stays under way, or over, while others are asked. -/
theorem isLive_of_others (others : Store.Others t w.store w'.store) :
    w'.isLive t = w.isLive t := by
  rw [isLive, isLive, others.live]

/-- Every account takes its course for a unit of work while others are asked. -/
theorem Accounted.course_note (accounted : w.Accounted) {deed : Deed}
    (others : Store.Others t w.store s) (other : deed.unit ≠ some t) (live : w.isLive t = true)
    (account : Account) :
    Course (s.balances.get? account) ((w.note s deed).initials t account)
      ((w.note s deed).deltas t account) ((w.note s deed).staged? t account) := by
  rw [deltas_note, initials_note, Deed.delta?_of_ne other, Deed.initial?_of_ne other,
    Option.toList_none, List.append_nil, List.append_nil]
  exact course_of_others accounted.sound others (accounted.course live account)

/-- Every account takes its course after a call of a unit of work, for that unit and for the
others. -/
theorem Accounted.note (accounted : w.Accounted) {c : Call} {answer : Except StoreError c.Answer}
    (live : w.isLive t = true) (sound : s.Sound)
    (collects : Collects t w.store s ⟨some t, c, answer⟩)
    (others : ∀ u, u ≠ t → Store.Others u w.store s) :
    (w.note s ⟨some t, c, answer⟩).Accounted where
  sound := sound
  given := by
    intro u goes_on
    by_cases same : u = t
    · rw [same]
      exact accounted.given live
    · rw [isLive_of_others (others u same)] at goes_on
      exact accounted.given goes_on
  known := by
    intro deed mem u unit
    rcases List.mem_append.1 mem with mem | mem
    · exact accounted.known deed mem u unit
    · obtain rfl := List.mem_singleton.1 mem
      obtain rfl := Option.some.inj unit
      exact accounted.given live
  course := by
    intro u goes_on account
    by_cases same : u = t
    · subst same
      rw [deltas_note, initials_note]
      exact collects.course goes_on (accounted.course live) account
    · rw [isLive_of_others (others u same)] at goes_on
      exact accounted.course_note (others u same) (fun h => same (Option.some.inj h).symm) goes_on
        account

/-- Every account takes its course after a unit of work has begun. -/
theorem Accounted.begin (accounted : w.Accounted) :
    ({ w with store := w.store.begin w.next, next := w.next + 1 } : Units).Accounted := by
  have sound := accounted.sound
  have others (t : TransactionId) (other : t ≠ w.next) :
      Store.Others t w.store (w.store.begin w.next) :=
    sound.others_step other (w.store.step_begin w.next)
  have old {t : TransactionId} (other : t ≠ w.next)
      (live : ((w.store.begin w.next).live.get? t).isSome = true) : w.isLive t = true := by
    rwa [(others t other).live] at live
  refine ⟨sound.step (w.store.step_begin w.next), fun {t} live => ?_,
    fun deed mem t unit => Nat.lt_succ_of_lt (accounted.known deed mem t unit),
    fun {t} live account => ?_⟩
  · by_cases same : t = w.next
    · exact same ▸ Nat.lt_succ_self _
    · exact Nat.lt_succ_of_lt (accounted.given (old same live))
  · by_cases same : t = w.next
    · -- No call was made yet under a number that was not given out.
      subst same
      have none : ∀ deed ∈ w.deeds, deed.unit ≠ some w.next := fun deed mem unit =>
        Nat.lt_irrefl _ (accounted.known deed mem _ unit)
      have deltas : w.deltas w.next account = [] :=
        List.filterMap_eq_nil_iff.2 fun deed mem => Deed.delta?_of_ne (none deed mem)
      have initials : w.initials w.next account = [] :=
        List.filterMap_eq_nil_iff.2 fun deed mem => Deed.initial?_of_ne (none deed mem)
      show Course _ (w.initials w.next account) (w.deltas w.next account)
        (((w.store.begin w.next).transaction w.next).staged.get? account)
      rw [deltas, initials, Store.begin, Store.transaction_update_self]
      exact .untouched _
    · exact course_of_others sound (others t same) (accounted.course (old same live) account)

/-- Every account takes its course after a unit of work is dropped. -/
theorem Accounted.drop (accounted : w.Accounted) (t : TransactionId) :
    ({ w with store := w.store.drop t } : Units).Accounted := by
  have sound := accounted.sound
  have old {u : TransactionId} (live : ((w.store.drop t).live.get? u).isSome = true) :
      u ≠ t ∧ w.isLive u = true := by
    have other : u ≠ t := by
      rintro rfl
      rw [show (w.store.drop u).live.get? u = none from Table.get?_erase_self _ u] at live
      cases live
    rw [(sound.others_drop other).live] at live
    exact ⟨other, live⟩
  exact ⟨sound.drop t, fun live => accounted.given (old live).2, accounted.known,
    fun live account => course_of_others sound (sound.others_drop (old live).1)
      (accounted.course (old live).2 account)⟩

/-- Every account takes its course after a call that belongs to no unit of work. -/
theorem Accounted.noteCommon (accounted : w.Accounted) {c : Call} {now : Instant}
    {answer : Except StoreError c.Answer} (common : c.isCommon = true)
    (step : w.store.step w.next now c = .answered s answer) :
    (w.note s ⟨none, c, answer⟩).Accounted := by
  have sound := accounted.sound
  have old {t : TransactionId} (live : (s.live.get? t).isSome = true) : w.isLive t = true := by
    rwa [(eq_of_isCommon common step).1] at live
  refine ⟨sound.step step, fun live => accounted.given (old live), fun deed mem t unit => ?_,
    fun {t} live account => ?_⟩
  · rcases List.mem_append.1 mem with mem | mem
    · exact accounted.known deed mem t unit
    · obtain rfl := List.mem_singleton.1 mem
      cases unit
  · have older : t ≠ w.next := Nat.ne_of_lt (accounted.given (old live))
    exact accounted.course_note (sound.others_step older step) (by simp) (old live) account

/-- Every account takes its course after every move. -/
theorem Accounted.acts {move : Move} (accounted : w.Accounted) (acts : w.Acts move w') :
    w'.Accounted := by
  have sound := accounted.sound
  cases acts with
  | idle => exact accounted
  | begin => exact accounted.begin
  | ask live own step =>
    exact accounted.note live (sound.step step) (collects_of_step own step)
      fun u other => sound.others_step other step
  | expire account live =>
    exact accounted.note live sound
      (.nothing rfl rfl (fun _ => Deed.delta?_error _ _ _) fun _ => Deed.initial?_error _ _ _)
      fun u _ => .refl sound
  | drop t => exact accounted.drop t
  | request common step => exact accounted.noteCommon common step

/-- Every account takes its course, whatever calls are made in whatever order. -/
theorem accounted_run (moves : List Move) : (run moves).Accounted := by
  induction moves using List.reverseRecOn with
  | nil =>
    have idle : ∀ t, (run []).isLive t = false := fun _ => rfl
    refine ⟨.empty, fun {t} live => ?_, fun _ mem => absurd mem List.not_mem_nil,
      fun {t} live => ?_⟩
    · rw [idle] at live
      cases live
    · rw [idle] at live
      cases live
  | append_singleton moves move ih =>
    rw [run, List.foldl_append]
    exact ih.acts (acts_act _ move)

end Units

end CurrencyLedger
