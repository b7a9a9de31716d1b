import CurrencyLedger.Proofs.Store.Ranged

/-! # Balances are moved exactly

A balance may be moved by any number of 64 bits, whatever was called before. The sum is checked, and
a sum below zero is told as a shortage: how much was asked for is the number with its sign turned.
That is not checked, and there is one number of 64 bits that leads beyond them so.

* **`Store.Counted`**, **`Units.counted_run`** — every amount can be counted, whatever happens;
* **`Store.applied?`**, **`Store.Applies`** — what comes of moving a balance;
* **`Store.applies`** — nothing else does, where amounts can be counted;
* **`Units.apply_exact`** — so it is whatever units of work have done, and a call that fails leaves
  everything as if it had not been made. -/

namespace CurrencyLedger

/-- The least number of 64 bits is the only one of them that leads beyond with the other sign. -/
theorem Decimal.isInt64_neg_iff {z : Int} (small : isInt64 z = true) :
    isInt64 (-z) = true ↔ z ≠ minInt64 := by
  rw [isInt64_iff] at small ⊢
  unfold minInt64 maxInt64 at *
  omega

namespace Store

variable {s s' : Store} {t : TransactionId} {account : Account} {available delta : Int}

/-! ## What comes of moving a balance -/

/-- What comes of moving a balance: a store and an answer, unless the call overruns 64 bits. -/
def applied? (s : Store) (t : TransactionId) (account : Account) (delta : Int) :
    Option (Store × Except StoreError Int) :=
  if s.overruns t (.apply account delta) then none else some (s.apply t account delta)

/-- What comes of moving a balance by a number of 64 bits, where amounts can be counted. -/
inductive Applies (s : Store) (t : TransactionId) (account : Account) (delta : Int) :
    Option (Store × Except StoreError Int) → Prop
  /-- The account is not locked. -/
  | notLocked (free : account ∉ (s.transaction t).held) :
      Applies s t account delta (some (s, .error (.notLocked account)))
  /-- It has no balance. -/
  | missing (held : account ∈ (s.transaction t).held) (absent : s.current? t account = none) :
      Applies s t account delta (some (s, .error (.missingBalance account)))
  /-- The sum is a balance, which the transaction is about to publish. -/
  | moved (available : Int) (held : account ∈ (s.transaction t).held)
      (current : s.current? t account = some available) (counted : IsBalance available)
      (sum : IsBalance (available + delta)) :
      Applies s t account delta (some
        (s.update t { s.transaction t with
          staged := (s.transaction t).staged.insert account (available + delta) },
          .ok (available + delta)))
  /-- The sum is too large. -/
  | overflow (available : Int) (held : account ∈ (s.transaction t).held)
      (current : s.current? t account = some available) (counted : IsBalance available)
      (large : Decimal.maxInt64 < available + delta) :
      Applies s t account delta (some (s, .error (.overflow account)))
  /-- The sum is below zero, and all that is told has 64 bits. -/
  | insufficient (available : Int) (held : account ∈ (s.transaction t).held)
      (current : s.current? t account = some available) (counted : IsBalance available)
      (short : available + delta < 0) (sum : Decimal.isInt64 (available + delta) = true)
      (required : Decimal.isInt64 (-delta) = true) :
      Applies s t account delta (some (s, .error (.insufficientFunds account (-delta) available)))
  /-- The sum is below zero, and what was asked for cannot be told. -/
  | overrun (available : Int) (held : account ∈ (s.transaction t).held)
      (current : s.current? t account = some available) (counted : IsBalance available)
      (sum : Decimal.isInt64 (available + delta) = true) (least : delta = Decimal.minInt64) :
      Applies s t account delta none

/-- A shortage that is told overruns if what was asked for has not 64 bits. -/
theorem overruns_of_insufficient {required : Int}
    (h : s.apply t account delta = (s', .error (.insufficientFunds account required available))) :
    s.overruns t (.apply account delta) = !Decimal.isInt64 required := by
  rw [overruns, h]

/-- A call whose answer does not overrun is answered so. -/
theorem applied?_of_apply {answer : Except StoreError Int}
    (h : s.apply t account delta = (s', answer))
    (fits : s.overruns t (.apply account delta) = false) :
    s.applied? t account delta = some (s', answer) := by
  rw [applied?, fits, if_neg Bool.false_ne_true, h]

/-- The sum of a balance and a number of 64 bits has 64 bits unless it is too large. -/
theorem IsBalance.isInt64_add (counted : IsBalance available)
    (small : Decimal.isInt64 delta = true) :
    Decimal.isInt64 (available + delta) = decide (available + delta ≤ Decimal.maxInt64) := by
  obtain ⟨nonneg, -⟩ := counted
  obtain ⟨low, -⟩ := Decimal.isInt64_iff.1 small
  have sum : Decimal.minInt64 ≤ available + delta := by omega
  rw [Decimal.isInt64, decide_eq_true sum, Bool.true_and]

/-- Moving a balance by a number of 64 bits comes to one of these, where amounts can be counted. -/
theorem applies
    (counted : ∀ available, s.current? t account = some available → IsBalance available)
    (small : Decimal.isInt64 delta = true) :
    s.Applies t account delta (s.applied? t account delta) := by
  by_cases held : account ∈ (s.transaction t).held
  case neg =>
    have h : s.apply t account delta = (s, .error (.notLocked account)) := by simp [apply, held]
    rw [applied?_of_apply h (by rw [overruns, h])]
    exact .notLocked held
  case pos =>
    cases current : s.current? t account with
    | none =>
      have h : s.apply t account delta = (s, .error (.missingBalance account)) := by
        simp [apply, held, current]
      rw [applied?_of_apply h (by rw [overruns, h])]
      exact .missing held current
    | some available =>
      have balance := counted available current
      have h := apply_of_mem_held delta held current
      rw [moved, balance.isInt64_add small] at h
      -- The sum is too large, or it is a balance, or it is below zero.
      rcases lt_or_ge Decimal.maxInt64 (available + delta) with large | fits
      · rw [decide_eq_false (Int.not_le.2 large), Bool.not_false, if_pos rfl] at h
        rw [applied?_of_apply h (by rw [overruns, h])]
        exact .overflow available held current balance large
      rw [decide_eq_true fits, Bool.not_true, if_neg Bool.false_ne_true] at h
      rcases lt_or_ge (available + delta) 0 with short | nonneg
      · have sum : Decimal.isInt64 (available + delta) = true := by
          rw [balance.isInt64_add small, decide_eq_true fits]
        rw [if_pos short] at h
        by_cases least : delta = Decimal.minInt64
        · have beyond : s.overruns t (.apply account delta) = true := by
            rw [overruns_of_insufficient h, Bool.not_eq_true', ← Bool.not_eq_true,
              Decimal.isInt64_neg_iff small]
            exact not_not_intro least
          rw [applied?, if_pos beyond]
          exact .overrun available held current balance sum least
        · have required := (Decimal.isInt64_neg_iff small).2 least
          rw [applied?_of_apply h (by rw [overruns_of_insufficient h, required, Bool.not_true])]
          exact .insufficient available held current balance short sum required
      · rw [if_neg (Int.not_lt.2 nonneg)] at h
        rw [applied?_of_apply h (by rw [overruns, h])]
        exact .moved available held current balance ⟨nonneg, fits⟩

/-! ## Amounts that can be counted -/

/-- What is published can be counted, and what is about to be. -/
structure Counted (s : Store) : Prop where
  /-- No transaction is about to publish what cannot be counted. -/
  ranged : s.Ranged
  /-- Nothing of the kind was published. -/
  published : ∀ {account amount}, s.balances.get? account = some amount → IsBalance amount

/-- What an account holds for a transaction can be counted. -/
theorem Counted.current (counted : s.Counted) (current : s.current? t account = some available) :
    IsBalance available := by
  rw [current?, Option.or_eq_some_iff] at current
  rcases current with staged | ⟨-, published⟩
  · exact counted.ranged.staged staged
  · exact counted.published published

/-- Whatever is answered, amounts can be counted, if no account is given one that cannot be. -/
theorem Counted.step (counted : s.Counted) (sound : s.Sound) {now : Instant} {c : Call}
    {answer : Except StoreError c.Answer} (step : s.step t now c = .answered s' answer)
    (given : ∀ account initial, c = .create account initial → IsBalance initial) : s'.Counted where
  ranged := counted.ranged.step sound step given
  published := by
    intro account amount h
    rcases sound.step_cases step with change | ⟨-, committed⟩
    · rw [change.published.1] at h
      exact counted.published h
    · rcases commit_cases s t with ⟨_, -, -, failed⟩ | ⟨-, published⟩
      · simp [committed] at failed
      · -- What is published was collected, or was published before.
        rw [committed] at published
        cases published
        rw [get?_balances_publish, Option.or_eq_some_iff] at h
        rcases h with h | ⟨-, h⟩
        · exact counted.ranged.staged h
        · exact counted.published h

end Store

namespace Units

variable {w w' : Units} {t : TransactionId} {account : Account} {delta : Int} {move : Move}

/-- Amounts can be counted after a move, if no account is given one that cannot be. -/
theorem counted_acts (sound : w.store.Sound) (counted : w.store.Counted)
    (given : ∀ t account initial now, move = .ask t (.create account initial) now →
      Store.IsBalance initial) (acts : w.Acts move w') : w'.store.Counted := by
  cases acts with
  | idle => exact counted
  | begin => exact counted.step sound (w.store.step_begin w.next) nofun
  | @ask t c now store answer live own step =>
    exact counted.step sound step fun account initial same =>
      given t account initial now (same ▸ rfl)
  | expire => exact counted
  | drop t => exact ⟨counted.ranged.drop t, counted.published⟩
  | @request c now store answer common step =>
    refine counted.step sound step fun account initial same => ?_
    rw [same] at common
    cases common

/-- Amounts can be counted whatever units of work do, if they give accounts nothing that cannot
be. -/
theorem counted_run {moves : List Move} (given : ∀ t account initial now,
    Move.ask t (.create account initial) now ∈ moves → Store.IsBalance initial) :
    (run moves).store.Counted := by
  induction moves using List.reverseRecOn with
  | nil => exact ⟨.empty, fun h => by cases h⟩
  | append_singleton moves move ih =>
    rw [run, List.foldl_append]
    refine counted_acts (accounted_run moves).sound
      (ih fun t account initial now mem => given t account initial now (List.mem_append_left _ mem))
      (fun t account initial now same => given t account initial now ?_) (acts_act _ move)
    exact same ▸ List.mem_append_right _ (List.mem_singleton_self _)

/-! ## A call that fails -/

/-- What happens to the store depends on the store, whatever was called before. -/
theorem store_act_congr (store : w'.store = w.store) (next : w'.next = w.next) (move : Move) :
    (w'.act move).store = (w.act move).store ∧ (w'.act move).next = (w.act move).next := by
  have live (t : TransactionId) : w'.isLive t = w.isLive t := by rw [isLive, isLive, store]
  cases move with
  | begin => exact ⟨by rw [act, act, store, next], by rw [act, act, next]⟩
  | ask t c now =>
    rw [act, act, live, store]
    split
    case isFalse => exact ⟨store, next⟩
    case isTrue =>
      cases w.store.step t now c with
      | blocked => exact ⟨store, next⟩
      | answered => exact ⟨rfl, next⟩
  | expire t c =>
    rw [act, act, live]
    split
    case h_1 => split <;> exact ⟨store, next⟩
    case h_2 => exact ⟨store, next⟩
  | drop t => exact ⟨by rw [act, act, store], next⟩
  | request c now =>
    rw [act, act, store, next]
    split
    case isFalse => exact ⟨store, next⟩
    case isTrue =>
      cases w.store.step w.next now c with
      | blocked => exact ⟨store, next⟩
      | answered => exact ⟨rfl, next⟩

/-- So does everything that happens later. -/
theorem store_foldl_congr (store : w'.store = w.store) (next : w'.next = w.next)
    (moves : List Move) : (moves.foldl act w').store = (moves.foldl act w).store := by
  induction moves generalizing w w' with
  | nil => exact store
  | cons move moves ih =>
    obtain ⟨store, next⟩ := store_act_congr store next move
    exact ih store next

/-- A call that moves no balance leaves the store as it was. -/
theorem store_act_of_error {e : StoreError} (now : Instant)
    (failed : (w.store.apply t account delta).2 = .error e) :
    (w.act (.ask t (.apply account delta) now)).store = w.store ∧
      (w.act (.ask t (.apply account delta) now)).next = w.next := by
  have same : (w.store.apply t account delta).1 = w.store := by
    rcases Store.apply_cases w.store t account delta with ⟨_, h⟩ | ⟨_, _, -, -, -, h⟩
    · rw [h]
    · rw [h] at failed
      cases failed
  rw [act]
  split
  case isTrue => exact ⟨same, rfl⟩
  case isFalse => exact ⟨rfl, rfl⟩

/-- Whatever units of work have done, if they have given accounts nothing that cannot be counted:
moving a balance by a number of 64 bits gives the sum, or is refused for the reason that applies,
and all that is computed and told has 64 bits. The one exception is the least number of 64 bits,
which has no negation among them: a shortage by it cannot be told, and the call is cut off. If a
balance is not moved, all stores that come later are as if that had not been tried. -/
theorem apply_exact (moves : List Move) (given : ∀ t account initial now,
    Move.ask t (.create account initial) now ∈ moves → Store.IsBalance initial)
    (t : TransactionId) (account : Account) (delta : Int) (small : Decimal.isInt64 delta = true) :
    (run moves).store.Applies t account delta ((run moves).store.applied? t account delta) ∧
    ∀ (e : StoreError) (now : Instant) (later : List Move),
      ((run moves).store.apply t account delta).2 = .error e →
      (later.foldl act ((run moves).act (.ask t (.apply account delta) now))).store =
        (later.foldl act (run moves)).store := by
  have counted := counted_run given
  refine ⟨Store.applies (fun available current => counted.current current) small, ?_⟩
  intro e now later failed
  -- The call is noted down among the deeds, so the two runs are alike in the store alone.
  obtain ⟨store, next⟩ := store_act_of_error now failed
  exact store_foldl_congr store next later

/-- A hundred are there for the unit of work. Five hundred less are refused, which changes nothing
that it publishes; the least number of 64 bits is the one that cannot be told. -/
theorem apply_exact_contended :
    (∀ t account initial now, Move.ask t (.create account initial) now ∈ Sample.contended →
      Store.IsBalance initial) ∧
    Decimal.isInt64 (-500) = true ∧ Decimal.isInt64 Decimal.minInt64 = true ∧
    (run Sample.contended).store.Applies 1 Sample.account (-500)
      (some ((run Sample.contended).store,
        .error (.insufficientFunds Sample.account 500 100))) ∧
    (((run Sample.contended).act (.ask 1 (.apply Sample.account (-500)) (.ofMillis 9))).act
      (.ask 1 .commit (.ofMillis 10))).store =
        ((run Sample.contended).act (.ask 1 .commit (.ofMillis 10))).store ∧
    (run Sample.contended).store.Applies 1 Sample.account Decimal.minInt64 none := by
  have given : ∀ t account initial now,
      Move.ask t (.create account initial) now ∈ Sample.contended → Store.IsBalance initial := by
    intro t account initial now mem
    simp only [Sample.contended, List.mem_cons, Move.ask.injEq, Call.create.injEq, reduceCtorEq,
      List.not_mem_nil, false_and, and_false, or_false, false_or] at mem
    rw [mem.2.1.2]
    exact ⟨by decide, by decide⟩
  have current : (run Sample.contended).store.current? 1 Sample.account = some 100 := by
    decide +kernel
  have short : (run Sample.contended).store.apply 1 Sample.account (-500) =
      ((run Sample.contended).store, .error (.insufficientFunds Sample.account 500 100)) :=
    Store.apply_of_mem_held (-500) (by decide +kernel) current
  have answered := Store.applied?_of_apply short (by rw [Store.overruns_of_insufficient short]; rfl)
  have least : (run Sample.contended).store.applied? 1 Sample.account Decimal.minInt64 = none :=
    if_pos (by decide +kernel)
  obtain ⟨refused, after⟩ :=
    apply_exact Sample.contended given 1 Sample.account (-500) (by decide)
  obtain ⟨cut, -⟩ :=
    apply_exact Sample.contended given 1 Sample.account Decimal.minInt64 (by decide)
  exact ⟨given, by decide, by decide, answered ▸ refused,
    after _ (.ofMillis 9) [.ask 1 .commit (.ofMillis 10)] (congrArg Prod.snd short), least ▸ cut⟩

end Units

end CurrencyLedger
