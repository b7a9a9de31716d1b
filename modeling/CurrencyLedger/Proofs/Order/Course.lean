import CurrencyLedger.Proofs.Order.Recall

/-! # Courses of attempts

An order is attempted again as long as its attempts fail in a way that is worth it, so how one of
the attempts has ended tells something about the result of them all.

* **`Order.Course`** — what the end of an attempt means for the result;
* **`Order.Spares`** — nothing is locked after an attempt by whose end a receipt was kept;
* **`Order.Tried`** — what is known of the attempts that have failed;
* **`Order.ensures_course`** — every attempt of an order is on such a course. -/

namespace CurrencyLedger.Order

variable {t : TransactionId} {e : Surroundings t} {trail trail' : Trail} {s s' : Store}
  {order : Order} {context : Context} {limit n : Nat} {exchange : Exchange}
  {result : Except LedgerError (Processed Receipt)}

/-! ## Ends of attempts -/

/-- The last call of an attempt ends its transaction. -/
theorem Ended.isEnd (ended : order.Ended e context result exchange s') :
    exchange.call.isEnd = true := by
  cases ended <;> rfl

/-- The end of an attempt takes no entries away. -/
theorem Ended.entries_isPrefix (ended : order.Ended e context result exchange s') :
    exchange.store.entries <+: s'.entries := by
  cases ended with
  | replayed => exact List.prefix_rfl
  | published => exact List.prefix_append _ _
  | collided => exact List.prefix_rfl
  | failed => exact List.prefix_rfl

/-- The transactions that have ended after an attempt are those from before it and its own. -/
theorem Concluded.closing?_cases (concluded : order.Concluded e context trail result trail' s')
    (further : trail.calls <:+ trail'.calls) (h : trail'.closing? n = some exchange) :
    (n < trail.ended ∧ trail.closing? n = some exchange) ∨
      (n = trail.ended ∧ e.Meets exchange.store ∧ order.Ended e context result exchange s') := by
  obtain ⟨last, calls, calls_eq, meets, ended⟩ := concluded.ended
  -- The attempt has ended one transaction, with its last call.
  rcases Nat.lt_trichotomy n trail.ended with before | rfl | beyond
  · rw [Trail.closing?_of_suffix further before] at h
    exact Or.inl ⟨before, h⟩
  · rw [Trail.closing?_of_calls calls_eq ended.isEnd concluded.more] at h
    cases h
    exact Or.inr ⟨rfl, meets, ended⟩
  · rw [Trail.closing?_eq_none (concluded.more.trans_le beyond)] at h
    cases h

/-! ## Courses -/

/-- What the end of one of several attempts, before which `n` have ended, means for the result. -/
inductive Course (e : Surroundings t) (order : Order) (context : Context) (limit n : Nat)
    (result : Except LedgerError (Processed Receipt)) (trail' : Trail) (exchange : Exchange) : Prop
    where
  /-- It was the last attempt, and there is none left if its result is worth another one. -/
  | last (s' : Store) (count : trail'.ended = n + 1) (meets : e.Meets exchange.store)
      (ended : order.Ended e context result exchange s')
      (spent : Retry.isRetryable result = true → limit ≤ n + 1) :
      Course e order context limit n result trail' exchange
  /-- It has failed, and one of the next attempts repeats the receipt if one was kept by then. -/
  | again (error : LedgerError) (s' : Store) (more : n + 1 < limit) (meets : e.Meets exchange.store)
      (ended : order.Ended e context (.error error) exchange s')
      (retryable : error.isRetryable = true)
      (repeats : ∀ receipt, order.Recorded receipt exchange.store → result = .ok ⟨receipt, true⟩) :
      Course e order context limit n result trail' exchange

/-- Whether a call needs no lock if a receipt was kept by the end of an attempt before it. -/
def Spares (order : Order) (trail : Trail) (c : Call) : Prop :=
  ∀ n exchange receipt, trail.closing? n = some exchange → order.Recorded receipt exchange.store →
    c.locks? = none

/-- What is known of the attempts that have ended: each has failed in a way that is worth another
one, and a receipt that was kept by then is kept. -/
def Tried (e : Surroundings t) (order : Order) (context : Context) (limit : Nat) (trail : Trail)
    (s : Store) : Prop :=
  ∀ n exchange, trail.closing? n = some exchange → n + 1 < limit ∧ e.Meets exchange.store ∧
    (∃ error s', order.Ended e context (.error error) exchange s' ∧ error.isRetryable = true) ∧
    ∀ receipt, order.Recorded receipt exchange.store → order.Recorded receipt s

/-- Attempts are on their courses when the last one has ended. -/
theorem Tried.course (tried : order.Tried e context limit trail s)
    (concluded : order.Concluded e context trail result trail' s')
    (further : trail.calls <:+ trail'.calls)
    (repeats : ∀ receipt, order.Recorded receipt s → result = .ok ⟨receipt, true⟩)
    (spent : Retry.isRetryable result = true → limit ≤ trail.ended + 1) (n : Nat)
    (exchange : Exchange) (h : trail'.closing? n = some exchange) :
    order.Course e context limit n result trail' exchange := by
  rcases concluded.closing?_cases further h with ⟨-, earlier⟩ | ⟨rfl, meets, ended⟩
  · obtain ⟨more, meets, ⟨error, s₁, ended, retryable⟩, kept⟩ := tried n exchange earlier
    exact .again error s₁ more meets ended retryable fun receipt recorded =>
      repeats receipt (kept receipt recorded)
  · exact .last s' concluded.more meets ended spent

/-- One more attempt has failed. -/
theorem Tried.further {error : LedgerError} (tried : order.Tried e context limit trail s)
    (concluded : order.Concluded e context trail (.error error) trail' s')
    (further : trail.calls <:+ trail'.calls)
    (repeats : ∀ receipt, order.Recorded receipt s →
      (.error error : Except LedgerError (Processed Receipt)) = .ok ⟨receipt, true⟩)
    (retryable : error.isRetryable = true) (more : trail.ended + 1 < limit) :
    order.Tried e context limit trail' s' := by
  intro n exchange h
  rcases concluded.closing?_cases further h with ⟨-, earlier⟩ | ⟨rfl, meets, ended⟩
  · obtain ⟨more, meets, failed, kept⟩ := tried n exchange earlier
    -- If a receipt had been kept, this attempt would have repeated it.
    exact ⟨more, meets, failed, fun receipt recorded =>
      nomatch repeats receipt (kept receipt recorded)⟩
  · exact ⟨more, meets, ⟨error, s', ended, retryable⟩, fun receipt recorded =>
      recorded.of_prefix ended.entries_isPrefix⟩

/-- The receipt that is kept is one. -/
theorem Recorded.unique {receipt receipt' : Receipt} (recorded : order.Recorded receipt s)
    (recorded' : order.Recorded receipt' s) : receipt' = receipt := by
  obtain ⟨entry, found, reads⟩ := recorded
  obtain ⟨entry', found', reads'⟩ := recorded'
  obtain rfl := Option.some.inj (found.symm.trans found')
  exact Except.ok.inj (reads'.symm.trans reads)

/-- An attempt concludes; if a receipt is kept, it locks nothing and repeats the receipt. -/
theorem ensures_attempt_repeats (straight : order.isCircular = false)
    (idle : s.transaction t = {}) (unpublished : trail.published = false)
    (tried : order.Tried e context limit trail s) :
    (order.attempt context).run.Ensures e (fun trail' c _ => order.Spares trail' c)
      (fun result trail' s' =>
        order.Concluded e context trail result trail' s' ∧ trail.calls <:+ trail'.calls ∧
          ∀ receipt, order.Recorded receipt s → result = .ok ⟨receipt, true⟩) trail s := by
  have repeats : (order.attempt context).run.Ensures e
      (fun _ c _ => (∃ receipt, order.Recorded receipt s) → c.locks? = none)
      (fun result _ _ => ∀ receipt, order.Recorded receipt s → result = .ok ⟨receipt, true⟩)
      trail s := by
    -- Either a receipt is kept already, or there is nothing to be said.
    by_cases kept : ∃ receipt, order.Recorded receipt s
    · obtain ⟨receipt, recorded⟩ := kept
      have finds : order.Finds (.ok receipt) s := recorded
      refine (finds.ensures_attempt straight (Nat.le_refl _)).mono ?_
        fun result _ _ repeated receipt' recorded' => ?_
      · rintro _ _ _ ⟨-, rfl | rfl | rfl⟩ -
        all_goals rfl
      · rw [recorded.unique recorded']
        exact repeated
    · exact (Script.ensures_true e _ trail s).mono (fun _ _ _ _ h => absurd h kept)
        fun _ _ _ _ receipt recorded => absurd ⟨receipt, recorded⟩ kept
  have concludes : (order.attempt context).run.Ensures e
      (order.Duty e context (trail.ended + 1)) (order.Concludes e context trail) trail s :=
    ensures_attempt idle unpublished (Nat.lt_succ_self _)
  refine (concludes.and ((Script.ensures_suffix e _ trail s).and repeats)).mono ?_
    fun result trail' s' promised => ⟨?_, promised.2⟩
  · rintro trail' c s' ⟨⟨-, few, -⟩, further, free⟩ n exchange receipt closing recorded
    -- Whatever has ended during this attempt has ended before it.
    have before : n < trail.ended := by
      by_contra beyond
      rw [Trail.closing?_eq_none (by omega)] at closing
      cases closing
    rw [Trail.closing?_of_suffix further before] at closing
    obtain ⟨-, -, -, kept⟩ := tried n exchange closing
    exact free ⟨receipt, kept receipt recorded⟩
  · rcases promised.1 with ⟨circular, -, -⟩ | ⟨-, concluded⟩
    · rw [straight] at circular
      cases circular
    · exact concluded

/-- Several attempts of an order are on their courses. -/
theorem ensures_attempts_course {backoff : Nat} (more number : Nat)
    (straight : order.isCircular = false) (idle : s.transaction t = {})
    (unpublished : trail.published = false) (few : trail.ended + more + 1 = limit)
    (tried : order.Tried e context limit trail s) :
    (Retry.attempts Script.pause backoff (order.attempt context).run more number).Ensures e
      (fun trail' c _ => order.Spares trail' c) (fun result trail' _ => ∀ n exchange,
        trail'.closing? n = some exchange → order.Course e context limit n result trail' exchange)
      trail s := by
  -- By induction on the attempts that are left; what is known of those before is `tried`.
  induction more generalizing number trail s with
  | zero =>
    refine (ensures_attempt_repeats straight idle unpublished tried).mono (fun _ _ _ => id) ?_
    rintro result trail' s' ⟨concluded, further, repeats⟩
    exact tried.course concluded further repeats fun _ => Nat.le_of_eq few.symm
  | succ more ih =>
    refine Script.ensures_bind.2 ((ensures_attempt_repeats straight idle unpublished tried).mono
      (fun _ _ _ => id) ?_)
    rintro result trail' s' ⟨concluded, further, repeats⟩
    cases retryable : Retry.isRetryable result with
    | false =>
      refine tried.course concluded further repeats fun again => ?_
      rw [retryable] at again
      cases again
    | true =>
      cases result with
      | ok receipt => cases retryable
      | error error =>
        obtain ⟨_, _, -, -, ended⟩ := concluded.ended
        refine ih (number + 1) ended.idle ?_ ?_
          (tried.further concluded further repeats retryable (by omega))
        · rw [concluded.published, unpublished]
          rfl
        · rw [concluded.more]
          omega

/-- An order that is attempted as often as a policy allows is on its course. -/
theorem ensures_course (policy : Retry.Policy) (straight : order.isCircular = false)
    (idle : s.transaction t = {}) :
    (policy.run Script.pause (order.attempt context).run).Ensures e
      (fun trail' c _ => order.Spares trail' c)
      (fun result trail' _ => ∀ n exchange, trail'.closing? n = some exchange →
        order.Course e context (max 1 policy.maxAttempts) n result trail' exchange) {} s := by
  refine ensures_attempts_course _ 1 straight idle rfl ?_ fun n exchange h => ?_
  · rw [Trail.ended, List.countP_nil]
    omega
  · rw [Trail.closing?_eq_none (Nat.zero_le n)] at h
    cases h

end CurrencyLedger.Order
