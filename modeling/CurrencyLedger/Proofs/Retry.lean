import CurrencyLedger.Retry
import Mathlib.Data.ENat.Lattice

/-! # How often operations are attempted

An operation is watched while it is attempted again and again. Whatever its attempts come to, they
end with the first one whose result is not worth another, or with the last one that the policy
allows, and the pauses stand between attempts.

* **`Watch`**, **`Watch.attempt`**, **`Watch.pause`** — what is seen of an operation whose outcomes
  are those of a stream;
* **`firstFinal`** — which outcome of a stream is the first that is not worth another attempt;
* **`attempts_stream`** — what is seen from one attempt on;
* **`Policy.run_stream`** — what is seen of all of them. -/

namespace CurrencyLedger.Retry

variable {α : Type}

/-- What is seen of an operation that is attempted. -/
inductive Event (α : Type) where
  /-- An attempt that comes to a result. -/
  | attempted (result : Except LedgerError α)
  /-- A pause of some milliseconds. -/
  | paused (length : Nat)

/-- What was seen so far. -/
structure Watch (α : Type) where
  /-- How many attempts there were. -/
  made : Nat := 0
  /-- What happened, one thing after another. -/
  events : List (Event α) := []

/-- An operation whose attempts come to the outcomes of a stream, one after another. -/
def Watch.attempt (stream : Nat → Except LedgerError α) : StateM (Watch α) (Except LedgerError α) :=
  fun watch => (stream watch.made,
    ⟨watch.made + 1, watch.events ++ [.attempted (stream watch.made)]⟩)

/-- A pause of some milliseconds. -/
def Watch.pause (length : Nat) : StateM (Watch α) Unit :=
  modify fun watch => { watch with events := watch.events ++ [.paused length] }

/-- Attempts that were not the last ones: each is followed by a pause, the first one by a single
backoff and each other by one backoff more than the one before. -/
def failures (backoff : Nat) (stream : Nat → Except LedgerError α) (count : Nat) : List (Event α) :=
  (List.range count).flatMap fun i => [.attempted (stream i), .paused (backoff * (i + 1))]

/-- One more attempt that was not the last one. -/
theorem failures_succ (backoff : Nat) (stream : Nat → Except LedgerError α) (count : Nat) :
    failures backoff stream (count + 1) = failures backoff stream count ++
      [.attempted (stream count), .paused (backoff * (count + 1))] := by
  rw [failures, List.range_succ, List.flatMap_append, List.flatMap_singleton]
  rfl

/-- The number, from one on, of the first outcome of a stream that is not worth another attempt;
infinite if there is none. -/
noncomputable def firstFinal (stream : Nat → Except LedgerError α) : ℕ∞ :=
  ⨅ i ∈ {i | isRetryable (stream i) = false}, ((i + 1 : ℕ) : ℕ∞)

variable {stream : Nat → Except LedgerError α} {n : Nat}

/-- After outcomes that are all worth another attempt the first final one is still to come. -/
theorem lt_firstFinal (retryable : ∀ i < n, isRetryable (stream i) = true) :
    ((n + 1 : ℕ) : ℕ∞) ≤ firstFinal stream := by
  refine le_iInf₂ fun i final => ?_
  have later : n ≤ i := by
    by_contra earlier
    exact absurd (retryable i (not_le.1 earlier)) (Bool.eq_false_iff.1 final)
  exact_mod_cast Nat.succ_le_succ later

/-- An outcome that is not worth another attempt is the first one if all before it are. -/
theorem firstFinal_eq (retryable : ∀ i < n, isRetryable (stream i) = true)
    (final : isRetryable (stream n) = false) : firstFinal stream = ((n + 1 : ℕ) : ℕ∞) :=
  le_antisymm (iInf₂_le n final) (lt_firstFinal retryable)

/-- An attempt that is not worth another is the last one. -/
theorem attempts_of_final (backoff more : Nat) (events : List (Event α))
    (final : isRetryable (stream n) = false) :
    (attempts Watch.pause backoff (Watch.attempt stream) more (n + 1)).run ⟨n, events⟩ =
      (stream n, ⟨n + 1, events ++ [.attempted (stream n)]⟩) := by
  cases more with
  | zero => rfl
  | succ more =>
    rw [attempts, StateT.run_bind]
    show (if isRetryable (stream n) = true then _ else pure (stream n) :
      StateM (Watch α) (Except LedgerError α)).run _ = _
    rw [final]
    rfl

/-- An attempt that is worth another is followed by a pause and by those that are left. -/
theorem attempts_of_retryable (backoff more : Nat) (events : List (Event α))
    (worth : isRetryable (stream n) = true) :
    (attempts Watch.pause backoff (Watch.attempt stream) (more + 1) (n + 1)).run ⟨n, events⟩ =
      (attempts Watch.pause backoff (Watch.attempt stream) more (n + 1 + 1)).run
        ⟨n + 1, events ++ [.attempted (stream n), .paused (backoff * (n + 1))]⟩ := by
  have paused : events ++ [.attempted (stream n), .paused (backoff * (n + 1))] =
      events ++ [.attempted (stream n)] ++ [.paused (backoff * (n + 1))] := List.append_cons _ _ _
  rw [paused, attempts, StateT.run_bind]
  show (if isRetryable (stream n) = true then
      (do Watch.pause (backoff * (n + 1))
          attempts Watch.pause backoff (Watch.attempt stream) more (n + 1 + 1))
    else pure (stream n) : StateM (Watch α) (Except LedgerError α)).run
      ⟨n + 1, events ++ [.attempted (stream n)]⟩ = _
  rw [worth, if_pos rfl]
  rfl

/-- From one attempt on there are as many more as allowed, or as many as there are outcomes worth
another one. -/
theorem attempts_stream (backoff : Nat) (stream : Nat → Except LedgerError α) (more n : Nat)
    (retryable : ∀ i < n, isRetryable (stream i) = true) :
    ∃ last, last ≤ n + more ∧ (∀ i < last, isRetryable (stream i) = true) ∧
      (last = n + more ∨ isRetryable (stream last) = false) ∧
      (attempts Watch.pause backoff (Watch.attempt stream) more (n + 1)).run
          ⟨n, failures backoff stream n⟩ =
        (stream last, ⟨last + 1, failures backoff stream last ++ [.attempted (stream last)]⟩) := by
  -- By induction on the attempts that are left; what was seen before the next one is known.
  induction more generalizing n with
  | zero => exact ⟨n, Nat.le_refl n, retryable, Or.inl rfl, rfl⟩
  | succ more ih =>
    cases worth : isRetryable (stream n) with
    | false =>
      exact ⟨n, Nat.le_add_right n _, retryable, Or.inr worth, attempts_of_final _ _ _ worth⟩
    | true =>
      have retryable' : ∀ i < n + 1, isRetryable (stream i) = true := fun i less =>
        (Nat.lt_succ_iff_lt_or_eq.1 less).elim (retryable i) fun same => same ▸ worth
      obtain ⟨last, le, before, ended, run⟩ := ih (n + 1) retryable'
      refine ⟨last, by omega, before, ended.imp_left (by omega), ?_⟩
      rw [attempts_of_retryable _ _ _ worth, ← failures_succ, run]

/-- A policy that is made of a number of attempts allows as many as the bare number does. -/
theorem Policy.run_make {m : Type → Type} [Monad m] (maxAttempts backoff : Nat)
    (sleep : Nat → m Unit) (operation : m (Except LedgerError α)) :
    (Policy.make maxAttempts backoff).run sleep operation =
      (⟨maxAttempts, backoff⟩ : Policy).run sleep operation := by
  have same : max 1 (max 1 maxAttempts) = max 1 maxAttempts := by omega
  rw [Policy.run, Policy.run, Policy.make, same]

/-- An operation is attempted until an attempt is not worth another, but at most as often as the
policy allows, and once at least. The result is that of the last attempt. Between any two attempts
there is one pause, as many backoffs long as there were attempts before it, and no other. -/
theorem Policy.run_stream (policy : Policy) (stream : Nat → Except LedgerError α) :
    ∃ n : ℕ, ((n + 1 : ℕ) : ℕ∞) = min ((max 1 policy.maxAttempts : ℕ) : ℕ∞) (firstFinal stream) ∧
      (policy.run Watch.pause (Watch.attempt stream)).run {} =
        (stream n,
          { made := n + 1
            events := failures policy.backoff stream n ++ [.attempted (stream n)] }) ∧
      ∀ length, .paused length ∈ failures policy.backoff stream n →
        length ≤ policy.backoff * n := by
  obtain ⟨last, le, retryable, ended, run⟩ := attempts_stream policy.backoff stream
    (max 1 policy.maxAttempts - 1) 0 fun i less => absurd less (Nat.not_lt_zero i)
  have count : last + 1 ≤ max 1 policy.maxAttempts := by omega
  refine ⟨last, ?_, run, fun length mem => ?_⟩
  · rcases ended with all | final
    · have full : last + 1 = max 1 policy.maxAttempts := by omega
      rw [full, min_eq_left (full ▸ lt_firstFinal retryable)]
    · rw [firstFinal_eq retryable final, min_eq_right (by exact_mod_cast count)]
  · obtain ⟨i, less, pause⟩ := List.mem_flatMap.1 mem
    have same : length = policy.backoff * (i + 1) := by simpa using pause
    rw [same]
    exact Nat.mul_le_mul_left _ (List.mem_range.1 less)

/-- A policy that allows no attempt makes one all the same. -/
example : ((({ maxAttempts := 0 } : Policy).run Watch.pause (Watch.attempt fun _ =>
    (.error (.storageConflict "") : Except LedgerError Unit))).run {}).2.made = 1 := rfl

end CurrencyLedger.Retry
