import CurrencyLedger.Operation.Record
import CurrencyLedger.Proofs.Operation.Locking

/-! # Looking references up, and ending transactions, among others

* **`Completion.accepted`** — the completion that an entry keeps, if it is that of the same request;
* **`Operation.ensures_recall`**, **`ensures_ensureUnclaimed`** — what looking references up comes
  to;
* **`Operation.Closes`**, **`ensures_inTransaction`** — how an attempt ends. -/

namespace CurrencyLedger

variable {t : TransactionId} {e : Surroundings t} {P : Trail → Call → Store → Prop} {trail : Trail}
  {s s' : Store} {reference : String}

/-- No entry was found under a reference in one of the stores that were asked. -/
def Surroundings.Missed (e : Surroundings t) (reference : String) : Prop :=
  ∃ s, e.Meets s ∧ Store.findEntry s.entries reference = none

/-- The completion that the entry under a reference keeps, if it is that of the same request. -/
def Completion.accepted (reference : String) (kind : OperationKind) (fingerprint : Fingerprint)
    (entry : Entry) : Except LedgerError Completion := do
  let completion ← (Completion.ofEntry reference entry).mapError LedgerError.ofCompletion
  (completion.verify reference kind fingerprint).mapError LedgerError.ofCompletion
  pure completion

/-! ## Looking references up -/

/-- Looking a reference up in a transaction without entries finds a published entry or none. -/
theorem Script.ensures_find {Q : Except StoreError (Option Entry) → Trail → Store → Prop}
    (duty : ∀ s', e.between s s' → P trail (.find reference) s') (begun : s.transaction t = {})
    (h : ∀ s', e.between s s' → s'.transaction t = {} →
      Q (.ok (Store.findEntry s'.entries reference))
        (trail.add (.find reference) (.ok (Store.findEntry s'.entries reference)) s') s') :
    (Script.ask (.find reference)).Ensures e P Q trail s := by
  refine Script.ensures_ask rfl fun s₁ between => ⟨duty s₁ between, ?_⟩
  rintro now s₂ answer ⟨⟩
  have begun₁ : s₁.transaction t = {} := by
    rw [(e.rely between).transaction]
    exact begun
  -- A transaction that has just begun has no entries of its own.
  have own : s₁.find t reference = Store.findEntry s₁.entries reference := by
    rw [Store.find, begun₁]
    rfl
  rw [own]
  exact h s₁ between begun₁

namespace Operation

/-- Looking for an earlier completion: there is no entry, or the entry decides. -/
theorem ensures_findCompleted {kind : OperationKind} {fingerprint : Fingerprint}
    {Q : Except LedgerError (Option Completion) → Trail → Store → Prop}
    (duty : ∀ s', e.between s s' → P trail (.find reference) s') (begun : s.transaction t = {})
    (missed : ∀ s', e.between s s' → s'.transaction t = {} →
      Store.findEntry s'.entries reference = none →
      Q (.ok none) (trail.add (.find reference) (.ok none) s') s')
    (found : ∀ s' entry, e.between s s' → s'.transaction t = {} →
      Store.findEntry s'.entries reference = some entry →
      Q ((Completion.accepted reference kind fingerprint entry).map some)
        (trail.add (.find reference) (.ok (some entry)) s') s') :
    (findCompleted reference kind fingerprint).run.Ensures e P Q trail s := by
  refine ensures_bind (ensures_ofStore (Script.ensures_find duty begun
    fun s₁ between₁ begun₁ => ?_))
  cases there : Store.findEntry s₁.entries reference with
  | none => exact missed s₁ between₁ begun₁ there
  | some entry =>
    have h := found s₁ entry between₁ begun₁ there
    rw [Completion.accepted] at h
    -- No more calls are made: what is left to do only judges the entry.
    show Script.Ensures e P Q (ExceptT.run do
      let completion ←
        ofExcept ((Completion.ofEntry reference entry).mapError LedgerError.ofCompletion)
      ofExcept ((completion.verify reference kind fingerprint).mapError LedgerError.ofCompletion)
      pure (some completion)) (trail.add (.find reference) (.ok (some entry)) s₁) s₁
    refine ensures_bind ?_
    cases first : (Completion.ofEntry reference entry).mapError LedgerError.ofCompletion with
    | error error =>
      rw [first] at h
      exact h
    | ok completion =>
      rw [first] at h
      refine ensures_bind ?_
      cases second : (completion.verify reference kind fingerprint).mapError
          LedgerError.ofCompletion with
      | error error =>
        simp only [second, Except.map, bind, Except.bind] at h
        exact h
      | ok _ =>
        simp only [second, Except.map, bind, Except.bind] at h
        exact h

/-- The receipt that a completion keeps, as the outcome of work that finds it. -/
def recalled {α : Type} (read : Json → Option α) (reference : String)
    (accepted : Except LedgerError Completion) : Except LedgerError (Progress α) := do
  let completion ← accepted
  let receipt ← (completion.outcomeAs read reference).mapError LedgerError.ofCompletion
  pure (.replayed receipt)

/-- Work that looks for an earlier completion repeats what it keeps if there is one, and goes on
from there if there is none. -/
theorem ensures_recall {α : Type} {kind : OperationKind} {fingerprint : Fingerprint}
    {read : Json → Option α} {work : Operation (Progress α)}
    {Q : Except LedgerError (Progress α) → Trail → Store → Prop}
    (duty : ∀ s', e.between s s' → P trail (.find reference) s') (begun : s.transaction t = {})
    (missed : ∀ s', e.between s s' → s'.transaction t = {} →
      Store.findEntry s'.entries reference = none →
      work.run.Ensures e P Q (trail.add (.find reference) (.ok none) s') s')
    (found : ∀ s' entry, e.between s s' → s'.transaction t = {} →
      Store.findEntry s'.entries reference = some entry →
      Q (recalled read reference (Completion.accepted reference kind fingerprint entry))
        (trail.add (.find reference) (.ok (some entry)) s') s') :
    (ExceptT.run do
      match ← findCompleted reference kind fingerprint with
      | some completion =>
        let receipt ← ofExcept
          ((completion.outcomeAs read reference).mapError LedgerError.ofCompletion)
        pure (.replayed receipt)
      | none => work).Ensures e P Q trail s := by
  refine ensures_bind (ensures_findCompleted duty begun missed
    fun s₁ entry between₁ begun₁ there => ?_)
  have h := found s₁ entry between₁ begun₁ there
  rw [recalled] at h
  cases accepted : Completion.accepted reference kind fingerprint entry with
  | error error =>
    rw [accepted] at h
    exact h
  | ok completion =>
    rw [accepted] at h
    refine ensures_bind (ensures_ofExcept ?_)
    cases outcome : (completion.outcomeAs read reference).mapError LedgerError.ofCompletion with
    | error error =>
      simp only [outcome, bind, Except.bind] at h
      exact h
    | ok receipt =>
      simp only [outcome, bind, Except.bind] at h
      exact h

/-- Making sure that references are free: no entry was found under any, or one was. -/
theorem ensures_ensureUnclaimed {references : List String}
    {Q : Except LedgerError Unit → Trail → Store → Prop}
    (allows : e.Allows P trail) (begun : s.transaction t = {})
    (free : ∀ trail' s', Trail.Within trail trail' → s'.transaction t = {} →
      (∀ reference ∈ references, e.Missed reference) → Q (.ok ()) trail' s')
    (claimed : ∀ trail' s' reference entry, Trail.Within trail trail' → s'.transaction t = {} →
      reference ∈ references → Store.findEntry s'.entries reference = some entry →
      (∃ before after, references = before ++ reference :: after ∧
        ∀ other ∈ before, e.Missed other) →
      Q (.error (.idempotencyConflict reference)) trail' s') :
    (ensureUnclaimed references).run.Ensures e P Q trail s := by
  -- By induction on the references that are left; those before were looked for in vain.
  induction references generalizing trail s with
  | nil => exact free _ _ (.refl _) begun (by simp)
  | cons first references ih =>
    refine ensures_bind (ensures_bind (ensures_ofStore (Script.ensures_find
      (fun _ => allows.duty rfl) begun fun s₁ between₁ begun₁ => ?_)))
    have within₁ (answer : Except StoreError (Option Entry)) :
        Trail.Within trail (trail.add (.find first) answer s₁) :=
      (Trail.Within.refl trail).add (c := .find first) (Or.inr rfl) answer s₁
    cases there : Store.findEntry s₁.entries first with
    | some entry =>
      exact claimed _ _ _ _ (within₁ _) begun₁ List.mem_cons_self there ⟨[], references, rfl, nofun⟩
    | none =>
      have missed₁ : e.Missed first := ⟨s₁, ⟨s, between₁⟩, there⟩
      refine ih (allows.within (within₁ _)) begun₁ (fun trail₂ s₂ within₂ begun₂ missed => ?_)
        fun trail₂ s₂ reference entry within₂ begun₂ mem found earlier => ?_
      · refine free _ _ ((within₁ _).trans within₂) begun₂ fun reference mem => ?_
        rcases List.mem_cons.1 mem with rfl | mem
        · exact missed₁
        · exact missed reference mem
      · obtain ⟨before, after, rfl, missed⟩ := earlier
        exact claimed _ _ _ _ ((within₁ _).trans within₂) begun₂ (List.mem_cons_of_mem _ mem) found
          ⟨first :: before, after, rfl, List.forall_mem_cons.2 ⟨missed₁, missed⟩⟩

/-! ## Ending a transaction -/

/-- What closing a transaction after its work ensures. What was done before is given up, what is
done now is published if its references are still free, and after an error everything is given up.
`mark` is what telling a stage adds to the trail. -/
def Closes {α : Type} (e : Surroundings t) (P : Trail → Call → Store → Prop)
    (mark : Transfer.Stage → Trail → Trail)
    (Q : Except LedgerError (Processed α) → Trail → Store → Prop)
    (result : Except LedgerError (Progress α)) (trail : Trail) (s : Store) : Prop :=
  ∀ s', e.between s s' →
    match result with
    | .ok (.replayed receipt) =>
      P trail .rollback s' ∧ Q (.ok ⟨receipt, true⟩) (trail.add .rollback (.ok ()) s') (s'.drop t)
    | .ok (.applied receipt) =>
      P trail .commit s' ∧
      ((∀ reference ∈ s'.ownReferences t, reference ∉ s'.references) →
        Q (.ok ⟨receipt, false⟩) (mark .committed (trail.add .commit (.ok ()) s'))
          (s'.publish t)) ∧
      ∀ reference ∈ s'.ownReferences t, reference ∈ s'.references →
        Q (.error (.ofStore (.duplicateReference reference)))
          (mark .aborted (trail.add .commit (.error (.duplicateReference reference)) s'))
          (s'.drop t)
    | .error error =>
      P (mark .aborted trail) .rollback s' ∧
      Q (.error error) ((mark .aborted trail).add .rollback (.ok ()) s') (s'.drop t)

/-- Work in a transaction ensures what closing the transaction after it does. -/
theorem ensures_inTransaction {α : Type} {reach : Transfer.Stage → Script Unit}
    {work : Operation (Progress α)} (mark : Transfer.Stage → Trail → Trail)
    {Q : Except LedgerError (Processed α) → Trail → Store → Prop}
    (marks : ∀ stage {Q' : Unit → Trail → Store → Prop} {trail s}, Q' () (mark stage trail) s →
      (reach stage).Ensures e P Q' trail s)
    (begins : ∀ s', e.between s s' → P trail .begin s' ∧
      work.run.Ensures e P (Closes e P mark Q) (trail.add .begin (.ok ()) s') (s'.begin t)) :
    (inTransaction reach work).run.Ensures e P Q trail s := by
  refine Script.ensures_bind.2 (Script.ensures_ask rfl fun s₁ between₁ => ?_)
  obtain ⟨met, worked⟩ := begins s₁ between₁
  refine ⟨met, ?_⟩
  rintro now₁ _ _ ⟨⟩
  refine Script.ensures_bind.2 (worked.mono (fun _ _ _ => id) fun result trail₂ s₂ closes => ?_)
  -- How the transaction is closed depends on the work: rolled back after an error or a replay,
  -- committed otherwise.
  rcases result with error | receipt | receipt
  · refine Script.ensures_bind.2 (marks .aborted (Script.ensures_bind.2
      (Script.ensures_ask rfl fun s₃ between₃ => ?_)))
    obtain ⟨met, kept⟩ := closes s₃ between₃
    refine ⟨met, ?_⟩
    rintro now _ _ ⟨⟩
    exact kept
  · refine Script.ensures_bind.2 (Script.ensures_ask rfl fun s₃ between₃ => ?_)
    obtain ⟨met, kept⟩ := closes s₃ between₃
    refine ⟨met, ?_⟩
    rintro now _ _ ⟨⟩
    exact kept
  · refine Script.ensures_bind.2 (Script.ensures_ask rfl fun s₃ between₃ => ?_)
    obtain ⟨met, published, collided⟩ := closes s₃ between₃
    refine ⟨met, fun now s₄ answer step => ?_⟩
    have committed : s₃.commit t = (s₄, answer) := by
      cases step
      rfl
    rcases Store.commit_cases s₃ t with ⟨reference, own, taken, h⟩ | ⟨free, h⟩
    · rw [h] at committed
      cases committed
      exact Script.ensures_bind.2 (marks .aborted (collided reference own taken))
    · rw [h] at committed
      cases committed
      exact Script.ensures_bind.2 (marks .committed (published free))

end Operation

end CurrencyLedger
