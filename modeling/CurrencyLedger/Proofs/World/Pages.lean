import CurrencyLedger.Proofs.Store.Newest
import CurrencyLedger.Proofs.World.Services

/-! # Pages of history

A page of history is read all at once, after the wallet was looked up, and others may publish in
between. It is the beginning of the history that the wallet has at the moment of reading.

* **`Serial.carryOut_history`** — a page that is asked for while nobody else goes on;
* **`World.Paged`**, **`World.paged_run`** — a page that is asked for among others;
* **`World.history_exact`** — which entries a page has. -/

namespace CurrencyLedger

/-- What is left to do of a history once its wallet was found. -/
def Ledger.page (wallet : WalletId) (limit : Int) : Script (Except LedgerError Reply) :=
  .call (.entries wallet (pageSize limit)) fun
    | .ok entries => .done (.ok (.history entries))
    | .error error => .done (.error (.ofStore error))

/-- A history looks its wallet up first. -/
theorem Task.script_history (wallet : WalletId) (limit : Int) :
    (Task.history wallet limit).script = .call (.findWallet wallet) fun
      | .ok (some _) => Ledger.page wallet limit
      | .ok none => .done (.error (.walletNotFound wallet))
      | .error error => .done (.error (.ofStore error)) :=
  congrArg (Script.call _) (funext fun
    | .ok (some _) => congrArg (Script.call _) (funext fun | .ok _ => rfl | .error _ => rfl)
    | .ok none => rfl
    | .error _ => rfl)

/-- A wallet that is there is found, and no other. -/
theorem Store.isSome_findWallet (s : Store) (wallet : WalletId) :
    (s.findWallet wallet).isSome = s.hasWallet wallet := by
  rw [Bool.eq_iff_iff, findWallet, hasWallet, List.find?_isSome, List.any_eq_true]

/-- A page that is asked for while nobody else goes on is what is newest then. -/
theorem Serial.carryOut_history {s : Store} {wallet : WalletId}
    (owned : s.hasWallet wallet = true) (limit : Int) (clock : Nat → Instant) (ticks : Nat) :
    (carryOut clock (.history wallet limit)).run ⟨s, ticks⟩ =
      (.ok (.history (s.newest wallet (Ledger.pageSize limit))), ⟨s, ticks + 2⟩) := by
  rw [← s.isSome_findWallet wallet, Option.isSome_iff_exists] at owned
  obtain ⟨found, looked⟩ := owned
  have asked : (⟨s, ticks⟩ : Serial).store.step 0 (clock ticks) (.findWallet wallet) =
      .answered s (.ok (some found)) := by
    rw [← looked]
    rfl
  rw [carryOut, Task.script_history, interpret_call_of_answered asked]
  rfl

namespace World

variable {w w' : World} {a : Action} {t : TransactionId} {trail : Trail} {wallet : WalletId}
  {limit : Int}

/-! ## Among others -/

/-- What a history has read of a run, and when. -/
structure Paged (actions : List Action) (w : World) : Prop where
  /-- A history under way has read nothing yet, or looked its wallet up. -/
  running : ∀ {t wallet limit trail rest},
    w.running.get? t = some ⟨.history wallet limit, trail, rest⟩ →
      rest = (Task.history wallet limit).script ∨ rest = Ledger.page wallet limit
  /-- One that has ended has found no wallet, or read what was newest at that moment. -/
  finished : ∀ {t wallet limit trail result},
    w.finished.get? t = some ⟨.history wallet limit, trail, result⟩ →
      ∃ before now, before ++ [.step t now] <+: actions ∧
        ((run before).store.hasWallet wallet = false ∧ result = .error (.walletNotFound wallet) ∨
          result = .ok (.history ((run before).store.newest wallet (Ledger.pageSize limit))))

/-- A history begins, or it has looked its wallet up by this very action, or read its page. -/
theorem Paged.proceeds {actions : List Action} (paged : Paged actions w)
    {rest : Script (Except LedgerError Reply)}
    (proceeds : w.Proceeds t a (.history wallet limit) rest) :
    rest = (Task.history wallet limit).script ∨ ∃ now, a = .step t now ∧
      (rest = Ledger.page wallet limit ∨
      w.store.hasWallet wallet = false ∧ rest = .done (.error (.walletNotFound wallet)) ∨
      rest = .done (.ok (.history (w.store.newest wallet (Ledger.pageSize limit))))) := by
  cases proceeds with
  | launched => exact Or.inl rfl
  | answered now running step =>
    refine Or.inr ⟨now, rfl, ?_⟩
    rcases paged.running running with eq | eq
    · rw [Task.script_history] at eq
      cases eq
      cases step
      cases found : w.store.findWallet wallet with
      | some found => exact Or.inl rfl
      | none =>
        have missing : w.store.hasWallet wallet = false := by
          rw [← Store.isSome_findWallet, found]
          rfl
        exact Or.inr (Or.inl ⟨missing, rfl⟩)
    · cases eq
      cases step
      exact Or.inr (Or.inr rfl)
  | expired now running locks =>
    -- A history asks for no locks.
    rcases paged.running running with eq | eq
    · rw [Task.script_history] at eq
      cases eq
      cases locks
    · cases eq
      cases locks

/-- What a history has read it has read, whatever happens next. -/
theorem Paged.moves {actions : List Action} (paged : Paged actions (run actions))
    (moves : (run actions).Moves a w') : Paged (actions ++ [a]) w' where
  running := by
    intro t wallet limit trail rest running
    rcases moves.running_cases running with old | ⟨more, now, before, proceeds, rfl, _, _, called⟩
    · exact paged.running old
    · rcases paged.proceeds proceeds with rfl | ⟨now, rfl, rfl | ⟨-, rfl⟩ | rfl⟩
      · exact Or.inl rfl
      · exact Or.inr rfl
      · cases called
      · cases called
  finished := by
    intro t wallet limit trail result finished
    rcases moves.finished_cases finished with old | ⟨more, now, before, proceeds, ended⟩
    · obtain ⟨before, now, earlier, read⟩ := paged.finished old
      exact ⟨before, now, earlier.trans (List.prefix_append _ _), read⟩
    · rcases paged.proceeds proceeds with rfl | ⟨now, rfl, rfl | ⟨missing, rfl⟩ | rfl⟩
      · cases ended
      · cases ended
      · cases ended
        exact ⟨actions, now, List.prefix_rfl, Or.inl ⟨missing, rfl⟩⟩
      · cases ended
        exact ⟨actions, now, List.prefix_rfl, Or.inr rfl⟩

/-- In every run, a page is what was newest when it was read. -/
theorem paged_run (actions : List Action) : Paged actions (run actions) := by
  induction actions using List.reverseRecOn with
  | nil =>
    constructor
    · rintro t wallet limit trail rest ⟨⟩
    · rintro t wallet limit trail result ⟨⟩
  | append_singleton actions a ih =>
    rw [run_append_singleton]
    exact ih.moves (moves_act _ a)

/-! ## Which entries a page has -/

/-- In every world that can be reached a wallet has one history: all its published entries, each of
them once, by descending numbers. A page that is asked for is the beginning of it, of at least one
and at most 500 entries, so a page for a greater limit begins with one for a smaller limit; nothing
is changed. A page that is asked for among others is the beginning of the history at the moment of
reading. Where services are given one after another a history is the reverse of what was published:
each service puts those of its own entries that concern the wallet in front of it, the last one
first, and that is nothing unless it is answered with a receipt that was not there before. -/
theorem history_exact :
    (∀ actions wallet, (run actions).store.hasWallet wallet = true → ∃ full,
      (run actions).store.IsHistory wallet full ∧
      (∀ limit clock ticks,
        (Serial.carryOut clock (.history wallet limit)).run ⟨(run actions).store, ticks⟩ =
          (.ok (.history (full.take (min (max limit 1) 500).toNat)),
            ⟨(run actions).store, ticks + 2⟩)) ∧
      ∀ limit limit' : Int, limit ≤ limit' →
        full.take (min (max limit 1) 500).toNat <+: full.take (min (max limit' 1) 500).toNat) ∧
    (∀ actions t wallet limit trail result,
      (run actions).finished.get? t = some ⟨.history wallet limit, trail, result⟩ →
        ∃ before now, before ++ [.step t now] <+: actions ∧
          ((run before).store.hasWallet wallet = false ∧
              result = .error (.walletNotFound wallet) ∨
            ∃ full, (run before).store.IsHistory wallet full ∧
              result = .ok (.history (full.take (min (max limit 1) 500).toNat)))) ∧
    ∀ l clock services wallet,
      let before := ((Serial.attend l clock services).run {}).2
      let older := (before.store.entries.filter (·.account.wallet == wallet)).reverse
      before.store.IsHistory wallet older ∧
      ∀ service : Ledger.Service,
        let done := ((service.operation l).run.interpret (Serial.handlers clock)).run before
        ∃ written, service.Adds l done.1 written ∧
          done.2.store.entries = before.store.entries ++ written ∧
          done.2.store.IsHistory wallet
            ((written.filter (·.account.wallet == wallet)).reverse ++ older) := by
  refine ⟨fun actions wallet owned => ?_, fun actions t wallet limit trail result finished => ?_,
    fun l clock services wallet => ?_⟩
  · have distinct := nodup_ids_run actions
    have history := Store.isHistory_mergeSort distinct wallet
    refine ⟨_, history, fun limit clock ticks => ?_, fun limit limit' le =>
      Ledger.take_pageSize_prefix le _⟩
    rw [Serial.carryOut_history owned, history.newest distinct]
    rfl
  · obtain ⟨before, now, earlier, read⟩ := (paged_run actions).finished finished
    refine ⟨before, now, earlier, read.imp_right fun told => ?_⟩
    have distinct := nodup_ids_run before
    have history := Store.isHistory_mergeSort distinct wallet
    exact ⟨_, history, by rw [told, history.newest distinct]; rfl⟩
  · intro before older
    have history : before.store.IsHistory wallet older :=
      Store.isHistory_reverse (Serial.ascending_attend l clock services).entries wallet
    refine ⟨history, fun service => ?_⟩
    obtain ⟨-, written, entries, adds⟩ :=
      (Serial.idle_attend l clock services).serve l clock service
    refine ⟨written, adds, entries, history.append ?_ entries⟩
    have more := Serial.ascending_attend l clock (services ++ [service])
    rw [Serial.attend_append_singleton] at more
    exact more.entries

namespace Sample

/-- An order to pay eighty-five pence into the first wallet. -/
def savings : Order :=
  .adjust .deposit ⟨⟨⟨1⟩, ⟨"GBP", by decide⟩⟩, ⟨85, by decide, by decide⟩, "save"⟩

/-- Two deposits into the first wallet, of which the one that writes its entry first publishes it
last, and a history that is read in between. -/
def crossing : List Action :=
  opening ++ [.launch (once another 8) (.ofMillis 3), .launch (once savings 9) (.ofMillis 4),
    .launch (.history ⟨1⟩ (-3)) (.ofMillis 5)] ++
    steps 3 5 ++ steps 4 8 ++ steps 5 2 ++ steps 3 1

/-- The entries of the two deposits are published in the opposite order of their numbers. Those with
the greatest numbers come first. -/
theorem isHistory_crossing :
    (run crossing).store.IsHistory ⟨1⟩
      ((run crossing).store.entries.drop 1 ++ (run crossing).store.entries.take 1) := by
  have own : ∀ entry ∈ (run crossing).store.entries, entry.account.wallet = ⟨1⟩ := by
    decide +kernel
  refine ⟨fun entry => ?_, by decide +kernel⟩
  rw [(List.perm_append_comm.mem_iff).trans (by rw [List.take_append_drop])]
  exact ⟨fun mem => ⟨mem, own entry mem⟩, And.left⟩

end Sample

/-- The page of two entries has those with the numbers three and two, though the one with the number
three was published first. The history that was asked for in between, with a limit below one, was
answered with the first entry of that moment. -/
theorem history_exact_crossing :
    (run Sample.crossing).store.hasWallet ⟨1⟩ = true ∧
    (run Sample.crossing).store.entries.map (·.id) = [1, 3, 2] ∧
    (∃ page, (Serial.carryOut (fun _ => .ofMillis 9) (.history ⟨1⟩ 2)).run
        ⟨(run Sample.crossing).store, 0⟩ =
          (.ok (.history page), ⟨(run Sample.crossing).store, 2⟩) ∧ page.map (·.id) = [3, 2]) ∧
    ∃ (before : List Action) (full : List Entry) (ending : Ending),
      (run before).store.IsHistory ⟨1⟩ full ∧
      (run Sample.crossing).finished.get? 5 = some ending ∧
      ending.result = .ok (.history (full.take 1)) := by
  have owned : (run Sample.crossing).store.hasWallet ⟨1⟩ = true := by decide +kernel
  obtain ⟨pages, among, -⟩ := history_exact
  obtain ⟨full, history, page, -⟩ := pages Sample.crossing ⟨1⟩ owned
  refine ⟨owned, by decide +kernel, ⟨_, page 2 _ 0, ?_⟩, ?_⟩
  · rw [history.unique Sample.isHistory_crossing]
    decide +kernel
  · have asked : ((run Sample.crossing).finished.get? 5).map (fun f => (f.task, f.result.isOk)) =
        some (.history ⟨1⟩ (-3), true) := by decide +kernel
    obtain ⟨⟨task, trail, result⟩, finished, same⟩ := Option.map_eq_some_iff.1 asked
    obtain ⟨rfl, answered⟩ := Prod.mk.inj same
    obtain ⟨before, -, -, ⟨-, rfl⟩ | ⟨earlier, history, read⟩⟩ := among _ _ _ _ _ _ finished
    · cases answered
    · exact ⟨before, earlier, _, history, finished, read⟩

end World

end CurrencyLedger
