import CurrencyLedger.Proofs.Audit
import CurrencyLedger.Proofs.World.Balanced
import CurrencyLedger.Proofs.World.Replay

/-! # Reconciliation among others

A reconciliation asks for all balances and then for all totals, and others may publish between the
two. What they publish there is counted among the totals but not among the balances.

* **`World.Audited`**, **`World.audited_run`** — a report compares the balances of one moment with
  the totals of a later one;
* **`World.discrepancies_reconcile`** — so its discrepancies are what was published in between, and
  it is consistent iff that adds up to nothing on every account;
* **`World.discrepancies_reconcile_deposit`** — a run in which it is not, though the books are
  balanced all the time. -/

namespace CurrencyLedger

/-- What is left to do of a reconciliation that has asked for the balances. -/
def Audit.compare (holdings : List Holding) : Script (Except LedgerError Reply) :=
  .call .totals fun
    | .ok totals => .done (.ok (.report (build holdings totals)))
    | .error error => .done (.error (.ofStore error))

/-- A reconciliation asks for the balances first. -/
theorem Task.script_reconcile : Task.reconcile.script = .call .allHoldings fun
    | .ok holdings => Audit.compare holdings
    | .error error => .done (.error (.ofStore error)) :=
  congrArg (Script.call _) (funext fun
    | .ok _ => congrArg (Script.call _) (funext fun | .ok _ => rfl | .error _ => rfl)
    | .error _ => rfl)

namespace World

variable {w w' : World} {a : Action} {t u : TransactionId} {trail : Trail}

/-! ## Two moments -/

/-- What a reconciliation has read of a run, and when. -/
structure Audited (actions : List Action) (w : World) : Prop where
  /-- A reconciliation under way has read nothing yet, or the balances. -/
  running : ∀ {t trail rest}, w.running.get? t = some ⟨.reconcile, trail, rest⟩ →
    rest = Task.reconcile.script ∨
    ∃ first now, first ++ [.step t now] <+: actions ∧
      rest = Audit.compare (run first).store.allHoldings
  /-- One that has ended has read the balances, and then the totals. -/
  finished : ∀ {t trail result}, w.finished.get? t = some ⟨.reconcile, trail, result⟩ →
    ∃ first second now now', first ++ [.step t now] <+: second ∧
      second ++ [.step t now'] <+: actions ∧
      result = .ok (.report
        (Audit.build (run first).store.allHoldings (run second).store.totals))

/-- A reconciliation begins, or it has read the balances by this very action, or the totals. -/
theorem Audited.proceeds {actions : List Action} (audited : Audited actions (run actions))
    {rest : Script (Except LedgerError Reply)}
    (proceeds : (run actions).Proceeds t a .reconcile rest) :
    rest = Task.reconcile.script ∨ ∃ now, a = .step t now ∧
      (rest = Audit.compare (run actions).store.allHoldings ∨
      ∃ first now', first ++ [.step t now'] <+: actions ∧ rest = .done (.ok (.report
        (Audit.build (run first).store.allHoldings (run actions).store.totals)))) := by
  cases proceeds with
  | launched => exact Or.inl rfl
  | answered now running step =>
    refine Or.inr ⟨now, rfl, ?_⟩
    rcases audited.running running with eq | ⟨first, now', before, eq⟩
    · rw [Task.script_reconcile] at eq
      cases eq
      cases step
      exact Or.inl rfl
    · cases eq
      cases step
      exact Or.inr ⟨first, now', before, rfl⟩
  | expired now running locks =>
    -- A reconciliation asks for no locks.
    rcases audited.running running with eq | ⟨_, _, -, eq⟩
    · rw [Task.script_reconcile] at eq
      cases eq
      cases locks
    · cases eq
      cases locks

/-- What a reconciliation has read it has read, whatever happens next. -/
theorem Audited.moves {actions : List Action} (audited : Audited actions (run actions))
    (moves : (run actions).Moves a w') : Audited (actions ++ [a]) w' where
  running := by
    intro t trail rest running
    rcases moves.running_cases running with old | ⟨more, now, before, proceeds, rfl, _, _, called⟩
    · rcases audited.running old with eq | ⟨first, now, before, eq⟩
      · exact Or.inl eq
      · exact Or.inr ⟨first, now, before.trans (List.prefix_append _ _), eq⟩
    · rcases audited.proceeds proceeds with rfl | ⟨now, rfl, rfl | ⟨_, _, -, rfl⟩⟩
      · exact Or.inl rfl
      · exact Or.inr ⟨actions, now, List.prefix_rfl, rfl⟩
      · cases called
  finished := by
    intro t trail result finished
    rcases moves.finished_cases finished with old | ⟨more, now, before, proceeds, ended⟩
    · obtain ⟨first, second, now, now', before, last, eq⟩ := audited.finished old
      exact ⟨first, second, now, now', before, last.trans (List.prefix_append _ _), eq⟩
    · rcases audited.proceeds proceeds with rfl | ⟨now, rfl, rfl | ⟨first, now', before, rfl⟩⟩
      · cases ended
      · cases ended
      · cases ended
        exact ⟨first, actions, now', now, before, List.prefix_rfl, rfl⟩

/-- In every run, a reconciliation compares the balances of one moment with the totals of a later
one. -/
theorem audited_run (actions : List Action) : Audited actions (run actions) := by
  induction actions using List.reverseRecOn with
  | nil =>
    constructor
    · rintro t trail rest ⟨⟩
    · rintro t trail result ⟨⟩
  | append_singleton actions a ih =>
    rw [run_append_singleton]
    exact ih.moves (moves_act _ a)

/-! ## What is found -/

/-- Balances that are what entries add up to differ from later totals by what was entered since. -/
theorem mem_discrepancies {s s' : Store} {new : List Entry} {d : Audit.Discrepancy}
    (balanced : s.Balanced) (entries : s'.entries = s.entries ++ new) :
    d ∈ (Audit.build s.allHoldings s'.totals).discrepancies ↔
      d.balance = s.amount d.account ∧ d.total = d.balance + Entry.total d.account new ∧
        Entry.total d.account new ≠ 0 := by
  have distinct : (s.allHoldings.map (·.account)).Nodup := by
    rw [Store.accounts_allHoldings]
    exact s.balances.nodup_keys
  have stored : (⟨d.account, d.balance⟩ ∈ s.allHoldings ∨
      d.account ∉ s.allHoldings.map (·.account) ∧ d.balance = 0) ↔
      d.balance = s.amount d.account := by
    rw [Store.mem_allHoldings, Store.accounts_allHoldings, Table.mem_keys_iff, Store.amount]
    cases s.balances.get? d.account with
    | none => simp
    | some amount => simp [eq_comm]
  have known : s.amount d.account = Entry.total d.account s.entries := balanced.amount_eq d.account
  rw [Audit.mem_build distinct, stored, Store.get?_totals, entries, Entry.total_append, ← known]
  constructor
  · rintro ⟨balance, total, differ⟩
    exact ⟨balance, by omega, by omega⟩
  · rintro ⟨balance, total, differ⟩
    exact ⟨balance, by omega, by omega⟩

/-- No balance is negative. -/
theorem negatives_eq_nil {s : Store} (balanced : s.Balanced) (totals : List (Account × Int)) :
    (Audit.build s.allHoldings totals).negatives = [] := by
  refine List.filter_eq_nil_iff.2 fun ⟨account, amount⟩ mem => ?_
  have nonneg := (balanced.counted account amount (Store.mem_allHoldings.1 mem)).1
  simpa using nonneg

/-- A reconciliation that has ended has read the balances at one moment and the totals at another,
and its report tells what was published in between: it lists the accounts on which that adds up to
something, each with its balance at the first moment, and no negative balance. It is consistent iff
what was published in between adds up to nothing on every account. -/
theorem discrepancies_reconcile (actions : List Action) {t : TransactionId} {trail : Trail}
    {result : Except LedgerError Reply}
    (finished : (run actions).finished.get? t = some ⟨.reconcile, trail, result⟩) :
    ∃ first second now now' new report,
      first ++ [.step t now] <+: second ∧ second ++ [.step t now'] <+: actions ∧
      (run second).store.entries = (run first).store.entries ++ new ∧
      result = .ok (.report report) ∧
      report = Audit.build (run first).store.allHoldings (run second).store.totals ∧
      (∀ d, d ∈ report.discrepancies ↔ d.balance = (run first).store.amount d.account ∧
        d.total = d.balance + Entry.total d.account new ∧ Entry.total d.account new ≠ 0) ∧
      report.negatives = [] ∧
      (report.isConsistent = true ↔ ∀ account, Entry.total account new = 0) := by
  obtain ⟨first, second, now, now', before, last, rfl⟩ := (audited_run actions).finished finished
  obtain ⟨new, entries⟩ := (prefix_run ((List.prefix_append first _).trans before)).2
  have balanced := balanced_run first
  have listed : ∀ d, d ∈ (Audit.build (run first).store.allHoldings
      (run second).store.totals).discrepancies ↔ d.balance = (run first).store.amount d.account ∧
        d.total = d.balance + Entry.total d.account new ∧ Entry.total d.account new ≠ 0 :=
    fun d => mem_discrepancies balanced entries.symm
  have negatives := negatives_eq_nil balanced (run second).store.totals
  refine ⟨first, second, now, now', new, _, before, last, entries.symm, rfl, rfl, listed, negatives,
    ?_⟩
  rw [Audit.Report.isConsistent, negatives, List.isEmpty_nil, Bool.and_true, List.isEmpty_iff,
    List.eq_nil_iff_forall_not_mem]
  constructor
  · intro none account
    by_contra some
    exact none ⟨account, (run first).store.amount account,
      (run first).store.amount account + Entry.total account new⟩ ((listed _).2 ⟨rfl, rfl, some⟩)
  · exact fun zero d mem => ((listed d).1 mem).2.2 (zero d.account)

namespace Sample

/-- An order to pay twenty-five more into the first wallet. -/
def another : Order := .adjust .deposit ⟨dollars 1, ⟨25, by decide, by decide⟩, "more"⟩

/-- A deposit that is published while a reconciliation has read the balances, but not the totals. -/
def audited : List Action :=
  opening ++ [.launch .reconcile (.ofMillis 3)] ++ steps 3 1 ++
    [.launch (once another 8) (.ofMillis 4)] ++ steps 4 8 ++ steps 3 1

end Sample

/-- The report that a task is answered with. -/
def report? (w : World) (t : TransactionId) : Option Audit.Report :=
  (w.finished.get? t).bind fun f =>
    match f.result with
    | .ok (.report report) => some report
    | _ => none

/-- The deposit of twenty-five is reported as a discrepancy: a hundred was stored before it, and a
hundred and twenty-five was entered after it. -/
theorem discrepancies_reconcile_deposit :
    ∃ report first second new, (run Sample.audited).report? 3 = some report ∧
      report.discrepancies = [⟨Sample.dollars 1, 100, 125⟩] ∧ report.isConsistent = false ∧
      (run second).store.entries = (run first).store.entries ++ new ∧
      (run first).store.amount (Sample.dollars 1) = 100 ∧
      Entry.total (Sample.dollars 1) new = 25 := by
  have found : (run Sample.audited).report? 3 =
      some { checked := 1, discrepancies := [⟨Sample.dollars 1, 100, 125⟩] } := by decide +kernel
  obtain ⟨⟨task, trail, result⟩, finished, told⟩ := Option.bind_eq_some_iff.1 found
  obtain rfl : task = .reconcile := by
    have asked : ((run Sample.audited).finished.get? 3).map Ending.task = some .reconcile := by
      decide +kernel
    rw [finished] at asked
    exact Option.some.inj asked
  obtain ⟨first, second, _, _, new, report, -, -, entries, rfl, -, listed, -, -⟩ :=
    discrepancies_reconcile Sample.audited finished
  obtain rfl := Option.some.inj told
  obtain ⟨balance, total, -⟩ := (listed _).1 (List.mem_singleton_self _)
  have more : (125 : Int) = 100 + Entry.total (Sample.dollars 1) new := total
  exact ⟨_, first, second, new, found, rfl, rfl, entries, balance.symm, by omega⟩

end World

end CurrencyLedger
