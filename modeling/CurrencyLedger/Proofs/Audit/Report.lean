import CurrencyLedger.Proofs.Audit
import CurrencyLedger.Proofs.World.Basic

/-! # What a report says

Balances are looked at one by one, and the total of each account that has a balance is used up then;
what is left over are the totals of accounts without one. No account is met twice, so the report lists
each account whose numbers differ once, and lists the same accounts in whatever order balances and
totals come.

* **`Audit.number`** — the number of an account among rows, zero if it has none;
* **`Audit.nodup_found`** — no account is found twice;
* **`Audit.pairwise_discrepancies`** — so the discrepancies ascend strictly;
* **`Audit.Report.Tells`** — all that a report says;
* **`Audit.build_tells`** — reports say so, whatever the order of the rows. -/

namespace CurrencyLedger

/-- A holding as a row of a table. -/
def Holding.row (h : Holding) : Account × Int := (h.account, h.amount)

namespace Audit

variable {holdings holdings' : List Holding} {totals totals' : List (Account × Int)}

/-! ## Numbers of accounts -/

/-- The number of an account among rows, zero if it has none. -/
def number (rows : List (Account × Int)) (account : Account) : Int :=
  (Table.lookup account rows).getD 0

/-- The keys of the rows of holdings are their accounts. -/
theorem keys_row (holdings : List Holding) :
    (holdings.map Holding.row).map Prod.fst = holdings.map (·.account) := by
  rw [List.map_map]
  rfl

/-- An account has some number if a row says so, and zero if none is about it. -/
theorem eq_number_iff {rows : List (Account × Int)} (distinct : (rows.map Prod.fst).Nodup)
    {account : Account} {n : Int} : n = number rows account ↔
      (account, n) ∈ rows ∨ account ∉ rows.map Prod.fst ∧ n = 0 := by
  rw [number]
  cases found : Table.lookup account rows with
  | some value =>
    have mem : (account, value) ∈ rows := Table.mem_of_lookup_eq_some found
    have known : account ∈ rows.map Prod.fst := List.mem_map_of_mem (f := Prod.fst) mem
    rw [Option.getD_some, ← Table.lookup_eq_some_iff distinct, found, Option.some.injEq]
    simp only [known, not_true_eq_false, false_and, or_false, eq_comm]
  | none =>
    have unknown : account ∉ rows.map Prod.fst := by
      intro known
      obtain ⟨⟨_, value⟩, mem, rfl⟩ := List.mem_map.1 known
      cases found.symm.trans (Table.lookup_eq_some_of_mem distinct mem)
    rw [Option.getD_none, ← Table.lookup_eq_some_iff distinct, found]
    simp only [reduceCtorEq, unknown, not_false_eq_true, true_and, false_or]

/-- The discrepancies are the accounts whose two numbers differ. -/
theorem mem_discrepancies_iff (distinct : (holdings.map (·.account)).Nodup)
    (distinct' : (totals.map Prod.fst).Nodup) {d : Discrepancy} :
    d ∈ (build holdings totals).discrepancies ↔
      d.balance = number (holdings.map Holding.row) d.account ∧
        d.total = number totals d.account ∧ d.balance ≠ d.total := by
  have rows : ((holdings.map Holding.row).map Prod.fst).Nodup := by
    rw [keys_row]
    exact distinct
  have listed : (d.account, d.balance) ∈ holdings.map Holding.row ↔
      ⟨d.account, d.balance⟩ ∈ holdings := by
    rw [List.mem_map]
    constructor
    · rintro ⟨⟨_, _⟩, mem, same⟩
      cases same
      exact mem
    · exact fun mem => ⟨_, mem, rfl⟩
  rw [mem_build distinct, Table.get?_ofList distinct', eq_number_iff rows, keys_row, listed]
  rfl

/-! ## The order of discrepancies -/

/-- The comparison of the balances finds no account but theirs, each at its turn. -/
theorem accounts_compareAll_sublist (holdings : List Holding) (totals : Table Account Int) :
    ((compareAll holdings totals).1.map (·.account)).Sublist (holdings.map (·.account)) := by
  induction holdings generalizing totals with
  | nil => exact .slnil
  | cons holding holdings ih =>
    rw [compareAll]
    dsimp only
    split
    · exact (ih _).cons _
    · exact (ih _).cons_cons _

/-- The totals that are left over are of no other accounts than they were, each at its turn. -/
theorem accounts_orphans_sublist (totals : Table Account Int) :
    ((orphans totals).map (·.account)).Sublist totals.keys := by
  rw [orphans, List.map_map]
  exact List.filter_sublist.map Prod.fst

/-- No account is found twice. -/
theorem nodup_found (distinct : (holdings.map (·.account)).Nodup) (totals : Table Account Int) :
    (((compareAll holdings totals).1 ++ orphans (compareAll holdings totals).2).map
      (·.account)).Nodup := by
  have compared := accounts_compareAll_sublist holdings totals
  have leftover := accounts_orphans_sublist (compareAll holdings totals).2
  rw [List.map_append, List.nodup_append]
  refine ⟨compared.nodup distinct, leftover.nodup (Table.nodup_keys _), ?_⟩
  rintro account mem _ mem' rfl
  -- The total of an account with a balance has been used up.
  have gone := get?_compareAll holdings totals account
  rw [if_pos (compared.subset mem)] at gone
  have kept := Table.mem_keys_iff.1 (leftover.subset mem')
  rw [gone] at kept
  cases kept

/-- The discrepancies ascend strictly by their accounts. -/
theorem pairwise_discrepancies (distinct : (holdings.map (·.account)).Nodup)
    (totals : List (Account × Int)) :
    (build holdings totals).discrepancies.Pairwise
      fun a b => compare a.account b.account = .lt :=
  Table.ascending_mergeSort Discrepancy.account (nodup_found distinct (Table.ofList totals))

/-! ## The whole report -/

/-- What a report says about balances and totals. -/
structure Report.Tells (report : Report) (holdings : List Holding) (totals : List (Account × Int)) :
    Prop where
  /-- The discrepancies are the accounts whose two numbers differ, with these numbers. -/
  discrepancies : ∀ d, d ∈ report.discrepancies ↔
    d.balance = number (holdings.map Holding.row) d.account ∧
      d.total = number totals d.account ∧ d.balance ≠ d.total
  /-- They ascend strictly, so that none is listed twice. -/
  ascending : report.discrepancies.Pairwise fun a b => compare a.account b.account = .lt
  /-- The balances below zero stand in the order in which they came. -/
  order : report.negatives.Sublist holdings
  /-- All of them do, and no other ones. -/
  negatives : ∀ h, h ∈ report.negatives ↔ h ∈ holdings ∧ h.amount < 0
  /-- Every balance has been looked at. -/
  checked : report.checked = holdings.length
  /-- Nothing was found iff all numbers agree and no balance is below zero. -/
  consistent : report.isConsistent = true ↔
    (∀ account, number (holdings.map Holding.row) account = number totals account) ∧
      ∀ h ∈ holdings, 0 ≤ h.amount

/-- Nothing is found iff all numbers agree and no balance is below zero. -/
theorem isConsistent_build (distinct : (holdings.map (·.account)).Nodup)
    (distinct' : (totals.map Prod.fst).Nodup) :
    (build holdings totals).isConsistent = true ↔
      (∀ account, number (holdings.map Holding.row) account = number totals account) ∧
        ∀ h ∈ holdings, 0 ≤ h.amount := by
  rw [Report.isConsistent, Bool.and_eq_true, List.isEmpty_iff, List.isEmpty_iff]
  refine and_congr ?_ ?_
  · rw [List.eq_nil_iff_forall_not_mem]
    constructor
    · intro none account
      by_contra differ
      exact none ⟨account, _, _⟩ ((mem_discrepancies_iff distinct distinct').2 ⟨rfl, rfl, differ⟩)
    · intro agree d mem
      obtain ⟨balance, total, differ⟩ := (mem_discrepancies_iff distinct distinct').1 mem
      exact differ (by rw [balance, total, agree])
  · rw [build, List.filter_eq_nil_iff]
    simp only [decide_eq_true_eq, Int.not_lt]

/-- The discrepancies and the verdict of a report do not depend on the order of the rows. -/
theorem build_perm (distinct : (holdings.map (·.account)).Nodup)
    (distinct' : (totals.map Prod.fst).Nodup) (perm : holdings'.Perm holdings)
    (perm' : totals'.Perm totals) :
    (build holdings' totals').discrepancies = (build holdings totals).discrepancies ∧
      (build holdings' totals').isConsistent = (build holdings totals).isConsistent := by
  have again : (holdings'.map (·.account)).Nodup := (perm.map _).nodup_iff.2 distinct
  have again' : (totals'.map Prod.fst).Nodup := (perm'.map _).nodup_iff.2 distinct'
  have rows : ((holdings.map Holding.row).map Prod.fst).Nodup := by
    rw [keys_row]
    exact distinct
  have balance (account : Account) : number (holdings'.map Holding.row) account =
      number (holdings.map Holding.row) account :=
    congrArg (·.getD 0) (Table.lookup_perm rows (perm.map _) account)
  have total (account : Account) : number totals' account = number totals account :=
    congrArg (·.getD 0) (Table.lookup_perm distinct' perm' account)
  constructor
  · refine Table.eq_of_ascending Discrepancy.account (pairwise_discrepancies again totals')
      (pairwise_discrepancies distinct totals) fun d => ?_
    rw [mem_discrepancies_iff again again', mem_discrepancies_iff distinct distinct', balance, total]
  · rw [Bool.eq_iff_iff, isConsistent_build again again', isConsistent_build distinct distinct']
    simp only [balance, total, perm.mem_iff]

/-- The report on balances and totals with an account each tells all about them, and tells the same
discrepancies and the same verdict in whatever order they come. -/
theorem build_tells (holdings : List Holding) (totals : List (Account × Int))
    (distinct : (holdings.map (·.account)).Nodup) (distinct' : (totals.map Prod.fst).Nodup) :
    (build holdings totals).Tells holdings totals ∧
      ∀ holdings' totals', holdings'.Perm holdings → totals'.Perm totals →
        (build holdings' totals').discrepancies = (build holdings totals).discrepancies ∧
          (build holdings' totals').isConsistent = (build holdings totals).isConsistent := by
  refine ⟨?_, fun _ _ => build_perm distinct distinct'⟩
  exact
    { discrepancies := fun _ => mem_discrepancies_iff distinct distinct'
      ascending := pairwise_discrepancies distinct totals
      order := List.filter_sublist
      negatives := fun h => by rw [build, List.mem_filter, decide_eq_true_eq]
      checked := rfl
      consistent := isConsistent_build distinct distinct' }

open World.Sample (dollars)

/-- Dollars below zero, and dollars that have drifted. -/
def Sample.stored : List Holding := [⟨dollars 3, -5⟩, ⟨dollars 1, 650⟩]

/-- What was entered, also of a wallet without a balance. -/
def Sample.entered : List (Account × Int) :=
  [(dollars 2, 14749), (dollars 1, 600), (dollars 3, -5)]

/-- The first two wallets are reported for their differences, and the third one for being below zero.
The same differences are reported if balances and totals come the other way round. -/
theorem build_tells_drift :
    ⟨dollars 1, 650, 600⟩ ∈ (build Sample.stored Sample.entered).discrepancies ∧
    ⟨dollars 2, 0, 14749⟩ ∈ (build Sample.stored Sample.entered).discrepancies ∧
    (∀ d ∈ (build Sample.stored Sample.entered).discrepancies, d.account ≠ dollars 3) ∧
    ⟨dollars 3, -5⟩ ∈ (build Sample.stored Sample.entered).negatives ∧
    (build Sample.stored Sample.entered).isConsistent = false ∧
    (build Sample.stored.reverse Sample.entered.reverse).discrepancies =
      (build Sample.stored Sample.entered).discrepancies := by
  obtain ⟨tells, perm⟩ := build_tells Sample.stored Sample.entered (by decide) (by decide)
  refine ⟨(tells.discrepancies _).2 (by decide), (tells.discrepancies _).2 (by decide), ?_,
    (tells.negatives _).2 (by decide), ?_, (perm _ _ (List.reverse_perm _) (List.reverse_perm _)).1⟩
  · intro d mem same
    obtain ⟨balance, total, differ⟩ := (tells.discrepancies d).1 mem
    rw [same] at balance total
    exact differ (balance.trans total.symm)
  · rw [← Bool.not_eq_true, tells.consistent]
    rintro ⟨agree, -⟩
    exact absurd (agree (dollars 1)) (by decide)

end Audit

end CurrencyLedger
