import CurrencyLedger.Audit
import CurrencyLedger.Proofs.Order.Balancing

/-! # What a reconciliation finds

* **`Audit.mem_compareAll`**, **`Audit.get?_compareAll`** — what the comparison of the balances
  finds, and which totals it leaves over;
* **`Audit.mem_build`** — the discrepancies are the accounts whose two numbers differ;
* **`Store.get?_totals`** — the totals of a store are what its entries add up to;
* **`Store.mem_allHoldings`** — its holdings are its balances. -/

namespace CurrencyLedger

/-! ## Comparing balances with totals -/

namespace Audit

variable {holdings : List Holding} {totals : Table Account Int} {d : Discrepancy}

/-- The totals that are left over are those that no balance has asked for. -/
theorem get?_compareAll (holdings : List Holding) (totals : Table Account Int)
    (account : Account) : (compareAll holdings totals).2.get? account =
      if account ∈ holdings.map (·.account) then none else totals.get? account := by
  induction holdings generalizing totals with
  | nil => rfl
  | cons holding holdings ih =>
    rw [compareAll, ih, Table.get?_erase, List.map_cons]
    by_cases later : account ∈ holdings.map (·.account)
    · rw [if_pos later, if_pos (List.mem_cons_of_mem _ later)]
    · rw [if_neg later]
      by_cases here : account = holding.account
      · rw [if_pos here, if_pos (List.mem_cons.2 (Or.inl here))]
      · rw [if_neg here, if_neg fun mem => (List.mem_cons.1 mem).elim here later]

/-- The comparison of the balances finds those that differ from the totals of their accounts. -/
theorem mem_compareAll (distinct : (holdings.map (·.account)).Nodup) :
    d ∈ (compareAll holdings totals).1 ↔
      ⟨d.account, d.balance⟩ ∈ holdings ∧ d.total = (totals.get? d.account).getD 0 ∧
        d.balance ≠ d.total := by
  induction holdings generalizing totals with
  | nil => simp [compareAll]
  | cons holding holdings ih =>
    obtain ⟨new, distinct⟩ := List.nodup_cons.1 distinct
    -- The accounts that follow are others, so their totals are still there.
    have rest : d ∈ (compareAll holdings (totals.erase holding.account)).1 ↔
        ⟨d.account, d.balance⟩ ∈ holdings ∧ d.total = (totals.get? d.account).getD 0 ∧
          d.balance ≠ d.total := by
      rw [ih distinct]
      refine and_congr_right fun mem => ?_
      have listed : d.account ∈ holdings.map (·.account) :=
        List.mem_map_of_mem (f := Holding.account) mem
      have other : d.account ≠ holding.account := fun same => new (by rwa [same] at listed)
      rw [Table.get?_erase_of_ne _ other]
    rw [compareAll, List.mem_cons, or_and_right, ← rest]
    dsimp only
    split
    case isTrue same =>
      refine ⟨Or.inr, fun h => h.elim (fun ⟨is, total, differ⟩ => ?_) id⟩
      subst is
      exact absurd (same.trans total.symm) differ
    case isFalse differ =>
      rw [List.mem_cons]
      refine or_congr_left ⟨?_, fun ⟨is, total, _⟩ => ?_⟩
      · rintro rfl
        exact ⟨rfl, rfl, differ⟩
      · subst is
        exact congrArg (Discrepancy.mk d.account d.balance) total

/-- The accounts without a balance whose totals differ from zero. -/
theorem mem_orphans : d ∈ orphans totals ↔
    totals.get? d.account = some d.total ∧ d.total ≠ 0 ∧ d.balance = 0 := by
  rw [orphans, List.mem_map]
  constructor
  · rintro ⟨⟨account, total⟩, mem, rfl⟩
    obtain ⟨mem, other⟩ := List.mem_filter.1 mem
    exact ⟨Table.mem_rows_iff.1 mem, by simpa using other, rfl⟩
  · rintro ⟨here, other, balance⟩
    obtain ⟨account, _, total⟩ := d
    obtain rfl : _ = 0 := balance
    exact ⟨(account, total), List.mem_filter.2 ⟨Table.mem_rows_iff.2 here, by simpa using other⟩,
      rfl⟩

/-- The discrepancies are the accounts whose two numbers differ, where what is missing counts as
zero. -/
theorem mem_build {totals : List (Account × Int)}
    (distinct : (holdings.map (·.account)).Nodup) :
    d ∈ (build holdings totals).discrepancies ↔
      (⟨d.account, d.balance⟩ ∈ holdings ∨
        d.account ∉ holdings.map (·.account) ∧ d.balance = 0) ∧
      d.total = ((Table.ofList totals).get? d.account).getD 0 ∧ d.balance ≠ d.total := by
  rw [build, (List.mergeSort_perm _ _).mem_iff, List.mem_append, mem_compareAll distinct,
    mem_orphans, get?_compareAll]
  by_cases mem : d.account ∈ holdings.map (·.account)
  · rw [if_pos mem]
    simp [mem]
  · have absent : ⟨d.account, d.balance⟩ ∉ holdings := fun there =>
      mem (List.mem_map_of_mem (f := Holding.account) there)
    rw [if_neg mem]
    simp only [absent, mem, false_and, false_or, not_false_eq_true, true_and]
    constructor
    · rintro ⟨here, other, balance⟩
      exact ⟨balance, by rw [here, Option.getD_some], balance ▸ other.symm⟩
    · rintro ⟨balance, total, other⟩
      have some : d.total ≠ 0 := balance ▸ other.symm
      cases here : (Table.ofList totals).get? d.account with
      | none => exact absurd (by rw [total, here, Option.getD_none]) some
      | some value =>
        rw [here, Option.getD_some] at total
        exact ⟨by rw [total], some, balance⟩

end Audit

/-! ## What a store reports -/

namespace Store

variable {s : Store} {account : Account}

/-- The holdings of a store are its balances. -/
theorem mem_allHoldings {amount : Int} :
    ⟨account, amount⟩ ∈ s.allHoldings ↔ s.balances.get? account = some amount := by
  rw [allHoldings, List.mem_map, ← Table.mem_rows_iff]
  constructor
  · rintro ⟨⟨_, _⟩, mem, same⟩
    cases same
    exact mem
  · exact fun mem => ⟨_, mem, rfl⟩

/-- The accounts of the holdings of a store are those of its balances. -/
theorem accounts_allHoldings (s : Store) : s.allHoldings.map (·.account) = s.balances.keys := by
  rw [allHoldings, List.map_map]
  rfl

/-- After the totals of entries are added up, every account has what it had and what its entries
add up to. -/
theorem get?_foldl_addToTotal (entries : List Entry) (totals : Table Account Int)
    (account : Account) : ((entries.foldl addToTotal totals).get? account).getD 0 =
      (totals.get? account).getD 0 + Entry.total account entries := by
  induction entries generalizing totals with
  | nil => exact (Int.add_zero _).symm
  | cons entry entries ih =>
    rw [List.foldl_cons, ih, addToTotal, Table.get?_insert, Entry.total_cons]
    by_cases here : entry.account = account
    · rw [if_pos here.symm, if_pos here, Option.getD_some, here, Int.add_assoc]
    · rw [if_neg (Ne.symm here), if_neg here, Int.zero_add]

/-- The totals of a store are what its entries add up to. -/
theorem get?_totals (s : Store) (account : Account) :
    ((Table.ofList s.totals).get? account).getD 0 = Entry.total account s.entries := by
  rw [totals, Table.ofList_rows, get?_foldl_addToTotal]
  exact Int.zero_add _

end Store

end CurrencyLedger
