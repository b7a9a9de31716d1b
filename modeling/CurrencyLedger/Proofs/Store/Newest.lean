import CurrencyLedger.Ledger
import Mathlib.Data.List.Sort

/-! # The newest entries of a wallet

* **`Store.IsHistory`**, **`Store.IsHistory.unique`** — all entries of a wallet by descending
  numbers;
* **`Store.isHistory_mergeSort`** — they are what the entries are sorted to, if no two entries have
  one number;
* **`Store.IsHistory.newest`** — and the newest entries are the first of them;
* **`Store.isHistory_reverse`**, **`Store.IsHistory.append`** — where entries are published in the
  order of their numbers, they are the entries in reverse, and grow at the front;
* **`Ledger.pageSize_mono`** — a page of a greater limit has no fewer entries. -/

namespace CurrencyLedger

namespace Store

variable {s s' : Store} {wallet : WalletId} {entries entries' : List Entry}

/-- Whether entries are the history of a wallet: all entries of it that are published and no others,
each of them once, and those with greater numbers first. -/
structure IsHistory (s : Store) (wallet : WalletId) (entries : List Entry) : Prop where
  /-- They are the published entries of the wallet. -/
  mem_iff : ∀ entry, entry ∈ entries ↔ entry ∈ s.entries ∧ entry.account.wallet = wallet
  /-- Their numbers descend. -/
  descending : entries.Pairwise fun a b => b.id < a.id

/-- A wallet has one history. -/
theorem IsHistory.unique (history : s.IsHistory wallet entries)
    (history' : s.IsHistory wallet entries') : entries = entries' := by
  have antisymm : Std.Antisymm fun a b : Entry => b.id < a.id :=
    ⟨fun _ _ less more => absurd more (Int.lt_asymm less)⟩
  have irrefl : Std.Irrefl fun a b : Entry => b.id < a.id := ⟨fun _ => Int.lt_irrefl _⟩
  exact history.descending.eq_of_mem_iff history'.descending fun entry =>
    (history.mem_iff entry).trans (history'.mem_iff entry).symm

/-- Sorted by descending numbers, the entries of a wallet are its history, if no two entries have
one number. -/
theorem isHistory_mergeSort (distinct : (s.entries.map (·.id)).Nodup) (wallet : WalletId) :
    s.IsHistory wallet
      ((s.entries.filter (·.account.wallet == wallet)).mergeSort fun a b => b.id ≤ a.id) := by
  have perm := List.mergeSort_perm (s.entries.filter (·.account.wallet == wallet))
    fun a b => b.id ≤ a.id
  have trans (a b c : Entry) (ab : decide (b.id ≤ a.id) = true) (bc : decide (c.id ≤ b.id) = true) :
      decide (c.id ≤ a.id) = true :=
    decide_eq_true (Int.le_trans (of_decide_eq_true bc) (of_decide_eq_true ab))
  have total (a b : Entry) : (decide (b.id ≤ a.id) || decide (a.id ≤ b.id)) = true := by
    simpa using Int.le_total b.id a.id
  have sorted := List.pairwise_mergeSort trans total
    (s.entries.filter (·.account.wallet == wallet))
  have apart : (s.entries.filter (·.account.wallet == wallet)).Pairwise fun a b => a.id ≠ b.id :=
    (List.pairwise_map.1 distinct).filter _
  have apart := perm.symm.pairwise apart fun h => h.symm
  refine ⟨fun entry => ?_, ?_⟩
  · rw [perm.mem_iff, List.mem_filter, beq_iff_eq]
  · exact sorted.imp₂ (fun a b le other => lt_of_le_of_ne (of_decide_eq_true le) other.symm) apart

/-- The newest entries of a wallet are the first ones of its history. -/
theorem IsHistory.newest (history : s.IsHistory wallet entries)
    (distinct : (s.entries.map (·.id)).Nodup) (limit : Int) :
    s.newest wallet limit = entries.take limit.toNat := by
  rw [Store.newest, (isHistory_mergeSort distinct wallet).unique history]

/-- Where numbers ascend from entry to entry, the history of a wallet is the reverse of its
entries. -/
theorem isHistory_reverse (ascending : s.entries.Pairwise fun a b => a.id < b.id)
    (wallet : WalletId) :
    s.IsHistory wallet (s.entries.filter (·.account.wallet == wallet)).reverse := by
  refine ⟨fun entry => ?_, ?_⟩
  · rw [List.mem_reverse, List.mem_filter, beq_iff_eq]
  · exact List.pairwise_reverse.2 (ascending.filter _)

/-- There, what is published stands in front of the history, the last entry first. -/
theorem IsHistory.append {written : List Entry} (history : s.IsHistory wallet entries)
    (ascending : s'.entries.Pairwise fun a b => a.id < b.id)
    (added : s'.entries = s.entries ++ written) :
    s'.IsHistory wallet ((written.filter (·.account.wallet == wallet)).reverse ++ entries) := by
  have before : s.entries.Pairwise fun a b => a.id < b.id := by
    rw [added] at ascending
    exact (List.pairwise_append.1 ascending).1
  rw [history.unique (isHistory_reverse before wallet), ← List.reverse_append,
    ← List.filter_append, ← added]
  exact isHistory_reverse ascending wallet

end Store

namespace Ledger

/-- A page of a greater limit has no fewer entries. -/
theorem pageSize_mono {limit limit' : Int} (le : limit ≤ limit') :
    pageSize limit ≤ pageSize limit' := by
  unfold pageSize
  omega

/-- So it begins with every page of a smaller limit. -/
theorem take_pageSize_prefix {limit limit' : Int} (le : limit ≤ limit') (entries : List Entry) :
    entries.take (pageSize limit).toNat <+: entries.take (pageSize limit').toNat :=
  List.take_prefix_take_left (Int.toNat_le_toNat (pageSize_mono le))

end Ledger

end CurrencyLedger
