import CurrencyLedger.Proofs.World.Written
import Mathlib.Algebra.BigOperators.Group.List.Basic

/-! # Orders published in another order

Whether an order is carried out, refused or repeated depends on what was published before, and so do
the balances that its receipt tells. What a published order adds to the books does not: it is told by
the order and by the rates that it converts by.

* **`Gist`**, **`Order.gists`** — what an entry says, and what the entries of an order say;
* **`World.Summary`**, **`World.summary_run`** — the books say what the published orders say, and
  nothing else;
* **`World.balances_eq_of_perm`** — so the balances do not depend on the order of publication. -/

namespace CurrencyLedger

/-! ## Gists -/

/-- What an entry says, apart from its number, its time and what it keeps. -/
structure Gist where
  /-- Whose account it moves. -/
  account : Account
  /-- What it is about. -/
  kind : EntryKind
  /-- The amount, without a sign. -/
  amount : Int
  /-- The name under which it can be found. -/
  reference : Option String
  deriving DecidableEq

/-- What a posting says. -/
def Posting.gist (p : Posting) : Gist := ⟨p.account, p.kind, p.amount, p.reference⟩

namespace Gist

variable {account : Account} {gists gists' : List Gist}

/-- What gists add up to on an account. -/
def total (account : Account) (gists : List Gist) : Int :=
  ((gists.filter (·.account = account)).map fun g => g.kind.signed g.amount).sum

/-- Postings add up to what their gists do. -/
theorem total_map_gist (account : Account) (postings : List Posting) :
    total account (postings.map Posting.gist) = Posting.total account postings := by
  rw [total, Posting.total, List.filter_map, List.map_map]
  rfl

/-- Gists add up to the same in every order. -/
theorem total_eq_of_perm (same : gists.Perm gists') : total account gists = total account gists' := by
  unfold total
  apply List.Perm.sum_eq
  exact (same.filter _).map _

end Gist

namespace Order

variable {order : Order} {amounts : Account → Int} {receipt : Receipt}

/-- What the entries of an order say, whenever it is published. -/
def gists : Order → List Gist
  | .adjust direction order =>
    [⟨order.account, direction.entry, order.amount.minor, some order.reference⟩]
  | .move rates order =>
    match order.convert rates with
    | .ok conversion =>
      [⟨order.source, .transferOut, order.amount.minor, some order.outgoing⟩,
        ⟨order.target, .transferIn, conversion.converted, some order.incoming⟩,
        ⟨order.source, .record, 0, some order.reference⟩]
    | .error _ => []

/-- The postings of an order do not depend on the amounts that allow it, but for what is kept with
them. -/
theorem map_gist_postings (evaluated : order.evaluate amounts = .ok receipt)
    (completion : Completion) :
    (order.postings receipt completion).map Posting.gist = order.gists := by
  cases order with
  | adjust direction order => rfl
  | move rates order =>
    obtain ⟨receipt, both, rfl⟩ := map_eq_ok.1 evaluated
    obtain ⟨-, converts, -⟩ := Transfer.evaluate_eq_ok both
    simp only [gists, converts]
    rfl

/-- An order leaves balances behind for its own accounts, all of them. -/
theorem isSome_get?_balances (straight : order.isCircular = false)
    (evaluated : order.evaluate amounts = .ok receipt) (completion : Completion)
    (account : Account) :
    ((order.balances receipt).get? account).isSome = true ↔ account ∈ order.accounts := by
  constructor
  · intro given
    obtain ⟨balance, given⟩ := Option.isSome_iff_exists.1 given
    exact mem_accounts_of_get?_balances given
  · intro mem
    obtain ⟨balance, given, -⟩ := get?_balances straight evaluated mem completion
    rw [given]
    rfl

end Order

/-! ## Summaries -/

namespace World

variable {w w' : World} {shows : Instant → Prop}

/-- The books say what the published orders say, and nothing else. -/
structure Summary (w : World) : Prop where
  /-- The entries are those of the orders, one order after another. -/
  gists : w.store.entries.map (·.gist) = w.orders.flatMap Order.gists
  /-- The accounts with a balance are those of the orders. -/
  moved : ∀ account, (w.store.balances.get? account).isSome = true ↔
    ∃ order ∈ w.orders, account ∈ order.accounts

/-- Before anything is published there is nothing to say. -/
theorem Summary.empty : Summary {} := by
  constructor
  · rfl
  · intro account
    simp [orders]

/-- A task that is no order does not count as one. -/
theorem orders_of_other {t : TransactionId} {task : Task} (other : task.order? = none)
    (published : w'.published = w.published ++ [(t, task)]) : w'.orders = w.orders := by
  rw [orders, orders, published, List.filterMap_append]
  simp [other]

/-- A published order is the last one so far. -/
theorem orders_of_order {t : TransactionId} {order : Order} {policy : Retry.Policy}
    {context : Context} {fresh : Uuid}
    (published : w'.published = w.published ++ [(t, .carryOut order policy context fresh)]) :
    w'.orders = w.orders ++ [order] := by
  rw [orders, orders, published, List.filterMap_append]
  rfl

/-- Whatever an action publishes, the books go on to say what the published orders say. -/
theorem Publishes.summary (publishes : w.Publishes shows w') (summary : w.Summary) :
    w'.Summary := by
  cases publishes with
  | nothing books published =>
    have balances : w'.store.balances = w.store.balances := congrArg Store.Books.balances books
    have entries : w'.store.entries = w.store.entries := congrArg Store.Books.entries books
    have orders : w'.orders = w.orders := by rw [World.orders, World.orders, published]
    constructor
    · rw [entries, orders]
      exact summary.gists
    · rw [balances, orders]
      exact summary.moved
  | wallet t user name chosen now trail named vacant store published finished =>
    constructor
    · rw [store, orders_of_other rfl published]
      exact summary.gists
    · rw [store, orders_of_other rfl published]
      exact summary.moved
  | order t order policy context fresh receipt trail straight missed ready free vacant store
      published finished =>
    obtain ⟨recorded, -, drafted⟩ := ready.drafted
    have own := Order.map_gist_postings ready.evaluated
      (order.completion receipt (context.ensureCorrelation fresh) recorded)
    have gives := Order.isSome_get?_balances straight ready.evaluated
      (order.completion receipt (context.ensureCorrelation fresh) recorded)
    constructor
    · -- The draft holds the postings of the order, which say what the order says.
      rw [← drafted.posted, List.map_map] at own
      have entries : w'.store.entries = w.store.entries ++ (w.store.transaction t).entries := by
        rw [store]
        rfl
      rw [entries, orders_of_order published, List.map_append, List.flatMap_append, summary.gists,
        List.flatMap_singleton, ← own]
      rfl
    · intro account
      rw [store, Store.get?_balances_publish, ready.staged_eq straight, orders_of_order published,
        Option.isSome_or, Bool.or_eq_true, gives, summary.moved]
      simp only [List.mem_append, List.mem_singleton]
      constructor
      · rintro (new | ⟨other, mem, old⟩)
        · exact ⟨order, Or.inr rfl, new⟩
        · exact ⟨other, Or.inl mem, old⟩
      · rintro ⟨other, mem | rfl, moved⟩
        · exact Or.inr ⟨other, mem, moved⟩
        · exact Or.inl moved

/-- In every world that can be reached the books say what the published orders say. -/
theorem summary_run (actions : List Action) : (run actions).Summary := by
  induction actions using List.reverseRecOn with
  | nil => exact Summary.empty
  | append_singleton actions a ih =>
    have publishes : (run actions).Publishes (fun _ => True) (run (actions ++ [a])) :=
      publishes_run fun _ _ _ _ => trivial
    exact publishes.summary ih

/-- An account holds what the published orders say about it. -/
theorem Summary.amount_eq (summary : w.Summary) (balanced : w.store.Balanced) (account : Account) :
    w.store.amount account = Gist.total account (w.orders.flatMap Order.gists) := by
  rw [balanced.amount_eq, Store.entered_eq_total, ← Gist.total_map_gist, ← summary.gists,
    List.map_map]
  rfl

/-- A balance is there iff an order has moved the account, and is what the orders say. -/
theorem Summary.get?_balances (summary : w.Summary) (balanced : w.store.Balanced)
    (account : Account) : w.store.balances.get? account =
      if ∃ order ∈ w.orders, account ∈ order.accounts then
        some (Gist.total account (w.orders.flatMap Order.gists))
      else none := by
  rw [← summary.amount_eq balanced, Store.amount]
  by_cases moved : ∃ order ∈ w.orders, account ∈ order.accounts
  · obtain ⟨balance, there⟩ := Option.isSome_iff_exists.1 ((summary.moved account).2 moved)
    rw [if_pos moved, there]
    rfl
  · have missing : (w.store.balances.get? account).isSome = false := by
      rw [← Bool.not_eq_true, summary.moved]
      exact moved
    rw [if_neg moved]
    exact Option.isNone_iff_eq_none.1 (Option.isSome_eq_false_iff.1 missing)

/-- Whatever tasks are under way in two runs, have waited in vain, were repeated, refused or given
up: if the orders that were published in one run are those that were published in the other, with
the same rates but in any order, then both end with the same balances, and the entries of every
account say the same. -/
theorem balances_eq_of_perm {actions actions' : List Action}
    (same : (run actions).orders.Perm (run actions').orders) :
    (run actions).store.balances = (run actions').store.balances ∧
    ∀ account,
      (((run actions).store.entries.filter (·.account = account)).map
        fun e => (e.kind, e.amount, e.reference)).Perm
      (((run actions').store.entries.filter (·.account = account)).map
        fun e => (e.kind, e.amount, e.reference)) := by
  have summary := summary_run actions
  have summary' := summary_run actions'
  have gists : ((run actions).orders.flatMap Order.gists).Perm
      ((run actions').orders.flatMap Order.gists) := same.flatMap_right _
  constructor
  · apply Table.ext_get?
    intro account
    rw [summary.get?_balances (balanced_run actions), summary'.get?_balances (balanced_run actions'),
      Gist.total_eq_of_perm gists]
    simp only [same.mem_iff]
  · intro account
    -- Entries are picked by account and read by their gists.
    have read (w : World) :
        (w.store.entries.filter (·.account = account)).map (fun e => (e.kind, e.amount, e.reference)) =
          ((w.store.entries.map (·.gist)).filter (·.account = account)).map
            fun g => (g.kind, g.amount, g.reference) := by
      rw [List.filter_map, List.map_map]
      rfl
    rw [read, read, summary.gists, summary'.gists]
    exact (gists.filter _).map _

namespace Sample

/-- An order to pay thirty more into the first wallet. -/
def refill : Order := .adjust .deposit ⟨dollars 1, ⟨30, by decide, by decide⟩, "more"⟩

/-- The deposit, the second deposit and then the transfer, one after another. -/
def refillFirst : List Action :=
  opening ++ [.launch (once refill 8) (.ofMillis 3)] ++ steps 3 8 ++
    [.launch (once transfer 9) (.ofMillis 4)] ++ steps 4 16

/-- The transfer and a withdrawal that overlap, and then the second deposit. -/
def refillLast : List Action :=
  overlapping ++ [.launch (once refill 10) (.ofMillis 5)] ++ steps 5 8

/-- In the first of these runs the second deposit is published before the transfer. -/
theorem orders_refillFirst : (run refillFirst).orders = [deposit, refill, transfer] := by
  decide +kernel

/-- In the second one it is published after the transfer, and the withdrawal is refused. -/
theorem orders_refillLast : (run refillLast).orders = [deposit, transfer, refill] := by
  decide +kernel

end Sample

/-- A deposit before a transfer and the same deposit after it, and after a withdrawal that was
refused, leave the same behind. -/
theorem balances_eq_refill :
    (run Sample.refillFirst).orders.Perm (run Sample.refillLast).orders ∧
    (run Sample.refillFirst).store.balances = (run Sample.refillLast).store.balances ∧
    ∀ account,
      (((run Sample.refillFirst).store.entries.filter (·.account = account)).map
        fun e => (e.kind, e.amount, e.reference)).Perm
      (((run Sample.refillLast).store.entries.filter (·.account = account)).map
        fun e => (e.kind, e.amount, e.reference)) := by
  have same : (run Sample.refillFirst).orders.Perm (run Sample.refillLast).orders := by
    rw [Sample.orders_refillFirst, Sample.orders_refillLast]
    exact (List.Perm.swap Sample.transfer Sample.refill []).cons Sample.deposit
  exact ⟨same, balances_eq_of_perm same⟩

end World

end CurrencyLedger
