import CurrencyLedger.Proofs.Order.Written
import CurrencyLedger.Proofs.World.Balanced
import CurrencyLedger.Proofs.World.Replay

/-! # The entries tell what was done

However many tasks are under way, the entries of an order are published all at once, so they stand
together among the entries of others, and the balances that its receipt tells are those of that
moment.

* **`Chronicle`** — orders one after another, each with the entries that it has written;
* **`World.Publishes.written`** — an action writes nothing, or what belongs to one order;
* **`World.exists_chronicle`** — so the entries are a chronicle of the published orders. -/

namespace CurrencyLedger

/-! ## Chronicles -/

/-- Orders one after another, each with the entries that it has written. -/
def Chronicle (blocks : List (Order × List Entry)) : Prop :=
  ∀ before order block after, blocks = before ++ (order, block) :: after →
    order.Written (before.map Prod.snd).flatten block

/-- Nothing has been written. -/
theorem Chronicle.nil : Chronicle [] := by
  intro before order block after split
  cases before <;> cases split

/-- One more order has written its entries. -/
theorem Chronicle.snoc {blocks : List (Order × List Entry)} (chronicle : Chronicle blocks)
    {order : Order} {block : List Entry}
    (written : order.Written (blocks.map Prod.snd).flatten block) :
    Chronicle (blocks ++ [(order, block)]) := by
  intro before other entries after split
  rcases List.eq_nil_or_concat after with rfl | ⟨after, last, rfl⟩
  · obtain ⟨rfl, same⟩ := List.append_inj' split rfl
    cases same
    exact written
  · rw [List.concat_eq_append, ← List.cons_append, ← List.append_assoc] at split
    exact chronicle before other entries after (List.append_inj' split rfl).1

/-- The order that a task carries out. -/
def Task.order? : Task → Option Order
  | .carryOut order .. => some order
  | _ => none

namespace World

variable {w w' : World} {shows : Instant → Prop}

/-- The orders that were published, the first one first. -/
def orders (w : World) : List Order := w.published.filterMap (·.2.order?)

/-- The numbers of the orders that were published have 64 bits. -/
def Countable (w : World) : Prop :=
  ∀ t order policy context fresh, (t, .carryOut order policy context fresh) ∈ w.published →
    order.Countable ∧ ∀ n ∈ context.user, Decimal.isInt64 n = true

/-! ## What an action writes -/

/-- An action writes nothing, or all that belongs to an order. -/
theorem Publishes.written (publishes : w.Publishes Datable w') (balanced : w.store.Balanced)
    (countable : w'.Countable) :
    (w'.orders = w.orders ∧ w'.store.entries = w.store.entries) ∨
    ∃ t order policy context fresh block,
      w'.published = w.published ++ [(t, .carryOut order policy context fresh)] ∧
      w'.store.entries = w.store.entries ++ block ∧ order.Written w.store.entries block := by
  cases publishes with
  | nothing books published =>
    exact Or.inl ⟨by rw [orders, orders, published], congrArg Store.Books.entries books⟩
  | wallet t user name chosen now trail named vacant store published finished =>
    refine Or.inl ⟨?_, by rw [store]; rfl⟩
    rw [orders, orders, published, List.filterMap_append]
    exact List.append_nil _
  | order t order policy context fresh receipt trail straight missed ready free vacant store
      published finished =>
    have new : (t, Task.carryOut order policy context fresh) ∈ w'.published := by
      rw [published]
      exact List.mem_append_right _ (List.mem_singleton_self _)
    obtain ⟨counted, user⟩ := countable t order policy context fresh new
    refine Or.inr ⟨t, order, policy, context, fresh, (w.store.transaction t).entries, published,
      by rw [store]; rfl, ready.written straight ?_ counted user fun _ => id⟩
    exact balanced.amount_eq

/-- What was published by an earlier world is countable if all is. -/
theorem Countable.of_publishes (countable : w'.Countable) (publishes : w.Publishes shows w') :
    w.Countable := by
  intro t order policy context fresh mem
  exact countable t order policy context fresh (publishes.published_isPrefix.subset mem)

/-! ## The entries are a chronicle -/

/-- Whatever tasks are under way, have waited in vain, were repeated or were given up: the published
entries are those of the orders that were published, block by block in the order of publication.
Each block is the one entry of a deposit or a withdrawal, or the three entries of a transfer; what
it keeps is a receipt that repeats the entries of the block and tells what the entries of its
accounts add up to, up to the end of the block. -/
theorem exists_chronicle (actions : List Action)
    (dated : ∀ a ∈ actions, ∀ now ∈ a.time?, Datable now) (countable : (run actions).Countable) :
    ∃ blocks : List (Order × List Entry),
      (run actions).store.entries = (blocks.map Prod.snd).flatten ∧
      (run actions).orders = blocks.map Prod.fst ∧ Chronicle blocks := by
  induction actions using List.reverseRecOn with
  | nil => exact ⟨[], rfl, rfl, .nil⟩
  | append_singleton actions a ih =>
    have publishes := publishes_run dated
    obtain ⟨blocks, entries, orders, chronicle⟩ :=
      ih (fun b mem => dated b (List.mem_append_left _ mem)) (countable.of_publishes publishes)
    rcases publishes.written (balanced_run actions) countable with
      ⟨same, kept⟩ | ⟨t, order, policy, context, fresh, block, published, more, written⟩
    · exact ⟨blocks, kept.trans entries, same.trans orders, chronicle⟩
    · -- The new block is written after all that the chronicle tells so far.
      refine ⟨blocks ++ [(order, block)], ?_, ?_, chronicle.snoc (entries ▸ written)⟩
      · rw [more, entries, List.map_append, List.flatten_append]
        simp
      · rw [World.orders, published, List.filterMap_append, ← World.orders, orders, List.map_append]
        rfl

/-- In the sample run the deposit was published, and then the transfer. -/
theorem Sample.published_overlapping : (run overlapping).published =
    [(1, .createWallet ⟨2⟩ ""), (0, .createWallet ⟨1⟩ ""), (2, once deposit 7),
      (3, once transfer 8)] := by
  decide +kernel

/-- Wallets and users of the sample run have numbers of 64 bits. -/
theorem Sample.countable_overlapping : (run overlapping).Countable := by
  intro t order policy context fresh mem
  rw [published_overlapping] at mem
  simp only [once, List.mem_cons, Prod.mk.injEq, reduceCtorEq, and_false, List.not_mem_nil,
    or_false, false_or, Task.carryOut.injEq] at mem
  rcases mem with ⟨-, rfl, -, rfl, -⟩ | ⟨-, rfl, -, rfl, -⟩
  · exact ⟨(by decide : ∀ account ∈ deposit.accounts, _), nofun⟩
  · exact ⟨(by decide : ∀ account ∈ transfer.accounts, _), nofun⟩

/-- Of a transfer and a withdrawal that overlap, the transfer is written after the deposit, and the
withdrawal writes nothing. -/
theorem exists_chronicle_overlapping :
    ∃ first second, (run Sample.overlapping).store.entries = first ++ second ∧
      Sample.deposit.Written [] first ∧ Sample.transfer.Written first second := by
  obtain ⟨blocks, entries, orders, chronicle⟩ := exists_chronicle Sample.overlapping
    Sample.datable_overlapping Sample.countable_overlapping
  rw [World.orders, Sample.published_overlapping] at orders
  obtain ⟨⟨_, first⟩, rest, rfl, rfl, others⟩ := List.map_eq_cons_iff.1 orders.symm
  obtain ⟨⟨_, second⟩, rfl, rfl⟩ := List.map_eq_singleton_iff.1 others
  refine ⟨first, second, ?_, chronicle [] _ first [(Sample.transfer, second)] rfl, ?_⟩
  · rw [entries]
    simp
  · have written := chronicle [(Sample.deposit, first)] _ second [] rfl
    simpa using written

end World

end CurrencyLedger
