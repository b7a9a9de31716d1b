import CurrencyLedger.Proofs.World.Decided
import CurrencyLedger.Proofs.World.Duplicate
import CurrencyLedger.Proofs.World.Reordered
import CurrencyLedger.Proofs.World.Requests

/-! # References that are entered

A request is checked before anything is asked of the store, and its reference is checked with it. An
order that a caller hands over in minor units is carried out as it is. What carries it out does check
that it moves money between two accounts, but not under which reference, so that an order which was
not made by its constructor can enter any text.

* **`Order.Checked`**, **`Order.checked_iff`** — orders that were made by their constructors;
* **`Demand.order_of_fault`** — what becomes of a request whose reference is none;
* **`World.exists_entered`** — some run enters it, whatever text it is;
* **`World.references_run`** — every reference that is entered is that of an order, and is free of
  faults iff the order was checked. -/

namespace CurrencyLedger

/-! ## Checks of references -/

/-- A text is accepted as a reference iff nothing is wrong with it. -/
theorem checkReference_eq_ok {reference : String} {u : Unit} :
    checkReference reference = .ok u ↔ Reference.fault? reference = none := by
  unfold checkReference
  cases Reference.fault? reference <;> simp

/-- A text is refused as a reference by the first thing that is wrong with it. -/
theorem checkReference_of_fault {reference : String} {fault : Reference.Fault}
    (faulty : Reference.fault? reference = some fault) :
    checkReference reference = .error (.invalidReference fault.message) := by
  rw [checkReference, faulty]

/-- No adjustment is made under a text that is no reference. -/
theorem Adjustment.make_of_fault {reference : String} {fault : Reference.Fault}
    (faulty : Reference.fault? reference = some fault) (account : Account) (amount : Amount) :
    make account amount reference = .error (.invalidReference fault.message) := by
  rw [make, checkReference_of_fault faulty]
  rfl

/-- No transfer is made under a text that is no reference. -/
theorem Transfer.make_of_fault {reference : String} {fault : Reference.Fault}
    (faulty : Reference.fault? reference = some fault) (source target : Account) (amount : Amount) :
    make source target amount reference = .error (.invalidReference fault.message) := by
  rw [make, checkReference_of_fault faulty]
  rfl

namespace Order

variable {order : Order}

/-- Whether an order was made by its constructor. -/
inductive Checked : Order → Prop
  /-- To move one account. -/
  | adjust (direction : Direction) {account : Account} {amount : Amount} {reference : String}
      {order : Adjustment} (made : Adjustment.make account amount reference = .ok order) :
      Checked (.adjust direction order)
  /-- To move money between two accounts. -/
  | move (rates : Rates) {source target : Account} {amount : Amount} {reference : String}
      {order : Transfer} (made : Transfer.make source target amount reference = .ok order) :
      Checked (.move rates order)

/-- Constructors make the orders whose references have no faults, and that do not give to the account
that they take from. -/
theorem checked_iff :
    order.Checked ↔ Reference.fault? order.reference = none ∧ order.isCircular = false := by
  constructor
  · intro checked
    cases checked with
    | adjust direction made =>
      obtain ⟨_, accepted, -⟩ := bind_eq_ok.1 made
      obtain rfl := Adjustment.make_eq_ok made
      exact ⟨checkReference_eq_ok.1 accepted, rfl⟩
    | move rates made =>
      obtain ⟨_, accepted, -⟩ := bind_eq_ok.1 made
      obtain ⟨rfl, different⟩ := Transfer.make_eq_ok made
      exact ⟨checkReference_eq_ok.1 accepted, decide_eq_false different⟩
  · rintro ⟨clean, straight⟩
    have accepted : checkReference order.reference = .ok () := checkReference_eq_ok.2 clean
    cases order with
    | adjust direction order =>
      have made : Adjustment.make order.account order.amount order.reference = .ok order := by
        rw [Adjustment.make, show checkReference order.reference = .ok () from accepted]
        rfl
      exact .adjust direction made
    | move rates order =>
      have made : Transfer.make order.source order.target order.amount order.reference =
          .ok order := by
        rw [Transfer.make, show checkReference order.reference = .ok () from accepted]
        exact if_neg (of_decide_eq_false straight)
      exact .move rates made

end Order

/-! ## Requests -/

namespace Demand

variable {l : Ledger} {demand : Demand} {order : Order} {fault : Reference.Fault}

/-- The caller's name for what is asked for. -/
def reference : Demand → String
  | .adjust _ order => order.reference
  | .adjustRequest _ asked => asked.reference
  | .move order => order.reference
  | .moveRequest asked => asked.reference

/-- The same demand under another reference. -/
def named (reference : String) : Demand → Demand
  | .adjust direction order => .adjust direction { order with reference }
  | .adjustRequest direction asked => .adjustRequest direction { asked with reference }
  | .move order => .move { order with reference }
  | .moveRequest asked => .moveRequest { asked with reference }

/-- The order of a request was checked, and has the reference of the request. -/
theorem checked_order (asked : demand.isRequest = true) (h : demand.order l = .ok order) :
    order.Checked ∧ order.reference = demand.reference := by
  cases demand with
  | adjustRequest direction asked =>
    obtain ⟨a, made, rfl⟩ := map_eq_ok.1 h
    obtain ⟨_, -, rest⟩ := bind_eq_ok.1 made
    obtain ⟨_, -, made⟩ := bind_eq_ok.1 rest
    refine ⟨.adjust direction made, ?_⟩
    rw [Adjustment.make_eq_ok made]
    rfl
  | moveRequest asked =>
    obtain ⟨t, made, rfl⟩ := map_eq_ok.1 h
    obtain ⟨_, -, rest⟩ := bind_eq_ok.1 made
    obtain ⟨_, -, rest⟩ := bind_eq_ok.1 rest
    obtain ⟨_, -, made⟩ := bind_eq_ok.1 rest
    refine ⟨.move l.rates made, ?_⟩
    rw [(Transfer.make_eq_ok made).1]
    rfl
  | _ => cases asked

/-- A request whose reference is none is refused for it, or for something that is wrong with it under
every reference. -/
theorem order_of_fault (asked : demand.isRequest = true)
    (faulty : Reference.fault? demand.reference = some fault) :
    ∃ error, demand.order l = .error error ∧ (error = .invalidReference fault.message ∨
      ∀ reference, (demand.named reference).order l = .error error) := by
  -- The currencies and the amount are checked before the reference, without regard to it.
  cases demand with
  | adjustRequest direction request =>
    simp only [Demand.order, Demand.named, Adjustment.Request.toOrder]
    cases Currency.ofText request.currency with
    | error error => exact ⟨_, rfl, Or.inr fun _ => rfl⟩
    | ok currency =>
      cases Amount.ofMajor request.amount l.scale with
      | error error => exact ⟨_, rfl, Or.inr fun _ => rfl⟩
      | ok amount =>
        have refused := Adjustment.make_of_fault faulty ⟨⟨request.wallet⟩, currency⟩ amount
        exact ⟨_, map_eq_error.2 refused, Or.inl rfl⟩
  | moveRequest request =>
    simp only [Demand.order, Demand.named, Transfer.Request.toOrder]
    cases Currency.ofText request.sourceCurrency with
    | error error => exact ⟨_, rfl, Or.inr fun _ => rfl⟩
    | ok source =>
      cases Currency.ofText request.targetCurrency with
      | error error => exact ⟨_, rfl, Or.inr fun _ => rfl⟩
      | ok target =>
        cases Amount.ofMajor request.amount l.scale with
        | error error => exact ⟨_, rfl, Or.inr fun _ => rfl⟩
        | ok amount =>
          have refused := Transfer.make_of_fault faulty ⟨⟨request.sourceWallet⟩, source⟩
            ⟨⟨request.targetWallet⟩, target⟩ amount
          exact ⟨_, map_eq_error.2 refused, Or.inl rfl⟩
  | _ => cases asked

end Demand

/-! ## Entered references -/

/-- What an order says, it says under its own reference or one made from it. -/
theorem Order.reference_of_mem_gists {order : Order} {g : Gist} (mem : g ∈ order.gists) :
    ∃ reference ∈ [order.reference, Reference.outgoing order.reference,
      Reference.incoming order.reference], g.reference = some reference := by
  cases order with
  | adjust direction order =>
    obtain rfl := List.mem_singleton.1 mem
    exact ⟨order.reference, List.mem_cons_self, rfl⟩
  | move rates order =>
    rw [gists] at mem
    split at mem
    case h_2 => cases mem
    case h_1 conversion converts =>
      simp only [List.mem_cons, List.not_mem_nil, or_false] at mem
      rcases mem with rfl | rfl | rfl
      · exact ⟨order.outgoing, by simp [Transfer.outgoing, Order.reference], rfl⟩
      · exact ⟨order.incoming, by simp [Transfer.incoming, Order.reference], rfl⟩
      · exact ⟨order.reference, List.mem_cons_self, rfl⟩

namespace World

/-- An order among the published ones was published by a task. -/
theorem exists_of_mem_orders {w : World} {order : Order} (mem : order ∈ w.orders) :
    ∃ t policy context fresh, (t, Task.carryOut order policy context fresh) ∈ w.published := by
  obtain ⟨⟨t, task⟩, there, tells⟩ := List.mem_filterMap.1 mem
  cases task with
  | carryOut other policy context fresh =>
    obtain rfl := Option.some.inj tells
    exact ⟨t, policy, context, fresh, there⟩
  | _ => cases tells

/-- Every text is entered by some run, as the reference of a deposit. -/
theorem exists_entered (reference : String) :
    ∃ actions, ∃ entry ∈ (run actions).store.entries, entry.reference = some reference := by
  -- In a world with one wallet and nothing under way, a deposit is entered under it.
  let opened : List Action := [.launch (.createWallet ⟨1⟩ "") (.ofMillis 0), .step 0 (.ofMillis 0)]
  let order : Order := .adjust .deposit ⟨Sample.dollars 1, ⟨5, by decide, by decide⟩, reference⟩
  have live : (run opened).store.live.rows = [] := by decide +kernel
  have entries : (run opened).store.entries = [] := by decide +kernel
  have balances : (run opened).store.balances.rows = [] := by decide +kernel
  have housed : (run opened).store.hasWallet ⟨1⟩ = true := by decide +kernel
  obtain ⟨n, trail, result, done, decided, leaves⟩ :=
    exists_decided opened order .single {} ⟨0⟩ (.ofMillis 0) rfl fun t => by
      rw [Table.get?, live]
      rfl
  obtain ⟨receipt, rfl⟩ : ∃ receipt, result = .ok ⟨receipt, false⟩ := by
    cases decided with
    | circular circular => cases circular
    | recalled entry straight found =>
      rw [entries] at found
      cases found
    | claimed side straight free first => cases first
    | homeless account straight unused least =>
      obtain ⟨mem, homeless, -⟩ := Order.least_of_homeless? least
      obtain rfl := List.mem_singleton.1 mem
      cases housed.symm.trans homeless
    | evaluated straight unused housed =>
      have nothing : order.evaluate (run opened).store.amount = order.evaluate fun _ => 0 := by
        refine Order.evaluate_congr fun account _ => ?_
        rw [Store.amount, Table.get?, balances]
        rfl
      rw [nothing]
      exact ⟨_, rfl⟩
  obtain ⟨recorded, written, is, posted⟩ := (leaves.fresh receipt rfl).entries
  obtain ⟨entry, rest, rfl, first, -⟩ := List.map_eq_cons_iff.1 posted
  have mem : entry ∈ (run opened).store.entries ++ entry :: rest :=
    List.mem_append_right _ List.mem_cons_self
  rw [← is] at mem
  exact ⟨_, entry, mem, congrArg Posting.reference first⟩

/-- Whatever tasks are under way, every entry carries the reference of an order that was published,
or one made from it, and every such order has entered its reference. That is one without faults iff
the order was made by its constructor, as all orders of requests are: for another order nothing
checks it, so that there is no text that is never entered. A request whose reference is none is
refused before anything is asked of the store, for its reference or for something that is wrong with
it under every reference. -/
theorem references_run (actions : List Action) (l : Ledger) (demand : Demand) (context : Context)
    (fresh : Uuid) :
    (∀ entry ∈ (run actions).store.entries, ∃ order ∈ (run actions).orders,
      ∃ reference ∈ [order.reference, Reference.outgoing order.reference,
        Reference.incoming order.reference], entry.reference = some reference) ∧
    (∀ order ∈ (run actions).orders,
      (∃ entry ∈ (run actions).store.entries, entry.reference = some order.reference) ∧
      (order.Checked ↔ Reference.fault? order.reference = none)) ∧
    (demand.isRequest = true →
      (∀ order, demand.order l = .ok order →
        order.Checked ∧ order.reference = demand.reference) ∧
      ∀ fault, Reference.fault? demand.reference = some fault →
        ∃ error, demand.operation l context fresh = throw error ∧
          (error = .invalidReference fault.message ∨
            ∀ reference, (demand.named reference).operation l context fresh = throw error)) ∧
    ∀ reference : String,
      ∃ others, ∃ entry ∈ (run others).store.entries, entry.reference = some reference := by
  refine ⟨fun entry mem => ?_, fun order mem => ?_, fun asked => ?_, exists_entered⟩
  · have said : entry.gist ∈ (run actions).orders.flatMap Order.gists := by
      rw [← (summary_run actions).gists]
      exact List.mem_map_of_mem mem
    obtain ⟨order, published, said⟩ := List.mem_flatMap.1 said
    exact ⟨order, published, Order.reference_of_mem_gists said⟩
  · obtain ⟨t, policy, context, fresh, published⟩ := exists_of_mem_orders mem
    have applied := applied_run published
    constructor
    · exact applied.written order.reference List.mem_cons_self
    · rw [Order.checked_iff]
      exact and_iff_left applied.straight
  · refine ⟨fun order made => Demand.checked_order asked made, fun fault faulty => ?_⟩
    obtain ⟨error, refused, why⟩ := Demand.order_of_fault (l := l) asked faulty
    refine ⟨error, ?_, why.imp_right fun always reference => ?_⟩
    · rw [Demand.operation_eq, refused]
    · rw [Demand.operation_eq, always reference]

namespace Sample

/-- An order to pay five into the first wallet, under a text that is no reference. -/
def unnamed : Adjustment := ⟨dollars 1, ⟨5, by decide, by decide⟩, ""⟩

/-- A request for the same. -/
def unnamedRequest : Adjustment.Request :=
  ⟨1, "USD", ⟨50, 3, false, by decide, by decide, nofun⟩, ""⟩

/-- Two wallets, a deposit into the first one, and one more under the text that is no reference. -/
def unnamedLast : List Action :=
  opening ++ [.launch (once (.adjust .deposit unnamed) 8) (.ofMillis 3)] ++ steps 3 8

end Sample

/-- An order without a name is read as it was written, and what it pays in is entered under no name,
which no checked order can have made. The request for the same is refused. -/
theorem references_run_unnamed :
    Adjustment.ofJson? Sample.unnamed.toJson = some Sample.unnamed ∧
    ¬ (Order.adjust .deposit Sample.unnamed).Checked ∧
    (∃ entry ∈ (run Sample.unnamedLast).store.entries, entry.reference = some "") ∧
    (∀ reference, Reference.fault? reference = none →
      "" ∉ [reference, Reference.outgoing reference, Reference.incoming reference]) ∧
    ∃ error, (Demand.adjustRequest .deposit Sample.unnamedRequest).operation Sample.cents {} ⟨0⟩ =
      throw error := by
  obtain ⟨-, published, request, -⟩ := references_run Sample.unnamedLast Sample.cents
    (.adjustRequest .deposit Sample.unnamedRequest) {} ⟨0⟩
  have mem : Order.adjust .deposit Sample.unnamed ∈ (run Sample.unnamedLast).orders := by
    have orders : (run Sample.unnamedLast).orders =
        [Sample.deposit, .adjust .deposit Sample.unnamed] := by decide +kernel
    rw [orders]
    exact List.mem_cons_of_mem _ List.mem_cons_self
  have faulty : Reference.fault? "" = some .empty := by decide +kernel
  obtain ⟨entered, checked⟩ := published _ mem
  refine ⟨by decide +kernel, ?_, entered, ?_, ?_⟩
  · intro made
    cases faulty.symm.trans (checked.1 made)
  · intro reference clean mem
    simp only [List.mem_cons, List.not_mem_nil, or_false] at mem
    rcases mem with rfl | same | same
    · cases faulty.symm.trans clean
    · have longer := congrArg String.length same
      rw [Reference.outgoing, String.length_append] at longer
      exact absurd longer (Nat.succ_ne_zero _).symm
    · have longer := congrArg String.length same
      rw [Reference.incoming, String.length_append] at longer
      exact absurd longer (Nat.succ_ne_zero _).symm
  · obtain ⟨error, refused, -⟩ := (request rfl).2 .empty faulty
    exact ⟨error, refused⟩

end World

end CurrencyLedger
