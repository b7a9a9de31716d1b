import CurrencyLedger.Proofs.Order.Identity
import CurrencyLedger.Proofs.Order.Requests
import CurrencyLedger.Proofs.World.Once
import CurrencyLedger.Proofs.World.Replay

/-! # Requests are known by what they ask for

Requests that ask for the same come down to one order, however they are written, and orders are
recognised by bytes that tell all about them. So a request that is made again under the reference of
one that was published is answered with its receipt if it asks for the same, and is refused if it
does not.

* **`Order.Recorded.finds`** — what an order is told that finds the receipt of another request;
* **`Demand.Alike`**, **`Demand.sameRequest_iff`** — whether requests of callers ask for the same;
* **`World.answers_request`** — what is answered to a request that is made again;
* **`World.identifies_requests`** — so a request is what it asks for. -/

namespace CurrencyLedger

/-! ## Receipts of other requests -/

/-- A completion that is accepted is that of the same request. -/
theorem Completion.accepted_eq_ok {reference : String} {kind : OperationKind}
    {fingerprint : Fingerprint} {entry : Entry} {completion : Completion}
    (h : accepted reference kind fingerprint entry = .ok completion) :
    ofEntry reference entry = .ok completion ∧ completion.kind = kind ∧
      completion.fingerprint = fingerprint := by
  obtain ⟨kept, first, h⟩ := bind_eq_ok.1 h
  obtain ⟨_, verified, h⟩ := bind_eq_ok.1 h
  obtain rfl := Except.ok.inj h
  refine ⟨mapError_eq_ok.1 first, ?_⟩
  have same := mapError_eq_ok.1 verified
  rw [verify] at same
  split at same
  case isTrue => cases same
  case isFalse known =>
    split at same
    case isTrue => cases same
    case isFalse known' => exact ⟨not_not.1 known, not_not.1 known'⟩

namespace Order

variable {order other : Order} {receipt : Receipt} {s : Store}

/-- An order that finds the receipt of another request under its reference is told that the reference
is in use. -/
theorem Recorded.finds (recorded : order.Recorded receipt s)
    (reference : other.reference = order.reference) (differs : ¬ order.SameRequest other)
    (apart : Sha256.Apart [order.requestBytes, other.requestBytes]) (countable : order.Countable)
    (countable' : other.Countable) :
    other.Finds (.error (.idempotencyConflict other.reference)) s := by
  obtain ⟨entry, found, reads⟩ := recorded
  obtain ⟨completion, accepted, -⟩ := bind_eq_ok.1 reads
  obtain ⟨kept, kind, fingerprint⟩ := Completion.accepted_eq_ok accepted
  rw [← reference] at found kept
  refine ⟨entry, found, receiptIn_of_differs kept fun same => differs ?_⟩
  rw [sameRequest_iff apart countable countable', ← kind, ← fingerprint]
  exact same

end Order

/-! ## Requests of callers -/

namespace Demand

/-- Whether a caller asks in major units and unchecked texts. -/
def isRequest : Demand → Bool
  | .adjustRequest .. | .moveRequest _ => true
  | _ => false

/-- Whether requests of callers ask for the same. -/
inductive Alike : Demand → Demand → Prop
  /-- To move one account in the same direction. -/
  | adjust (direction : Direction) {asked other : Adjustment.Request} (alike : asked.Alike other) :
    Alike (.adjustRequest direction asked) (.adjustRequest direction other)
  /-- To move money between two accounts. -/
  | move {asked other : Transfer.Request} (alike : asked.Alike other) :
    Alike (.moveRequest asked) (.moveRequest other)

variable {l l' : Ledger} {demand other : Demand} {order order' : Order}

/-- The order of a request never gives to the account that it takes from. -/
theorem isCircular_order (asked : demand.isRequest = true) (h : demand.order l = .ok order) :
    order.isCircular = false := by
  cases demand with
  | adjustRequest direction asked =>
    obtain ⟨_, -, rfl⟩ := map_eq_ok.1 h
    rfl
  | moveRequest asked =>
    obtain ⟨transfer, made, rfl⟩ := map_eq_ok.1 h
    obtain ⟨_, _, _, -, -, -, different, -⟩ := Transfer.Request.toOrder_eq_ok made
    exact decide_eq_false different
  | _ => cases asked

/-- Orders of requests are attempts of one request iff the requests ask for the same. -/
theorem sameRequest_iff (scale : l.scale = l'.scale) (asked : demand.isRequest = true)
    (asked' : other.isRequest = true) (h : demand.order l = .ok order)
    (h' : other.order l' = .ok order') : order.SameRequest order' ↔ demand.Alike other := by
  cases demand with
  | adjustRequest direction asked =>
    obtain ⟨a, made, rfl⟩ := map_eq_ok.1 h
    cases other with
    | adjustRequest direction' asked' =>
      obtain ⟨b, made', rfl⟩ := map_eq_ok.1 h'
      have same := Adjustment.Request.toOrder_inj made (scale ▸ made')
      constructor
      · rintro ⟨rfl, equal⟩
        exact .adjust direction (same.1 equal)
      · intro alike
        cases alike with
        | adjust direction alike => exact ⟨rfl, same.2 alike⟩
    | moveRequest asked' =>
      obtain ⟨b, -, rfl⟩ := map_eq_ok.1 h'
      exact ⟨False.elim, nofun⟩
    | _ => cases asked'
  | moveRequest asked =>
    obtain ⟨a, made, rfl⟩ := map_eq_ok.1 h
    cases other with
    | adjustRequest direction' asked' =>
      obtain ⟨b, -, rfl⟩ := map_eq_ok.1 h'
      exact ⟨False.elim, nofun⟩
    | moveRequest asked' =>
      obtain ⟨b, made', rfl⟩ := map_eq_ok.1 h'
      have same := Transfer.Request.toOrder_inj made (scale ▸ made')
      constructor
      · exact fun equal => .move (same.1 equal)
      · intro alike
        cases alike with
        | move alike => exact same.2 alike
    | _ => cases asked'
  | _ => cases asked

end Demand

namespace World

/-! ## Requests that are made again -/

/-- A request that is made again under the reference of one that was published, as often as any
policy allows and while anything else is done, is answered with the receipt of the first time iff it
asks for the same, and that the reference is in use if it does not. It ends within three steps of its
own, unless it is given up. -/
theorem answers_request (before after : List Action) {t : TransactionId} {l l' : Ledger}
    {demand other : Demand} {order order' : Order} {policy : Retry.Policy} {context : Context}
    {fresh : Uuid} (policy' : Retry.Policy) (context' : Context) (fresh' : Uuid) (now : Instant)
    (dated : ∀ a ∈ before, ∀ now ∈ a.time?, Datable now)
    (scale : l.scale = l'.scale) (asked : demand.isRequest = true) (asked' : other.isRequest = true)
    (made : demand.order l = .ok order) (made' : other.order l' = .ok order')
    (reference : order'.reference = order.reference)
    (countable : order.Countable) (countable' : order'.Countable)
    (user : ∀ n ∈ context.user, Decimal.isInt64 n = true)
    (apart : Sha256.Apart [order.requestBytes, order'.requestBytes])
    (published : (t, .carryOut order policy context fresh) ∈ (run before).published) :
    ∃ trail receipt,
      (run before).finished.get? t =
        some ⟨.carryOut order policy context fresh, trail, .ok (.processed ⟨receipt, false⟩)⟩ ∧
      let launch : Action := .launch (.carryOut order' policy' context' fresh') now
      let again := (run before).next
      let w := run (before ++ launch :: after)
      (∀ f, w.finished.get? again = some f →
        (f.result = .ok (.processed ⟨receipt, true⟩) ↔ demand.Alike other) ∧
        (¬ demand.Alike other →
          f.result = .error (.idempotencyConflict order.reference))) ∧
      ((∀ a ∈ after, a ≠ .abandon again) → 3 ≤ after.countP (·.isStep again) →
        (w.finished.get? again).isSome = true) := by
  obtain ⟨trail, receipt, done, -, recorded⟩ :=
    recorded_of_published dated countable user published
  refine ⟨trail, receipt, done, ?_⟩
  intro launch again w
  have straight := Demand.isCircular_order asked' made'
  have same := Demand.sameRequest_iff scale asked asked' made made'
  by_cases alike : demand.Alike other
  · have finds : order'.Finds (.ok receipt) (run before).store :=
      recorded.of_sameRequest (same.2 alike)
    obtain ⟨told, ends, -⟩ :=
      repeats_answer before after policy' context' fresh' now straight rfl finds
    exact ⟨fun f done => ⟨iff_of_true (told f done) alike, absurd alike⟩, ends⟩
  · have finds := recorded.finds reference (fun h => alike (same.1 h)) apart countable countable'
    rw [reference] at finds
    obtain ⟨told, ends, -⟩ :=
      repeats_answer before after policy' context' fresh' now straight rfl finds
    refine ⟨fun f done => ⟨iff_of_false (fun replayed => ?_) alike, fun _ => told f done⟩, ends⟩
    cases replayed.symm.trans (told f done)

/-- A request is what it asks for. Two transfers that were requested at one scale are equal iff the
requests name the same wallets and the same reference, the same currencies without regard to blanks
around them and to case, and amounts of the same value; so are two adjustments. The bytes that orders
are recognised by are equal iff the orders are, whatever characters their references are made of.
And a request that is made again under the reference of one that was published is answered with its
receipt iff it asks for the same, and otherwise that the reference is in use, if the bytes of the two
have digests of their own. -/
theorem identifies_requests :
    (∀ (scale : Nat) (asked other : Transfer.Request) (a b : Transfer),
      asked.toOrder scale = .ok a → other.toOrder scale = .ok b → (a = b ↔ asked.Alike other)) ∧
    (∀ (scale : Nat) (asked other : Adjustment.Request) (a b : Adjustment),
      asked.toOrder scale = .ok a → other.toOrder scale = .ok b → (a = b ↔ asked.Alike other)) ∧
    (∀ a b : Transfer,
      (∀ account ∈ [a.source, a.target, b.source, b.target],
        Decimal.isInt64 account.wallet.value = true) →
      (a.toJson.text.toUTF8.toList = b.toJson.text.toUTF8.toList ↔ a = b) ∧
        a.fingerprint = .ofBytes a.toJson.text.toUTF8.toList) ∧
    (∀ a b : Adjustment,
      (∀ account ∈ [a.account, b.account], Decimal.isInt64 account.wallet.value = true) →
      (a.toJson.text.toUTF8.toList = b.toJson.text.toUTF8.toList ↔ a = b) ∧
        a.fingerprint = .ofBytes a.toJson.text.toUTF8.toList) ∧
    ∀ (before after : List Action) (t : TransactionId) (l l' : Ledger) (demand other : Demand)
      (order order' : Order) (policy policy' : Retry.Policy) (context context' : Context)
      (fresh fresh' : Uuid) (now : Instant),
      (∀ a ∈ before, ∀ now ∈ a.time?, Datable now) → l.scale = l'.scale →
      demand.isRequest = true → other.isRequest = true →
      demand.order l = .ok order → other.order l' = .ok order' →
      order'.reference = order.reference → order.Countable → order'.Countable →
      (∀ n ∈ context.user, Decimal.isInt64 n = true) →
      Sha256.Apart [order.requestBytes, order'.requestBytes] →
      (t, .carryOut order policy context fresh) ∈ (run before).published →
      ∃ trail receipt,
        (run before).finished.get? t =
          some ⟨.carryOut order policy context fresh, trail, .ok (.processed ⟨receipt, false⟩)⟩ ∧
        let launch : Action := .launch (.carryOut order' policy' context' fresh') now
        let again := (run before).next
        let w := run (before ++ launch :: after)
        (∀ f, w.finished.get? again = some f →
          (f.result = .ok (.processed ⟨receipt, true⟩) ↔ demand.Alike other) ∧
          (¬ demand.Alike other →
            f.result = .error (.idempotencyConflict order.reference))) ∧
        ((∀ a ∈ after, a ≠ .abandon again) → 3 ≤ after.countP (·.isStep again) →
          (w.finished.get? again).isSome = true) := by
  refine ⟨fun scale asked other a b => Transfer.Request.toOrder_inj,
    fun scale asked other a b => Adjustment.Request.toOrder_inj, fun a b counted => ⟨?_, rfl⟩,
    fun a b counted => ⟨?_, rfl⟩, ?_⟩
  · simp only [List.forall_mem_cons] at counted
    obtain ⟨source, target, source', target', -⟩ := counted
    rw [Text.utf8_inj, Json.text_inj (Transfer.isExact_toJson source target)
      (Transfer.isExact_toJson source' target'), Transfer.toJson_inj]
  · simp only [List.forall_mem_cons] at counted
    obtain ⟨wallet, wallet', -⟩ := counted
    rw [Text.utf8_inj, Json.text_inj (Adjustment.isExact_toJson wallet)
      (Adjustment.isExact_toJson wallet'), Adjustment.toJson_inj]
  · intro before after t l l' demand other order order' policy policy' context context' fresh fresh'
      now dated scale asked asked' made made' reference countable countable' user apart published
    exact answers_request before after policy' context' fresh' now dated scale asked asked' made made'
      reference countable countable' user apart published

namespace Sample

/-- A ledger that counts in cents. -/
def cents : Ledger := { rates := .empty }

/-- A request to move an amount from the first wallet to the second. -/
def asking (currency : String) (amount : Decimal) : Demand :=
  .moveRequest ⟨1, 2, currency, "USD", amount, "share"⟩

/-- Sixty cents, as `0.60`. -/
def sixty : Decimal := ⟨60, 2, false, by decide, by decide, nofun⟩

/-- Sixty cents, as `0.6`. -/
def sixTenths : Decimal := ⟨6, 1, false, by decide, by decide, nofun⟩

/-- Sixty-one cents. -/
def sixtyOne : Decimal := ⟨61, 2, false, by decide, by decide, nofun⟩

/-- An order to move sixty-one from the first wallet to the second. -/
def transferMore : Order := .move .empty ⟨dollars 1, dollars 2, ⟨61, by decide, by decide⟩, "share"⟩

end Sample

/-- After sixty cents were moved, the same request in other words is answered with the receipt of
the first time, and one for a cent more is refused. -/
theorem identifies_requests_overlapping :
    (∃ trail receipt, (run Sample.overlapping).finished.get? 3 =
        some ⟨Sample.once Sample.transfer 8, trail, .ok (.processed ⟨receipt, false⟩)⟩ ∧
      ∃ f, (run (Sample.overlapping ++ .launch (.carryOut Sample.transfer {} {} ⟨0⟩) (.ofMillis 9) ::
          Sample.steps 5 3)).finished.get? 5 = some f ∧
        f.result = .ok (.processed ⟨receipt, true⟩)) ∧
    ∃ f, (run (Sample.overlapping ++
        .launch (.carryOut Sample.transferMore {} {} ⟨0⟩) (.ofMillis 9) ::
          Sample.steps 5 3)).finished.get? 5 = some f ∧
      f.result = .error (.idempotencyConflict "share") := by
  obtain ⟨-, -, -, -, answers⟩ := identifies_requests
  have counted (order : Order) (mem : order ∈ [Sample.transfer, Sample.transferMore]) :
      order.Countable := by
    rw [Order.Countable]
    revert order
    decide
  have published : (3, Sample.once Sample.transfer 8) ∈ (run Sample.overlapping).published := by
    decide +kernel
  have fifth : (run Sample.overlapping).next = 5 := by decide +kernel
  have steady : ∀ a ∈ Sample.steps 5 3, a ≠ .abandon 5 := by
    intro a mem
    rw [Sample.steps, List.mem_replicate] at mem
    rw [mem.2]
    intro same
    cases same
  have first : (Sample.asking "USD" Sample.sixty).order Sample.cents = .ok Sample.transfer := by
    decide +kernel
  constructor
  · have again : (Sample.asking " usd" Sample.sixTenths).order Sample.cents =
        .ok Sample.transfer := by decide +kernel
    have one : Sha256.Apart [Sample.transfer.requestBytes, Sample.transfer.requestBytes] := by
      simp [Sha256.Apart]
    have alike : (Sample.asking "USD" Sample.sixty).Alike
        (Sample.asking " usd" Sample.sixTenths) := by
      refine .move ⟨rfl, rfl, by decide +kernel, rfl, ?_, rfl⟩
      norm_num [Decimal.value, Sample.sixty, Sample.sixTenths]
    obtain ⟨trail, receipt, done, told, ends⟩ := answers Sample.overlapping (Sample.steps 5 3) 3
      Sample.cents Sample.cents _ _ _ _ .single {} {} {} _ ⟨0⟩ (.ofMillis 9)
      Sample.datable_overlapping rfl rfl rfl first again rfl (counted _ (by simp))
      (counted _ (by simp)) (fun n mem => by cases mem) one published
    rw [fifth] at told ends
    obtain ⟨f, there⟩ := Option.isSome_iff_exists.1 (ends steady (by decide))
    exact ⟨trail, receipt, done, f, there, (told f there).1.2 alike⟩
  · have more : (Sample.asking "USD" Sample.sixtyOne).order Sample.cents =
        .ok Sample.transferMore := by decide +kernel
    have two : Sha256.Apart [Sample.transfer.requestBytes, Sample.transferMore.requestBytes] := by
      show ∀ a ∈ _, ∀ b ∈ _, _ → _
      decide +kernel
    have differs : ¬ (Sample.asking "USD" Sample.sixty).Alike
        (Sample.asking "USD" Sample.sixtyOne) := by
      intro alike
      cases alike with
      | move alike =>
        have same := alike.amount
        norm_num [Decimal.value, Sample.sixty, Sample.sixtyOne] at same
    obtain ⟨_, _, -, told, ends⟩ := answers Sample.overlapping (Sample.steps 5 3) 3
      Sample.cents Sample.cents _ _ _ _ .single {} {} {} _ ⟨0⟩ (.ofMillis 9)
      Sample.datable_overlapping rfl rfl rfl first more rfl (counted _ (by simp))
      (counted _ (by simp)) (fun n mem => by cases mem) two published
    rw [fifth] at told ends
    obtain ⟨f, there⟩ := Option.isSome_iff_exists.1 (ends steady (by decide))
    exact ⟨f, there, (told f there).2 differs⟩

end World

end CurrencyLedger
