import CurrencyLedger.Proofs.Order.Stages
import CurrencyLedger.Proofs.Store.Ranged
import CurrencyLedger.Proofs.World.Audited
import CurrencyLedger.Proofs.World.Reordered

/-! # Every sum can be counted

Numbers have 64 bits, and only some sums are checked. Those that are not stay within bounds all the
same: an order is published all at once, so what the entries of an account add up to, from the first
entry on to any other, is what the account held at some moment.

* **`Order.Shifts.bounds`**, **`World.counted_of_running`** — by how much orders ask accounts to be
  moved;
* **`World.ranged_run`** — what tasks are about to publish can be counted, and numbers of entries are
  given out one after another;
* **`World.Tallied`**, **`World.tallied_run`** — the sums of the first entries;
* **`World.Computable`**, **`World.computable_run`** — no sum and no sign leads beyond 64 bits. -/

namespace CurrencyLedger

/-- A number has 64 bits if its negation can be counted, and it can be counted itself. -/
theorem Decimal.isInt64_of_bounds {n : Int} (low : -maxInt64 ≤ n) (high : n ≤ maxInt64) :
    isInt64 n = true := by
  unfold isInt64
  rw [Bool.and_eq_true, decide_eq_true_eq, decide_eq_true_eq]
  unfold minInt64 maxInt64 at *
  omega

/-- A balance has 64 bits. -/
theorem Store.IsBalance.isInt64 {n : Int} (balance : IsBalance n) : Decimal.isInt64 n = true := by
  obtain ⟨nonneg, le_max⟩ := balance
  apply Decimal.isInt64_of_bounds
  · unfold Decimal.maxInt64
    omega
  · exact le_max

/-- So has the difference of two balances. -/
theorem Store.IsBalance.isInt64_sub {m n : Int} (first : IsBalance m) (second : IsBalance n) :
    Decimal.isInt64 (m - n) = true := by
  obtain ⟨nonneg, le_max⟩ := first
  obtain ⟨nonneg', le_max'⟩ := second
  apply Decimal.isInt64_of_bounds
  · omega
  · omega

/-- A number that is given out, as long as fewer than this many were, has 64 bits. -/
theorem Decimal.isInt64_of_lt {n : Int} (positive : 0 < n) (few : n < 2 ^ 63) :
    isInt64 n = true := by
  apply isInt64_of_bounds
  · unfold maxInt64
    omega
  · unfold maxInt64
    omega

/-- What an entry adds to its account is its amount with either sign, or nothing. -/
theorem EntryKind.isInt64_signed (kind : EntryKind) {amount : Int}
    (balance : Store.IsBalance amount) : Decimal.isInt64 (kind.signed amount) = true := by
  have negated : Decimal.isInt64 (0 - amount) = true :=
    Store.IsBalance.isInt64_sub ⟨Int.le_refl 0, by decide⟩ balance
  rw [Int.zero_sub] at negated
  cases kind with
  | deposit => exact balance.isInt64
  | transferIn => exact balance.isInt64
  | withdraw => exact negated
  | transferOut => exact negated
  | payment => exact negated
  | record => rfl

/-- An amount can be counted. -/
theorem Amount.le_maxInt64 (a : Amount) : a.minor ≤ Decimal.maxInt64 :=
  Int.le_trans a.le_max (by decide)

/-- What an amount is converted to can be counted. -/
theorem Transfer.converted_le {order : Transfer} {rates : Rates} {conversion : Conversion}
    (h : order.convert rates = .ok conversion) : conversion.converted ≤ Decimal.maxInt64 := by
  obtain ⟨found, converts, rest⟩ := bind_eq_ok.1 h
  have counted := (Conversion.countable_of_convert order.amount.isInt64_minor
    (mapError_eq_ok.1 converts)).converted
  unfold Decimal.isInt64 at counted
  rw [Bool.and_eq_true, decide_eq_true_eq, decide_eq_true_eq] at counted
  split at rest
  · cases rest
  · cases rest
    exact counted.2

namespace Order

variable {order : Order} {amounts : Account → Int} {receipt : Receipt} {account : Account}

/-! ## By how much accounts are moved -/

/-- An order moves an account by what can be counted, with either sign. -/
theorem Shifts.bounds {change : Int} (shifts : order.Shifts account change) :
    -Decimal.maxInt64 ≤ change ∧ change ≤ Decimal.maxInt64 := by
  cases order with
  | adjust direction order =>
    obtain ⟨-, rfl⟩ := shifts
    have positive := order.amount.positive
    have small := order.amount.le_maxInt64
    cases direction with
    | deposit =>
      show -Decimal.maxInt64 ≤ order.amount.minor ∧ order.amount.minor ≤ Decimal.maxInt64
      omega
    | withdraw =>
      show -Decimal.maxInt64 ≤ -order.amount.minor ∧ -order.amount.minor ≤ Decimal.maxInt64
      omega
  | move rates order =>
    rcases shifts with ⟨-, rfl⟩ | ⟨-, conversion, converts, rfl⟩
    · have positive := order.amount.positive
      have small := order.amount.le_maxInt64
      omega
    · have positive := Transfer.converted_pos converts
      have small := Transfer.converted_le converts
      omega

/-- What an entry of an order tells can be counted. -/
theorem amount_bounds_of_mem_gists {gist : Gist} (mem : gist ∈ order.gists) :
    0 ≤ gist.amount ∧ gist.amount ≤ Decimal.maxInt64 := by
  cases order with
  | adjust direction order =>
    obtain rfl := List.mem_singleton.1 mem
    exact ⟨Int.le_of_lt order.amount.positive, order.amount.le_maxInt64⟩
  | move rates order =>
    cases converts : order.convert rates with
    | error error => simp [gists, converts] at mem
    | ok conversion =>
      simp only [gists, converts, List.mem_cons, List.not_mem_nil, or_false] at mem
      rcases mem with rfl | rfl | rfl
      · exact ⟨Int.le_of_lt order.amount.positive, order.amount.le_maxInt64⟩
      · exact ⟨Int.le_of_lt (Transfer.converted_pos converts), Transfer.converted_le converts⟩
      · exact ⟨Int.le_refl 0, (by decide : (0 : Int) ≤ Decimal.maxInt64)⟩

/-- The first postings of an order add up to nothing on an account, or to what all of them do: no
account is moved twice. -/
theorem total_of_prefix (straight : order.isCircular = false) {completion : Completion}
    {first : List Posting} (part : first <+: order.postings receipt completion)
    (account : Account) : Posting.total account first = 0 ∨
      Posting.total account first =
        Posting.total account (order.postings receipt completion) := by
  cases order with
  | adjust direction order =>
    rcases List.prefix_cons_iff.1 part with rfl | ⟨rest, rfl, none⟩
    · exact Or.inl rfl
    · rw [List.prefix_nil.1 none]
      exact Or.inr rfl
  | move rates order =>
    cases receipt with
    | adjusted receipt =>
      rw [List.prefix_nil.1 part]
      exact Or.inl rfl
    | moved receipt =>
      have different : order.source ≠ order.target := of_decide_eq_false straight
      have still : (order.recordPosting completion).signed = 0 := rfl
      -- The transfer is cut before its debit, before its credit, before its record, or not at all.
      rcases List.prefix_cons_iff.1 part with rfl | ⟨rest, rfl, credit⟩
      · exact Or.inl rfl
      rcases List.prefix_cons_iff.1 credit with rfl | ⟨rest, rfl, record⟩
      · by_cases here : order.source = account
        · have elsewhere : ¬(order.incomingPosting receipt.conversion.converted).account = account :=
            fun there => different (here.trans there.symm)
          right
          simp [postings, Posting.total_cons, still, elsewhere]
        · left
          simp [Posting.total_cons, Transfer.outgoingPosting, here]
      rcases List.prefix_cons_iff.1 record with rfl | ⟨rest, rfl, none⟩
      · right
        simp [postings, Posting.total_cons, still]
      · rw [List.prefix_nil.1 none]
        exact Or.inr rfl

end Order

/-- Whether a call asks for nothing that cannot be counted: accounts get first balances that can be,
and are moved by what can be, with either sign. -/
def Call.IsCounted : Call → Prop
  | .create _ initial => Store.IsBalance initial
  | .apply _ delta => -Decimal.maxInt64 ≤ delta ∧ delta ≤ Decimal.maxInt64
  | _ => True

/-- An attempt of an order asks for nothing that cannot be counted. -/
theorem Order.calls_isCounted (order : Order) : order.Calls Call.IsCounted where
  begins := trivial
  finds _ := trivial
  locks _ _ := trivial
  creates _ _ := ⟨Int.le_refl 0, by decide⟩
  applies _ _ shifts := shifts.bounds
  appends _ := trivial
  commits := trivial
  gives_up := trivial

/-- Whether a task only asks for what is published. -/
def Task.isReport : Task → Bool
  | .statement _ | .history .. | .reconcile => true
  | _ => false

/-- A task that only asks for what is published makes few calls, all of them for reports. -/
theorem Task.makes_report {task : Task} (report : task.isReport = true) {p : Call → Prop}
    (asks : ∀ c : Call, c.isReport = true → p c) : ∃ n, task.script.Makes p n := by
  have existing (wallet : WalletId) : (Ledger.existing wallet).run.Makes p 1 := by
    refine Operation.makes_bind (m := 1) (n := 0) (Operation.makes_ask (asks _ rfl)) fun found => ?_
    cases found with
    | none => trivial
    | some wallet => trivial
  cases task with
  | statement wallet =>
    refine ⟨1 + 1, Operation.makes_map (Operation.makes_bind (existing wallet) fun found => ?_)⟩
    exact Operation.makes_bind (m := 1) (n := 0) (Operation.makes_ask (asks _ rfl)) fun _ => trivial
  | history wallet limit =>
    exact ⟨1 + 1, Operation.makes_map (Operation.makes_bind (existing wallet)
      fun found => Operation.makes_ask (asks _ rfl))⟩
  | reconcile =>
    refine ⟨1 + 1, Operation.makes_map (Operation.makes_bind (Operation.makes_ask (asks _ rfl))
      fun holdings => ?_)⟩
    exact Operation.makes_bind (m := 1) (n := 0) (Operation.makes_ask (asks _ rfl)) fun _ => trivial
  | _ => cases report

/-- No task asks for anything that cannot be counted. -/
theorem Task.makes_script (task : Task) : ∃ n, task.script.Makes Call.IsCounted n := by
  have reports (c : Call) (report : c.isReport = true) : c.IsCounted := by
    cases c <;> trivial
  cases task with
  | createWallet user name =>
    refine ⟨1, ?_⟩
    rw [Task.script, Task.operation, Ledger.createWallet]
    -- How a name is chosen does not matter here, and must not be computed.
    generalize Ledger.walletName name = chosen
    exact Operation.makes_map (Operation.makes_ofExcept_bind fun chosen _ =>
      Operation.makes_ask trivial)
  | carryOut order policy context fresh =>
    exact ⟨_, Operation.makes_map (order.calls_isCounted.makes_run policy _)⟩
  | statement wallet => exact makes_report rfl reports
  | history wallet limit => exact makes_report rfl reports
  | reconcile => exact makes_report rfl reports

/-- What the first entries add up to on an account, however many they are. -/
def Store.Tallied (s : Store) : Prop :=
  ∀ first, first <+: s.entries → ∀ account, Store.IsBalance (Entry.total account first)

/-- Wallets are numbered from one on. -/
structure Store.Enumerated (s : Store) : Prop where
  /-- The next number is the one after the last. -/
  next : s.nextWallet = s.wallets.length + 1
  /-- The numbers before it were given out. -/
  given : ∀ wallet ∈ s.wallets, 0 < wallet.id.value ∧ wallet.id.value < s.nextWallet

namespace World

variable {w w' : World} {a : Action} {t : TransactionId} {shows : Instant → Prop}
  {actions : List Action} {task : Task} {trail : Trail} {c : Call}
  {next : Except StoreError c.Answer → Script (Except LedgerError Reply)}

/-! ## What tasks are about to publish -/

/-- A task under way asks for nothing that cannot be counted. -/
theorem counted_of_running
    (running : (run actions).running.get? t = some ⟨task, trail, .call c next⟩) :
    c.IsCounted := by
  obtain ⟨n, makes⟩ := task.makes_script
  have few : ({} : Trail).calls.length + n ≤ n := Nat.le_of_eq (Nat.zero_add n)
  have keeps : (run actions).Keeps (fun _ => True) t task
      (fun trail c _ => c.IsCounted ∧ trail.calls.length < n) fun _ _ _ => True :=
    keeps_of_running (fun s _ => makes.ensures few) (fun _ _ _ _ => trivial) running
  obtain ⟨_, _, eq, ensures⟩ := keeps.running_eq running
  cases eq
  exact (ensures _ (.refl (sane_run actions).sound)).1.1

/-- An action keeps drafts within bounds, if tasks ask for nothing that cannot be counted. -/
theorem Moves.ranged (moves : w.Moves a w') (ranged : w.store.Ranged) (sound : w.store.Sound)
    (counted : ∀ {t task trail c next},
      w.running.get? t = some ⟨task, trail, .call c next⟩ → c.IsCounted) : w'.store.Ranged := by
  cases moves with
  | idle => exact ranged
  | launch task now =>
    rw [store_resume]
    exact ranged
  | answer running step =>
    rw [store_resume]
    apply ranged.step sound step
    rintro account initial rfl
    exact counted running
  | expire running locks missing =>
    rw [store_resume]
    exact ranged
  | abandon t => exact ranged.drop t

/-- In every world that can be reached drafts are within bounds. -/
theorem ranged_run (actions : List Action) : (run actions).store.Ranged := by
  induction actions using List.reverseRecOn with
  | nil => exact .empty
  | append_singleton actions a ih =>
    rw [run_append_singleton]
    exact (moves_act _ a).ranged ih (sane_run actions).sound counted_of_running

/-- What an account holds for a transaction can be counted. -/
theorem isBalance_of_current? {account : Account} {available : Int}
    (current : (run actions).store.current? t account = some available) :
    Store.IsBalance available := by
  unfold Store.current? at current
  rw [Option.or_eq_some_iff] at current
  rcases current with staged | ⟨-, published⟩
  · exact (ranged_run actions).staged staged
  · obtain ⟨nonneg, le_max, -⟩ := (balanced_run actions).counted account available published
    exact ⟨nonneg, le_max⟩

/-! ## What is published -/

/-- Whatever an action publishes, the sums of the first entries can be counted. -/
theorem Publishes.tallied (publishes : w.Publishes shows w') (balanced : w.store.Balanced)
    (tallied : w.store.Tallied) : w'.store.Tallied := by
  have after := publishes.balanced balanced
  cases publishes with
  | nothing books published =>
    have entries : w'.store.entries = w.store.entries := congrArg Store.Books.entries books
    unfold Store.Tallied
    rw [entries]
    exact tallied
  | wallet t user name chosen now trail named vacant store published finished =>
    rw [store]
    exact tallied
  | order t order policy context fresh receipt trail straight missed ready free vacant store
      published finished =>
    obtain ⟨recorded, -, drafted⟩ := ready.drafted
    have entries : w'.store.entries = w.store.entries ++ (w.store.transaction t).entries := by
      rw [store]
      rfl
    intro first part account
    rw [entries] at part
    rcases List.prefix_or_prefix_of_prefix part (List.prefix_append _ _) with old | ⟨own, rfl⟩
    · exact tallied first old account
    · -- The first entries of the order add nothing, or all that the order adds.
      have block : own.map (·.toPosting) <+: order.postings receipt
          (order.completion receipt (context.ensureCorrelation fresh) recorded) := by
        rw [← drafted.posted]
        exact ((List.prefix_append_right_inj _).1 part).map _
      have before := balanced.amount_bounds account
      have later := after.amount_bounds account
      rw [after.amount_eq, Store.entered_eq_total, entries, List.map_append, Posting.total_append,
        drafted.posted, ← Store.entered_eq_total, ← balanced.amount_eq] at later
      rw [Entry.total_eq, List.map_append, Posting.total_append, ← Store.entered_eq_total,
        ← balanced.amount_eq]
      rcases Order.total_of_prefix straight block account with none | all
      · rw [none, Int.add_zero]
        exact before
      · rw [all]
        exact later

/-- Whatever an action publishes, wallets are numbered one after another. -/
theorem Publishes.enumerated (publishes : w.Publishes shows w')
    (enumerated : w.store.Enumerated) : w'.store.Enumerated := by
  cases publishes with
  | nothing books published =>
    have wallets : w'.store.wallets = w.store.wallets := congrArg Store.Books.wallets books
    have next : w'.store.nextWallet = w.store.nextWallet := congrArg Store.Books.nextWallet books
    constructor
    · rw [next, wallets]
      exact enumerated.next
    · rw [next, wallets]
      exact enumerated.given
  | wallet t user name chosen now trail named vacant store published finished =>
    rw [store]
    have following := enumerated.next
    constructor
    · simp only [Store.createWallet, List.length_append, List.length_singleton]
      omega
    · intro wallet mem
      simp only [Store.createWallet, List.mem_append, List.mem_singleton] at mem ⊢
      rcases mem with old | rfl
      · have given := enumerated.given wallet old
        omega
      · show 0 < w.store.nextWallet ∧ w.store.nextWallet < w.store.nextWallet + 1
        omega
  | order t order policy context fresh receipt trail straight missed ready free vacant store
      published finished =>
    rw [store]
    exact ⟨enumerated.next, enumerated.given⟩

/-- In every world that can be reached the sums of the first entries can be counted, and wallets are
numbered one after another. -/
theorem tallied_run (actions : List Action) :
    (run actions).store.Tallied ∧ (run actions).store.Enumerated := by
  induction actions using List.reverseRecOn with
  | nil =>
    refine ⟨fun first part account => ?_, rfl, nofun⟩
    rw [List.prefix_nil.1 part]
    exact ⟨Int.le_refl 0, (by decide : (0 : Int) ≤ Decimal.maxInt64)⟩
  | append_singleton actions a ih =>
    have publishes : (run actions).Publishes (fun _ => True) (run (actions ++ [a])) :=
      publishes_run fun _ _ _ _ => trivial
    exact ⟨publishes.tallied (balanced_run actions) ih.1, publishes.enumerated ih.2⟩

/-- A published entry tells an amount that can be counted. -/
theorem amount_bounds_of_mem_entries {entry : Entry} (mem : entry ∈ (run actions).store.entries) :
    0 ≤ entry.amount ∧ entry.amount ≤ Decimal.maxInt64 := by
  have told : entry.gist ∈ (run actions).orders.flatMap Order.gists := by
    rw [← (summary_run actions).gists]
    exact List.mem_map_of_mem (f := fun e : Entry => e.gist) mem
  obtain ⟨order, -, own⟩ := List.mem_flatMap.1 told
  exact Order.amount_bounds_of_mem_gists own

/-! ## What is computed -/

/-- No sum and no sign leads beyond 64 bits. -/
structure Computable (w : World) : Prop where
  /-- The negation of an amount. -/
  negated : ∀ amount : Amount, Decimal.isInt64 (-amount.minor) = true
  /-- The sum of a balance and an amount that is to be credited, unless it is refused. -/
  credited : ∀ (balance : Balance) (amount : Amount),
    Decimal.isInt64 (balance.minor + amount.minor) = true ∨ balance.credit amount = .error .overflow
  /-- The change that a task asks for, its negation, and the sum of what the account holds and the
  change, unless it is refused. -/
  applied : ∀ {t task trail account delta next},
    w.running.get? t = some ⟨task, trail, .call (.apply account delta) next⟩ →
      Decimal.isInt64 delta = true ∧ Decimal.isInt64 (-delta) = true ∧
      (account ∈ (w.store.transaction t).held → ∀ available,
        w.store.current? t account = some available → Decimal.isInt64 available = true ∧
          (Decimal.isInt64 (available + delta) = true ∨
            w.store.apply t account delta = (w.store, .error (.overflow account))))
  /-- What an entry tells and what it adds to its account. -/
  signed : ∀ entry ∈ w.store.entries,
    Decimal.isInt64 entry.amount = true ∧ Decimal.isInt64 entry.signed = true
  /-- What is added up by the first entries, on the way to the totals. -/
  summed : ∀ first, first <+: w.store.entries →
    ∀ row ∈ (first.foldl Store.addToTotal .empty).rows, Decimal.isInt64 row.2 = true
  /-- The numbers of a discrepancy that a reconciliation reports, and their difference. -/
  differs : ∀ {t trail report},
    w.finished.get? t = some ⟨.reconcile, trail, .ok (.report report)⟩ →
      ∀ d ∈ report.discrepancies, Decimal.isInt64 d.balance = true ∧
        Decimal.isInt64 d.total = true ∧ Decimal.isInt64 d.difference = true
  /-- The number of a wallet. -/
  wallets : ∀ wallet ∈ w.store.wallets, Decimal.isInt64 wallet.id.value = true
  /-- The number of an entry, published or not. -/
  entries : ∀ entry, (entry ∈ w.store.entries ∨ ∃ t, entry ∈ (w.store.transaction t).entries) →
    Decimal.isInt64 entry.id = true

/-- A sum that has no 64 bits is refused, and the account is not moved. -/
theorem apply_of_overflow {s : Store} {account : Account} {available delta : Int}
    (held : account ∈ (s.transaction t).held) (current : s.current? t account = some available)
    (large : ¬Decimal.isInt64 (available + delta) = true) :
    s.apply t account delta = (s, .error (.overflow account)) := by
  rw [Store.apply_of_mem_held delta held current, Store.moved]
  simp [large]

/-- The balance and the total of a reported discrepancy are not negative and can be counted: each is
what the first entries add up to, at one of two moments. -/
theorem isBalance_of_mem_discrepancies {report : Audit.Report}
    (finished : (run actions).finished.get? t =
      some ⟨.reconcile, trail, .ok (.report report)⟩)
    {d : Audit.Discrepancy} (mem : d ∈ report.discrepancies) :
    Store.IsBalance d.balance ∧ Store.IsBalance d.total := by
  obtain ⟨first, second, now, now', before, -, same⟩ := (audited_run actions).finished finished
  obtain ⟨new, entries⟩ := (prefix_run ((List.prefix_append first _).trans before)).2
  cases same
  obtain ⟨balance, total, -⟩ := (mem_discrepancies (balanced_run first) entries.symm).1 mem
  have earlier := (balanced_run first).amount_bounds d.account
  have later := (balanced_run second).amount_bounds d.account
  have sum : d.total = (run second).store.amount d.account := by
    rw [total, balance, (balanced_run first).amount_eq, (balanced_run second).amount_eq]
    show Entry.total d.account (run first).store.entries + Entry.total d.account new =
      Entry.total d.account (run second).store.entries
    rw [← entries, Entry.total_append]
  rw [balance, sum]
  exact ⟨earlier, later⟩

/-- Whatever tasks are under way, have waited in vain, were repeated or were given up, and by
whatever rates they convert: as long as fewer than `2 ^ 63` wallets were made and fewer than
`2 ^ 63` entries were written, no sum and no sign that is computed leads beyond 64 bits. -/
theorem computable_run (actions : List Action)
    (wallets : (run actions).store.wallets.length < 2 ^ 63)
    (entries : (run actions).store.nextEntry - 1 < 2 ^ 63) : (run actions).Computable where
  negated amount := by
    have positive := amount.positive
    have small := amount.le_maxInt64
    apply Decimal.isInt64_of_bounds
    · omega
    · omega
  credited balance amount := by
    by_cases small : Decimal.isInt64 (balance.minor + amount.minor) = true
    · exact Or.inl small
    · right
      rw [Balance.credit, if_neg small]
  applied := by
    intro t task trail account delta next running
    obtain ⟨low, high⟩ := counted_of_running running
    refine ⟨Decimal.isInt64_of_bounds low high, Decimal.isInt64_of_bounds (by omega) (by omega),
      fun held available current => ⟨(isBalance_of_current? current).isInt64, ?_⟩⟩
    by_cases small : Decimal.isInt64 (available + delta) = true
    · exact Or.inl small
    · exact Or.inr (apply_of_overflow held current small)
  signed entry mem :=
    have counted : Store.IsBalance entry.amount := amount_bounds_of_mem_entries mem
    ⟨counted.isInt64, entry.kind.isInt64_signed counted⟩
  summed := by
    rintro first part ⟨account, total⟩ mem
    -- What the first entries add up to is what the account held after the last of them.
    have sum := Store.get?_foldl_addToTotal first .empty account
    rw [Table.mem_rows_iff.1 mem, Option.getD_some] at sum
    have tallied := (tallied_run actions).1 first part account
    apply Store.IsBalance.isInt64
    simpa [sum] using tallied
  differs := by
    intro t trail report finished d mem
    obtain ⟨balance, total⟩ := isBalance_of_mem_discrepancies finished mem
    exact ⟨balance.isInt64, total.isInt64, balance.isInt64_sub total⟩
  wallets wallet mem := by
    obtain ⟨next, given⟩ := (tallied_run actions).2
    have bounds := given wallet mem
    exact Decimal.isInt64_of_lt (by omega) (by omega)
  entries entry there := by
    have ranged := ranged_run actions
    have bounds : 0 < entry.id ∧ entry.id < (run actions).store.nextEntry := by
      rcases there with published | ⟨t, own⟩
      · exact ranged.written entry published
      · exact ranged.drafted entry own
    exact Decimal.isInt64_of_lt (by omega) (by omega)

/-- In the run whose reconciliation is overtaken by a deposit, the difference that is reported, and
everything else, has 64 bits. -/
theorem computable_audited :
    (run Sample.audited).store.wallets.length < 2 ^ 63 ∧
    (run Sample.audited).store.nextEntry - 1 < 2 ^ 63 ∧ (run Sample.audited).Computable := by
  have wallets : (run Sample.audited).store.wallets.length < 2 ^ 63 := by decide +kernel
  have entries : (run Sample.audited).store.nextEntry - 1 < 2 ^ 63 := by decide +kernel
  exact ⟨wallets, entries, computable_run Sample.audited wallets entries⟩

end World

end CurrencyLedger
