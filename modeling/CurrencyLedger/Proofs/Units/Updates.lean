import CurrencyLedger.Proofs.Store.Apart
import CurrencyLedger.Proofs.Units.Accounts

/-! # No update is lost

* **`Store.Solvent`**, **`Units.solvent_run`** — no amount is negative, whatever happens;
* **`Units.foldl_restage`** — what a unit of work has collected may be replaced by anything else:
  others are answered alike, and leave alike what they leave;
* **`Units.Published`** — what becomes of an account when a unit of work is published;
* **`Units.no_lost_update`** — no account is held twice, nothing is seen before it is published, and
  what is published is what was there with all the changes of the unit of work. -/

namespace CurrencyLedger

namespace Store

variable {s s' : Store} {t u : TransactionId}

/-- A call that publishes nothing leaves the balances and the entries as they were. -/
theorem Change.published (change : Change t s s') :
    s'.balances = s.balances ∧ s'.entries = s.entries := by
  cases change <;> exact ⟨rfl, rfl⟩

/-- No amount is negative that is published or collected. -/
structure Solvent (s : Store) : Prop where
  /-- No published amount is negative. -/
  published : ∀ {account amount}, s.balances.get? account = some amount → 0 ≤ amount
  /-- No amount is negative that a transaction is about to publish. -/
  collected : ∀ {t account amount}, (s.transaction t).staged.get? account = some amount →
    0 ≤ amount

/-- In the store in which nothing has happened there are no amounts. -/
theorem Solvent.empty : Solvent {} := by
  constructor <;> simp [transaction]

/-- No amount is negative after transactions have begun or ended. -/
theorem Solvent.of_transactions (solvent : s.Solvent) (balances : s'.balances = s.balances)
    (transactions : ∀ t, s'.transaction t = {} ∨ s'.transaction t = s.transaction t) :
    s'.Solvent where
  published h := solvent.published (balances ▸ h)
  collected := by
    intro t account amount h
    rcases transactions t with same | same
    · rw [same] at h
      cases h
    · rw [same] at h
      exact solvent.collected h

/-- What is published after a transaction is not negative either. -/
theorem Solvent.get?_publish (solvent : s.Solvent) {account : Account} {amount : Int}
    (h : (s.publish t).balances.get? account = some amount) : 0 ≤ amount := by
  rw [get?_balances_publish, Option.or_eq_some_iff] at h
  rcases h with h | ⟨-, h⟩
  · exact solvent.collected h
  · exact solvent.published h

end Store

namespace Units

variable {w w' : Units} {s s' : Store} {t u : TransactionId}

/-! ## No amount is negative -/

/-- What a call of a transaction collects is not negative. -/
theorem Collects.nonneg {deed : Deed} (collects : Collects t s s' deed) (solvent : s.Solvent)
    (counted : ∀ account initial, deed.call = .create account initial → 0 ≤ initial)
    {account : Account} {amount : Int}
    (staged : (s'.transaction t).staged.get? account = some amount) : 0 ≤ amount := by
  cases collects with
  | nothing _ same =>
    rw [same] at staged
    exact solvent.collected staged
  | move here available delta _ _ nonneg same =>
    rw [same, Table.get?_insert] at staged
    split at staged
    · exact Option.some.inj staged ▸ nonneg
    · exact solvent.collected staged
  | make here initial _ _ call same =>
    rw [same, Table.get?_insert] at staged
    split at staged
    · exact Option.some.inj staged ▸ counted here initial call
    · exact solvent.collected staged
  | ended gone =>
    rw [Store.transaction_eq_of_gone gone] at staged
    cases staged

/-- No amount is negative after a call of a transaction. -/
theorem solvent_step (sound : s.Sound) (solvent : s.Solvent) {now : Instant} {c : Call}
    {answer : Except StoreError c.Answer} (own : c.isOwn = true)
    (counted : ∀ account initial, c = .create account initial → 0 ≤ initial)
    (step : s.step t now c = .answered s' answer) : s'.Solvent where
  published := by
    intro account amount h
    rcases sound.step_cases step with change | ⟨-, committed⟩
    · rw [change.published.1] at h
      exact solvent.published h
    · rcases Store.commit_cases s t with ⟨_, -, -, failed⟩ | ⟨-, published⟩
      · simp [committed] at failed
      · rw [committed] at published
        cases published
        exact solvent.get?_publish h
  collected := by
    intro u account amount h
    by_cases same : u = t
    · subst same
      exact (collects_of_step own step).nonneg solvent counted h
    · rw [(sound.others_step same step).transaction] at h
      exact solvent.collected h

/-- No amount is negative after a move, if accounts are not given negative amounts. -/
theorem solvent_acts (accounted : w.Accounted) (solvent : w.store.Solvent) {move : Move}
    (counted : ∀ t account initial now, move = .ask t (.create account initial) now →
      0 ≤ initial) (acts : w.Acts move w') : w'.store.Solvent := by
  cases acts with
  | idle => exact solvent
  | begin =>
    refine solvent.of_transactions rfl fun t => ?_
    by_cases same : t = w.next
    · exact Or.inl (same ▸ Store.transaction_update_self _ _ _)
    · exact Or.inr (Store.transaction_update_of_ne _ _ same)
  | @ask t c now store answer live own step =>
    exact solvent_step accounted.sound solvent own
      (fun account initial same => counted t account initial now (same ▸ rfl)) step
  | expire => exact solvent
  | drop t =>
    refine solvent.of_transactions rfl fun u => ?_
    by_cases same : u = t
    · exact Or.inl (same ▸ Store.transaction_drop_self _ _)
    · exact Or.inr (Store.transaction_drop_of_ne _ same)
  | request common step =>
    obtain ⟨live, balances, -⟩ := eq_of_isCommon common step
    exact solvent.of_transactions balances fun u =>
      Or.inr (Store.transaction_eq_of_get?_eq (congrArg (·.get? u) live))

/-- No amount is negative, whatever calls are made in whatever order, if accounts are not given
negative amounts. -/
theorem solvent_run {moves : List Move} (counted : ∀ t account initial now,
    Move.ask t (.create account initial) now ∈ moves → 0 ≤ initial) :
    (run moves).store.Solvent := by
  induction moves using List.reverseRecOn with
  | nil => exact .empty
  | append_singleton moves move ih =>
    rw [run, List.foldl_append]
    refine solvent_acts (accounted_run moves)
      (ih fun t account initial now mem =>
        counted t account initial now (List.mem_append_left _ mem))
      (fun t account initial now same => counted t account initial now ?_) (acts_act _ move)
    exact same ▸ List.mem_append_right _ (List.mem_singleton_self _)

/-! ## What others do not see -/

/-- The units of work, with another state of one of them. -/
def update (w : Units) (t : TransactionId) (x : Transaction) : Units :=
  { w with store := w.store.update t x }

/-- The units of work, with other balances and entries collected by one of them. -/
def restage (w : Units) (t : TransactionId) (staged : Table Account Int) (entries : List Entry) :
    Units :=
  w.update t { w.store.transaction t with staged := staged, entries := entries }

/-- What others do is no concern of a unit of work that is under way. -/
theorem Accounted.others_acts (accounted : w.Accounted) (live : w.isLive t = true) {move : Move}
    (other : move.unit? ≠ some t) (acts : w.Acts move w') : Store.Others t w.store w'.store := by
  have sound := accounted.sound
  have old : t ≠ w.next := Nat.ne_of_lt (accounted.given live)
  cases acts with
  | idle => exact .refl sound
  | begin => exact sound.others_step old (w.store.step_begin w.next)
  | ask _ _ step => exact sound.others_step (fun same => other (congrArg some same.symm)) step
  | expire => exact .refl sound
  | drop u => exact sound.others_drop fun same => other (congrArg some same.symm)
  | request _ step => exact sound.others_step old step

/-- A move of another unit of work does the same and leaves a unit of work as it is, whatever that
one has collected. -/
theorem act_update {x : Transaction} (given : t < w.next)
    (held : x.held = (w.store.transaction t).held) {move : Move} (other : move.unit? ≠ some t) :
    (w.update t x).act move = (w.act move).update t x := by
  have isLive {u : TransactionId} (different : u ≠ t) : (w.update t x).isLive u = w.isLive u := by
    rw [Units.isLive, Units.isLive, show (w.update t x).store.live.get? u = w.store.live.get? u from
      Table.get?_insert_of_ne _ _ different]
  cases move with
  | begin =>
    exact congrArg (fun store => ({ w with store := store, next := w.next + 1 } : Units))
      (Store.update_comm w.store x {} (Nat.ne_of_gt given))
  | ask u c now =>
    have different : u ≠ t := fun same => other (congrArg some same)
    rw [act, act, isLive different,
      show (w.update t x).store.step u now c = (w.store.step u now c).onStore (·.update t x) from
        Store.step_update different held now c]
    split
    case isFalse => rfl
    case isTrue => cases w.store.step u now c <;> rfl
  | expire u c =>
    have different : u ≠ t := fun same => other (congrArg some same)
    rw [act, act, isLive different]
    split
    case h_2 => rfl
    case h_1 => split <;> rfl
  | drop u =>
    have different : u ≠ t := fun same => other (congrArg some same)
    exact congrArg (fun store => ({ w with store := store } : Units))
      (Store.drop_update w.store x different)
  | request c now =>
    rw [act, act,
      show (w.update t x).store.step (w.update t x).next now c =
          (w.store.step w.next now c).onStore (·.update t x) from
        Store.step_update (Nat.ne_of_gt given) held now c]
    split
    case isFalse => rfl
    case isTrue => cases w.store.step w.next now c <;> rfl

/-- Others do the same, and leave a unit of work as it is, whatever that one has collected: they are
answered alike, and publish alike. -/
theorem foldl_restage (accounted : w.Accounted) (live : w.isLive t = true)
    (staged : Table Account Int) (entries : List Entry) {moves : List Move}
    (others : ∀ move ∈ moves, move.unit? ≠ some t) :
    moves.foldl act (w.restage t staged entries) =
      (moves.foldl act w).restage t staged entries := by
  induction moves generalizing w with
  | nil => rfl
  | cons move moves ih =>
    have other := others move List.mem_cons_self
    have apart := accounted.others_acts live other (acts_act w move)
    have same : (w.restage t staged entries).act move = (w.act move).restage t staged entries := by
      rw [restage, restage, apart.transaction]
      exact act_update (x := { w.store.transaction t with staged := staged, entries := entries })
        (accounted.given live) rfl other
    rw [List.foldl_cons, List.foldl_cons, same]
    refine ih (accounted.acts (acts_act w move)) ?_ fun move mem => others move (List.mem_cons_of_mem _ mem)
    rwa [isLive_of_others apart]

/-! ## What is published -/

/-- Balances and entries are published by nothing but a commit. -/
theorem Accounted.published_acts (accounted : w.Accounted) {move : Move} (acts : w.Acts move w') :
    (w'.store.balances = w.store.balances ∧ w'.store.entries = w.store.entries) ∨
    ∃ t now, move = .ask t .commit now ∧ w.isLive t = true ∧ (w.store.commit t).2 = .ok () := by
  cases acts with
  | idle => exact Or.inl ⟨rfl, rfl⟩
  | begin => exact Or.inl ⟨rfl, rfl⟩
  | @ask t c now store answer live own step =>
    rcases accounted.sound.step_cases step with change | ⟨rfl, committed⟩
    · exact Or.inl change.published
    · exact Or.inr ⟨t, now, rfl, live, congrArg Prod.snd committed⟩
  | expire => exact Or.inl ⟨rfl, rfl⟩
  | drop => exact Or.inl ⟨rfl, rfl⟩
  | request common step => exact Or.inl (eq_of_isCommon common step).2

/-- What becomes of an account when a unit of work is published. -/
inductive Published (w w' : Units) (t : TransactionId) (account : Account) : Prop
  /-- The unit has neither made nor moved its balance, which stays as it is. -/
  | untouched (staged : w.staged? t account = none) (initials : w.initials t account = [])
    (deltas : w.deltas t account = [])
    (same : w'.store.balances.get? account = w.store.balances.get? account)
  /-- The unit has moved its published balance, which changes by the sum of all the deltas. -/
  | moved (published : Int) (staged : (w.staged? t account).isSome = true)
    (initials : w.initials t account = [])
    (before : w.store.balances.get? account = some published)
    (after : w'.store.balances.get? account = some (published + (w.deltas t account).sum))
  /-- The unit has made its balance, which is what it was given and the sum of all the deltas. -/
  | made (initial : Int) (staged : (w.staged? t account).isSome = true)
    (initials : w.initials t account = [initial])
    (before : w.store.balances.get? account = none)
    (after : w'.store.balances.get? account = some (initial + (w.deltas t account).sum))

/-- What a unit of work publishes for an account is what the account's course says. -/
theorem Accounted.published_of_commit (accounted : w.Accounted) (now : Instant)
    (live : w.isLive t = true) (committed : (w.store.commit t).2 = .ok ()) (account : Account) :
    Published w (w.act (.ask t .commit now)) t account := by
  have balances : (w.act (.ask t .commit now)).store.balances.get? account =
      (w.staged? t account).or (w.store.balances.get? account) := by
    rw [Units.act, live, show Call.isOwn .commit = true from rfl]
    show (w.store.commit t).1.balances.get? account = _
    rcases Store.commit_cases w.store t with ⟨_, -, -, failed⟩ | ⟨-, published⟩
    · rw [failed] at committed
      cases committed
    · rw [published]
      exact Store.get?_balances_publish _ _ _
  generalize after : (w.act (.ask t .commit now)).store.balances.get? account = amount at balances
  have course := accounted.course live account
  generalize before : w.store.balances.get? account = published at course balances
  generalize initials : w.initials t account = given at course
  generalize deltas : w.deltas t account = changes at course
  generalize staged : w.staged? t account = last at course balances
  cases course with
  | untouched =>
    exact .untouched staged initials deltas (by rw [after, balances, before, Option.none_or])
  | moved amount changed =>
    refine .moved amount (by rw [staged]; rfl) initials before ?_
    rw [after, balances, deltas, Option.some_or]
  | made initial =>
    refine .made initial (by rw [staged]; rfl) initials before ?_
    rw [after, balances, deltas, Option.some_or]

/-- Whatever calls any number of units of work make, in whatever order, no account is held by two
of them; what one has collected may be replaced by anything else, and all calls of the others and
all reports are answered as before; balances and entries are published by nothing but a commit; what
a commit publishes for an account is what was published of it, or what the unit of work has given it
to begin with, and the sum of all the deltas of the unit of work, and no other account changes; and
no published amount is negative, if accounts are not given negative amounts. -/
theorem no_lost_update (moves : List Move) (counted : ∀ t account initial now,
    Move.ask t (.create account initial) now ∈ moves → 0 ≤ initial) :
    let w := run moves
    (∀ t u account, account ∈ (w.store.transaction t).held →
      account ∈ (w.store.transaction u).held → t = u) ∧
    (∀ t staged entries, ∀ others : List Move, w.isLive t = true →
      (∀ move ∈ others, move.unit? ≠ some t) →
      others.foldl act (w.restage t staged entries) =
        (others.foldl act w).restage t staged entries) ∧
    (∀ move, (w.act move).store.balances = w.store.balances ∧
        (w.act move).store.entries = w.store.entries ∨
      ∃ t now, move = .ask t .commit now ∧ w.isLive t = true ∧ (w.store.commit t).2 = .ok ()) ∧
    (∀ t now account, w.isLive t = true → (w.store.commit t).2 = .ok () →
      Published w (w.act (.ask t .commit now)) t account) ∧
    ∀ account amount, w.store.balances.get? account = some amount → 0 ≤ amount := by
  intro w
  have accounted := accounted_run moves
  refine ⟨fun t u account => accounted.sound.exclusive, ?_,
    fun move => accounted.published_acts (acts_act _ move), ?_, ?_⟩
  · intro t staged entries others live apart
    exact foldl_restage accounted live staged entries apart
  · intro t now account live committed
    exact accounted.published_of_commit now live committed account
  · intro account amount published
    exact (solvent_run counted).published published

namespace Sample

/-- The francs of the first wallet. -/
def account : Account := ⟨⟨1⟩, ⟨"CHF", by decide⟩⟩

/-- A unit of work gives an account a hundred and takes thirty; then two others want it, of which
one waits in vain, and the other one adds fifty, fails to take five hundred, and takes twenty. -/
def contended : List Move :=
  [.request (.createWallet ⟨1⟩ "main") (.ofMillis 0), .begin,
    .ask 0 (.create account 100) (.ofMillis 1), .ask 0 (.apply account (-30)) (.ofMillis 2),
    .ask 0 .commit (.ofMillis 3), .begin, .begin, .ask 1 (.lock account) (.ofMillis 4),
    .ask 2 (.lock account) (.ofMillis 5),
    .ask 1 (.apply account 50) (.ofMillis 6), .expire 2 (.lock account),
    .ask 1 (.apply account (-500)) (.ofMillis 7), .ask 1 (.apply account (-20)) (.ofMillis 8)]

end Sample

/-- Seventy were there, and fifty less twenty are added. -/
theorem no_lost_update_contended :
    (∀ t account initial now, Move.ask t (.create account initial) now ∈ Sample.contended →
      0 ≤ initial) ∧
    (run Sample.contended).store.balances.get? Sample.account = some 70 ∧
    (run Sample.contended).deltas 1 Sample.account = [50, -20] ∧
    ((run Sample.contended).act (.ask 1 .commit (.ofMillis 9))).store.balances.get?
      Sample.account = some 100 := by
  have counted : ∀ t account initial now,
      Move.ask t (.create account initial) now ∈ Sample.contended → 0 ≤ initial := by
    intro t account initial now mem
    simp only [Sample.contended, List.mem_cons, Move.ask.injEq, Call.create.injEq, reduceCtorEq,
      List.not_mem_nil, false_and, and_false, or_false, false_or] at mem
    omega
  obtain ⟨-, -, -, published, -⟩ := no_lost_update Sample.contended counted
  have before : (run Sample.contended).store.balances.get? Sample.account = some 70 := by
    decide +kernel
  have deltas : (run Sample.contended).deltas 1 Sample.account = [50, -20] := by decide +kernel
  refine ⟨counted, before, deltas, ?_⟩
  cases published 1 (.ofMillis 9) Sample.account (by decide +kernel) (by decide +kernel) with
  | untouched _ _ none =>
    rw [deltas] at none
    cases none
  | moved amount _ _ was after =>
    rw [before] at was
    rw [after, deltas, ← Option.some.inj was]
    rfl
  | made _ _ _ was _ =>
    rw [before] at was
    cases was

end Units

end CurrencyLedger
