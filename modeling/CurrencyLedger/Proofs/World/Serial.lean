import CurrencyLedger.Proofs.World.Alone
import Mathlib.Data.List.Forall2

/-! # Tasks in the order of publication

Carrying out again, one after another, only the tasks that have published something, in the order in
which they did, leads to the same books. Only what is made up anew may differ: the numbers of
entries, times, and the identifiers of tasks that came without one.

* **`Task.Repeats`** — whether a task asks for the same as another;
* **`Store.Retells`** — whether books tell the same as others;
* **`World.Retold.of_publishes`** — repeating what an action publishes leads to the same books;
* **`World.serve_published`** — so does repeating all that was published. -/

namespace CurrencyLedger

/-! ## The same but for what is made up -/

/-- Whether a task asks for the same as another. An order may be attempted more or less often, and
the identifier that is made up for it may be another one. -/
inductive Task.Repeats : Task → Task → Prop where
  /-- It is the same. -/
  | same (task : Task) : Repeats task task
  /-- It carries out the same order. -/
  | carryOut (order : Order) (context : Context) (policy policy' : Retry.Policy)
      (fresh fresh' : Uuid) :
      Repeats (.carryOut order policy' context fresh') (.carryOut order policy context fresh)

/-- Whether an identifier was made up for a task that came without one. -/
def Task.Coins : Task → Uuid → Prop
  | .carryOut _ _ context fresh, id => context.correlation = none ∧ id = fresh
  | _, _ => False

variable {coined : Uuid → Prop}

/-- Whether a context is another one but for a made up identifier. -/
def Context.Retells (coined : Uuid → Prop) (a b : Context) : Prop :=
  a.user = b.user ∧ (a.correlation = b.correlation ∨
    ∃ x y, a.correlation = some x ∧ b.correlation = some y ∧ coined x ∧ coined y)

/-- Whether a completion is another one but for its time and a made up identifier. -/
structure Completion.Retells (coined : Uuid → Prop) (a b : Completion) : Prop where
  /-- It is one of the same kind. -/
  kind : a.kind = b.kind
  /-- Its request is the same. -/
  fingerprint : a.fingerprint = b.fingerprint
  /-- Its outcome is the same. -/
  outcome : a.outcome = b.outcome
  /-- Its context is the same. -/
  context : a.context.Retells coined b.context

/-- Whether metadata are others but for what is made up in a completion. -/
inductive Posting.MetadataRetells (coined : Uuid → Prop) : Option Json → Option Json → Prop where
  /-- They are the same. -/
  | same (metadata : Option Json) : MetadataRetells coined metadata metadata
  /-- They keep completions. -/
  | completion (a b : Completion) (retells : a.Retells coined b) :
      MetadataRetells coined (some a.toMetadata) (some b.toMetadata)

/-- Whether a posting is another one but for what is made up. -/
structure Posting.Retells (coined : Uuid → Prop) (a b : Posting) : Prop where
  /-- The account is the same. -/
  account : a.account = b.account
  /-- The kind is the same. -/
  kind : a.kind = b.kind
  /-- The amount is the same. -/
  amount : a.amount = b.amount
  /-- The reference is the same. -/
  reference : a.reference = b.reference
  /-- The metadata are the same but for what is made up. -/
  metadata : MetadataRetells coined a.metadata b.metadata

/-- Whether a wallet is another one but for its time. -/
structure Wallet.Retells (a b : Wallet) : Prop where
  /-- The number is the same. -/
  id : a.id = b.id
  /-- The user is the same. -/
  user : a.user = b.user
  /-- The name is the same. -/
  name : a.name = b.name

/-- Whether an answer is another one but for the time of a wallet. -/
inductive Reply.Retells : Reply → Reply → Prop where
  /-- It tells of the same wallet. -/
  | wallet (a b : Wallet) (retells : a.Retells b) : Retells (.wallet a) (.wallet b)
  /-- It is a receipt, and the very same. -/
  | processed (p : Processed Order.Receipt) : Retells (.processed p) (.processed p)

/-- Whether books tell the same as others but for what is made up. -/
structure Store.Retells (coined : Uuid → Prop) (a b : Store) : Prop where
  /-- The wallets are the same. -/
  wallets : List.Forall₂ Wallet.Retells a.wallets b.wallets
  /-- The next wallet has the same number. -/
  nextWallet : a.nextWallet = b.nextWallet
  /-- The balances are the same. -/
  balances : a.balances = b.balances
  /-- The entries are the same in the same order. -/
  entries : List.Forall₂ (fun a b : Entry => Posting.Retells coined a.toPosting b.toPosting)
    a.entries b.entries
  /-- The references are the same. -/
  references : a.references = b.references

/-! ## Orders told again -/

/-- A context with an identifier of its own keeps it; others get made up ones. -/
theorem Context.retells_ensureCorrelation {context : Context} {x y : Uuid}
    (made : context.correlation = none → coined x ∧ coined y) :
    (context.ensureCorrelation x).Retells coined (context.ensureCorrelation y) := by
  refine ⟨rfl, ?_⟩
  cases own : context.correlation with
  | some id =>
    left
    simp only [ensureCorrelation, own, Option.getD_some]
  | none =>
    right
    refine ⟨x, y, ?_, ?_, made own⟩ <;> simp only [ensureCorrelation, own, Option.getD_none]

/-- A posting that is told again may be the very same. -/
theorem Posting.Retells.refl (p : Posting) : p.Retells coined p :=
  ⟨rfl, rfl, rfl, rfl, .same _⟩

/-- What an order leaves behind is told again when its completion is. -/
theorem Order.retells_postings (order : Order) (receipt : Order.Receipt) {a b : Completion}
    (retells : a.Retells coined b) :
    List.Forall₂ (Posting.Retells coined) (order.postings receipt a)
      (order.postings receipt b) := by
  cases order with
  | adjust direction order =>
    exact .cons ⟨rfl, rfl, rfl, rfl, .completion a b retells⟩ .nil
  | move rates order =>
    cases receipt with
    | adjusted receipt => exact .nil
    | moved receipt =>
      exact .cons (.refl _) (.cons (.refl _)
        (.cons ⟨rfl, rfl, rfl, rfl, .completion a b retells⟩ .nil))

namespace Store.Retells

variable {a b b' : Store}

/-- Whether books tell the same can be told from them. -/
theorem congr {a' : Store} (retells : a.Retells coined b) (first : a'.books = a.books)
    (second : b'.books = b.books) : a'.Retells coined b' := by
  obtain ⟨wallets, nextWallet, balances, entries, references⟩ := retells
  obtain ⟨h₁, h₂, h₃, h₄, h₅⟩ := Books.mk.inj first
  obtain ⟨k₁, k₂, k₃, k₄, k₅⟩ := Books.mk.inj second
  rw [← h₁, ← k₁] at wallets
  rw [← h₂, ← k₂] at nextWallet
  rw [← h₃, ← k₃] at balances
  rw [← h₄, ← k₄] at entries
  rw [← h₅, ← k₅] at references
  exact ⟨wallets, nextWallet, balances, entries, references⟩

/-- Books that tell the same have the same wallets. -/
theorem hasWallet_eq (retells : a.Retells coined b) (wallet : WalletId) :
    a.hasWallet wallet = b.hasWallet wallet := by
  obtain ⟨wallets, -, -, -, -⟩ := retells
  rw [hasWallet, hasWallet]
  -- The wallets are compared one by one.
  generalize a.wallets = first at wallets ⊢
  generalize b.wallets = second at wallets ⊢
  induction wallets with
  | nil => rfl
  | cons same _ ih => rw [List.any_cons, List.any_cons, ih, same.id]

/-- Books that tell the same have the same amounts. -/
theorem amount_eq (retells : a.Retells coined b) : a.amount = b.amount := by
  funext account
  rw [amount, amount, retells.balances]

/-- Making the same wallet keeps books that tell the same so. -/
theorem createWallet (retells : a.Retells coined b) (user : UserId) (name : String)
    (now now' : Instant) :
    (a.createWallet now user name).1.Retells coined (b.createWallet now' user name).1 ∧
      (a.createWallet now user name).2.Retells (b.createWallet now' user name).2 := by
  have same : (a.createWallet now user name).2.Retells (b.createWallet now' user name).2 :=
    ⟨congrArg WalletId.mk retells.nextWallet, rfl, rfl⟩
  refine ⟨⟨?_, ?_, retells.balances, retells.entries, retells.references⟩, same⟩
  · exact List.rel_append retells.wallets (.cons same .nil)
  · show a.nextWallet + 1 = b.nextWallet + 1
    rw [retells.nextWallet]

/-- Publishing the same order keeps books that tell the same so. -/
theorem publish {t u : TransactionId} {e : Surroundings t} {e' : Surroundings u} {order : Order}
    {x y : Context} {receipt : Order.Receipt} (retells : a.Retells coined b)
    (straight : order.isCircular = false) (contexts : x.Retells coined y)
    (ready : order.Ready e x receipt a) (ready' : order.Ready e' y receipt b) :
    (a.publish t).Retells coined (b.publish u) := by
  obtain ⟨recorded, -, drafted⟩ := ready.drafted
  obtain ⟨recorded', -, drafted'⟩ := ready'.drafted
  refine ⟨retells.wallets, retells.nextWallet, ?_, ?_, ?_⟩
  · show (a.transaction t).staged.rows.foldl (fun b row => b.insert row.1 row.2) a.balances =
      (b.transaction u).staged.rows.foldl (fun b row => b.insert row.1 row.2) b.balances
    rw [ready.staged_eq straight, ready'.staged_eq straight, retells.balances]
  · have completions : (order.completion receipt x recorded).Retells coined
        (order.completion receipt y recorded') := ⟨rfl, rfl, rfl, contexts⟩
    have own := order.retells_postings receipt completions
    rw [← drafted.posted, ← drafted'.posted, List.forall₂_map_left_iff,
      List.forall₂_map_right_iff] at own
    exact List.rel_append retells.entries own
  · show a.ownReferences t ++ a.references = b.ownReferences u ++ b.references
    rw [ready.ownReferences_eq, ready'.ownReferences_eq, retells.references]

end Store.Retells

/-! ## Tasks carried out again -/

/-- A task that asks for the same as an order carries out the order. -/
theorem Task.Repeats.of_carryOut {task : Task} {order : Order} {policy : Retry.Policy}
    {context : Context} {fresh : Uuid}
    (repeats : task.Repeats (.carryOut order policy context fresh)) :
    ∃ policy' fresh', task = .carryOut order policy' context fresh' := by
  cases repeats with
  | same => exact ⟨policy, fresh, rfl⟩
  | carryOut order context policy policy' fresh fresh' => exact ⟨policy', fresh', rfl⟩

namespace Serial

variable {serial : Serial} {clock : Nat → Instant}

/-- Between tasks that are carried out one after another no transaction is under way. -/
structure Idle (serial : Serial) : Prop where
  /-- The store is sound. -/
  sound : serial.store.Sound
  /-- No transaction is under way. -/
  live : ∀ t, serial.store.live.get? t = none

/-- A wallet that has a name is made at once. -/
theorem carryOut_createWallet {user : UserId} {name chosen : String}
    (named : Ledger.walletName name = .ok chosen) :
    (carryOut clock (.createWallet user name)).run serial =
      let made := serial.store.createWallet (clock serial.ticks) user chosen
      (.ok (.wallet made.2), ⟨made.1, serial.ticks + 1⟩) := by
  rw [carryOut, Task.script, Task.operation, Ledger.createWallet, named]
  rfl

/-- An order that nothing hinders is published with the receipt that the amounts make of it. -/
theorem carryOut_order (clock : Nat → Instant) {order : Order} (policy : Retry.Policy)
    (context : Context) (fresh : Uuid) {receipt : Order.Receipt} (idle : serial.Idle)
    (straight : order.isCircular = false)
    (free : ∀ r ∈ order.references, r ∉ serial.store.references)
    (owned : ∀ account ∈ order.accounts, serial.store.hasWallet account.wallet = true)
    (evaluated : order.evaluate serial.store.amount = .ok receipt) :
    ((carryOut clock (.carryOut order policy context fresh)).run serial).1 =
        .ok (.processed ⟨receipt, false⟩) ∧
      ((carryOut clock (.carryOut order policy context fresh)).run serial).2.Idle ∧
      ∃ x : Store, x.books = serial.store.books ∧
        order.Ready (.alone clock serial.store.books 0) (context.ensureCorrelation fresh) receipt x ∧
        ((carryOut clock (.carryOut order policy context fresh)).run serial).2.store =
          x.publish 0 := by
  have blank : serial.store.transaction 0 = {} := Store.transaction_eq_of_gone (idle.live 0)
  obtain ⟨trail, ⟨processed, result, settles⟩, sound, quiet⟩ :=
    Script.Ensures.interpret clock
      ((Task.carryOut order policy context fresh).ensures_script blank)
      ((Task.carryOut order policy context fresh).ensures_script blank)
      (fun _ _ _ duty => duty.unpublished) idle.sound (fun t _ => idle.live t) fun _ => rfl
  obtain ⟨rfl, x, books, ready, store⟩ :=
    settles.eq_published idle.sound straight free owned evaluated
  refine ⟨result, ⟨sound, quiet.live ?_⟩, x, books, ready, store⟩
  rw [store]
  exact Table.get?_erase_self _ _

end Serial

namespace World

variable {w w' : World} {shows : Instant → Prop} {clock : Nat → Instant} {again : List Task}

/-- Whether carrying out tasks one after another, from an empty store on, leads to the books of a
world, with the answers that were given when they were published. -/
structure Retold (coined : Uuid → Prop) (clock : Nat → Instant) (w : World) (again : List Task) :
    Prop where
  /-- Nothing is under way afterwards. -/
  idle : ((Serial.serve clock again).run {}).2.Idle
  /-- The books are the same. -/
  books : ((Serial.serve clock again).run {}).2.store.Retells coined w.store
  /-- The answers are the same. -/
  answers : List.Forall₂ (fun answer p => ∃ trail told, answer = .ok told ∧
      ∃ reply, w.finished.get? p.1 = some ⟨p.2, trail, .ok reply⟩ ∧ reply.isFresh = true ∧
        told.Retells reply)
    ((Serial.serve clock again).run {}).1 w.published

/-- Whether identifiers that were made up for tasks count as such. -/
def Coining (coined : Uuid → Prop) (tasks : List Task) : Prop :=
  ∀ task ∈ tasks, ∀ id, task.Coins id → coined id

/-- What counts as made up for more tasks counts for fewer. -/
theorem Coining.of_append {tasks more : List Task} {task last : Task}
    (coining : Coining coined ((more ++ [last]) ++ (tasks ++ [task]))) :
    Coining coined (more ++ tasks) := by
  intro task mem
  rcases List.mem_append.1 mem with mem | mem
  · exact coining task (List.mem_append_left _ (List.mem_append_left _ mem))
  · exact coining task (List.mem_append_right _ (List.mem_append_left _ mem))

/-- Without anything published nothing is to be carried out again. -/
theorem retold_empty (coined : Uuid → Prop) (clock : Nat → Instant) : Retold coined clock {} [] :=
  ⟨⟨Store.Sound.empty, fun _ => rfl⟩, ⟨.nil, rfl, rfl, .nil, rfl⟩, .nil⟩

/-- Tasks that repeat others and one more are repetitions of the others and of the one. -/
theorem repeats_append_singleton {tasks : List Task} {task : Task}
    (repeats : List.Forall₂ Task.Repeats again (tasks ++ [task])) :
    ∃ before last, again = before ++ [last] ∧ List.Forall₂ Task.Repeats before tasks ∧
      last.Repeats task := by
  have before := List.forall₂_take_append _ _ _ repeats
  have after := List.forall₂_drop_append _ _ _ repeats
  obtain ⟨last, rest, same, none, drop⟩ := List.forall₂_cons_right_iff.1 after
  obtain rfl := List.forall₂_nil_right_iff.1 none
  exact ⟨_, last, by rw [← drop, List.take_append_drop], before, same⟩

/-- One more task that leads to the books after an action, and is answered as it was. -/
theorem Retold.append {t : TransactionId} {task : Task} {last : Task} {before : List Task}
    {trail : Trail} {told reply : Reply} {serial : Serial}
    (retold : w.Retold coined clock before)
    (carried : (Serial.carryOut clock last).run ((Serial.serve clock before).run {}).2 =
      (.ok told, serial))
    (idle : serial.Idle) (books : serial.store.Retells coined w'.store)
    (published : w'.published = w.published ++ [(t, task)])
    (finished : w'.finished.get? t = some ⟨task, trail, .ok reply⟩) (fresh : reply.isFresh = true)
    (same : told.Retells reply)
    (stays : ∀ {u f}, w.finished.get? u = some f → w'.finished.get? u = some f) :
    w'.Retold coined clock (before ++ [last]) := by
  have run : (Serial.serve clock (before ++ [last])).run {} =
      (((Serial.serve clock before).run {}).1 ++ [.ok told], serial) := by
    rw [Serial.serve_append_singleton]
    simp only [carried]
  refine ⟨?_, ?_, ?_⟩
  · rw [run]
    exact idle
  · rw [run]
    exact books
  · rw [run, published]
    refine List.rel_append (retold.answers.imp ?_)
      (.cons ⟨trail, told, rfl, reply, finished, fresh, same⟩ .nil)
    rintro answer p ⟨trail, told, rfl, reply, done, fresh, same⟩
    exact ⟨trail, told, rfl, reply, stays done, fresh, same⟩

/-- Repeating what an action publishes, after all that was published before, leads to the same
books. -/
theorem Retold.of_publishes (publishes : w.Publishes shows w')
    (stays : ∀ {u f}, w.finished.get? u = some f → w'.finished.get? u = some f)
    (retold : ∀ again, List.Forall₂ Task.Repeats again (w.published.map Prod.snd) →
      Coining coined (again ++ w.published.map Prod.snd) → w.Retold coined clock again)
    (repeats : List.Forall₂ Task.Repeats again (w'.published.map Prod.snd))
    (coining : Coining coined (again ++ w'.published.map Prod.snd)) :
    w'.Retold coined clock again := by
  cases publishes with
  | nothing books published =>
    rw [published] at repeats coining
    obtain ⟨idle, retells, answers⟩ := retold again repeats coining
    refine ⟨idle, retells.congr rfl books, ?_⟩
    rw [published]
    refine answers.imp ?_
    rintro answer p ⟨trail, told, rfl, reply, done, fresh, same⟩
    exact ⟨trail, told, rfl, reply, stays done, fresh, same⟩
  | wallet t user name chosen now trail named vacant store published finished =>
    rw [published, List.map_append] at repeats coining
    obtain ⟨before, last, rfl, repeated, same⟩ := repeats_append_singleton repeats
    have known := retold before repeated coining.of_append
    obtain ⟨books, made⟩ := known.books.createWallet user chosen
      (clock ((Serial.serve clock before).run {}).2.ticks) now
    cases same
    refine known.append (Serial.carryOut_createWallet named) ?_ ?_ published finished rfl
      (.wallet _ _ made) stays
    · exact ⟨known.idle.sound.createWallet _ _ _, known.idle.live⟩
    · rw [store]
      exact books
  | order t order policy context fresh receipt trail straight missed ready free vacant store
      published finished =>
    rw [published, List.map_append] at repeats coining
    obtain ⟨before, last, rfl, repeated, same⟩ := repeats_append_singleton repeats
    have known := retold before repeated coining.of_append
    obtain ⟨policy', fresh', rfl⟩ := same.of_carryOut
    obtain ⟨_, -, drafted⟩ := ready.drafted
    -- Nothing hinders the order now: the books are those in which it was ready.
    have unclaimed : ∀ r ∈ order.references,
        r ∉ ((Serial.serve clock before).run {}).2.store.references := by
      intro r mem
      rw [known.books.references]
      refine free r ?_
      rw [ready.ownReferences_eq, List.mem_append, List.mem_singleton]
      exact (List.mem_cons.1 mem).symm
    have owned : ∀ account ∈ order.accounts,
        ((Serial.serve clock before).run {}).2.store.hasWallet account.wallet = true := by
      intro account mem
      rw [known.books.hasWallet_eq]
      exact drafted.owned account mem
    have evaluated : order.evaluate ((Serial.serve clock before).run {}).2.store.amount =
        .ok receipt := by
      rw [known.books.amount_eq]
      exact ready.evaluated
    obtain ⟨answer, idle, x, same, ready', carried⟩ := Serial.carryOut_order clock policy' context
      fresh' known.idle straight unclaimed owned evaluated
    have contexts : (context.ensureCorrelation fresh').Retells coined
        (context.ensureCorrelation fresh) := Context.retells_ensureCorrelation fun none =>
      ⟨coining _ (List.mem_append_left _ (List.mem_append_right _ (List.mem_singleton_self _))) _
          ⟨none, rfl⟩,
        coining _ (List.mem_append_right _ (List.mem_append_right _ (List.mem_singleton_self _))) _
          ⟨none, rfl⟩⟩
    refine known.append (Prod.ext answer rfl) idle ?_ published finished rfl (.processed _) stays
    rw [carried, store]
    exact (known.books.congr same rfl).publish straight contexts ready' ready

/-- Carrying out again, one after another and from an empty store on, only the tasks that have
published something, in the order in which they did, leads to the same balances, entries, references
and wallets, and every one of them is answered again with something new, orders with the very same
receipt. Tasks that were answered otherwise, or not at all, are not among them. -/
theorem serve_published (actions : List Action) (again : List Task) (clock : Nat → Instant)
    (repeats : List.Forall₂ Task.Repeats again ((run actions).published.map Prod.snd)) :
    let coined := fun id => ∃ task ∈ again ++ (run actions).published.map Prod.snd, task.Coins id
    let after := (Serial.serve clock again).run {}
    after.2.store.balances = (run actions).store.balances ∧
    List.Forall₂ (fun a b : Entry => Posting.Retells coined a.toPosting b.toPosting)
      after.2.store.entries (run actions).store.entries ∧
    after.2.store.references = (run actions).store.references ∧
    List.Forall₂ Wallet.Retells after.2.store.wallets (run actions).store.wallets ∧
    List.Forall₂ (fun answer p => ∃ trail told, answer = .ok told ∧ ∃ reply,
        (run actions).finished.get? p.1 = some ⟨p.2, trail, .ok reply⟩ ∧ reply.isFresh = true ∧
          told.Retells reply)
      after.1 (run actions).published ∧
    ((run actions).published.map Prod.fst).Nodup ∧
    (∀ t task, (t, task) ∈ (run actions).published ↔ ∃ trail reply,
      (run actions).finished.get? t = some ⟨task, trail, .ok reply⟩ ∧ reply.isFresh = true) := by
  intro coined after
  have retold : ∀ again, List.Forall₂ Task.Repeats again ((run actions).published.map Prod.snd) →
      ∀ coined, Coining coined (again ++ (run actions).published.map Prod.snd) →
      (run actions).Retold coined clock again := by
    -- By induction on the actions, for all repetitions of what they have published.
    clear repeats coined after again
    induction actions using List.reverseRecOn with
    | nil =>
      intro again repeats coined coining
      obtain rfl := List.forall₂_nil_right_iff.1 repeats
      exact retold_empty coined clock
    | append_singleton actions a ih =>
      have faithful : (run actions).Faithful fun _ => True := faithful_run fun _ _ _ _ => trivial
      intro again repeats coined coining
      rw [run_append_singleton] at repeats coining ⊢
      exact Retold.of_publishes (faithful.publishes (moves_act _ a) fun _ _ => trivial)
        (faithful.finished_moves (moves_act _ a)) (fun again repeats coining =>
          ih again repeats coined coining) repeats coining
  obtain ⟨-, books, answers⟩ := retold again repeats coined fun task mem id coins =>
    ⟨task, mem, coins⟩
  exact ⟨books.balances, books.entries, books.references, books.wallets, answers,
    (traced_run actions).once, (traced_run actions).mem_iff⟩

/-- Of a transfer and a withdrawal that overlap only the transfer is published, so without the
withdrawal, with other identifiers and at another time the balances are the same. -/
theorem balances_serve_overlapping :
    List.Forall₂ Task.Repeats [.createWallet ⟨2⟩ "", .createWallet ⟨1⟩ "",
      Sample.once Sample.deposit 70, Sample.once Sample.transfer 80]
      ((run Sample.overlapping).published.map Prod.snd) ∧
    ((Serial.serve .ofMillis [.createWallet ⟨2⟩ "", .createWallet ⟨1⟩ "",
      Sample.once Sample.deposit 70, Sample.once Sample.transfer 80]).run {}).2.store.balances =
        (run Sample.overlapping).store.balances := by
  have repeats : List.Forall₂ Task.Repeats [.createWallet ⟨2⟩ "", .createWallet ⟨1⟩ "",
      Sample.once Sample.deposit 70, Sample.once Sample.transfer 80]
      ((run Sample.overlapping).published.map Prod.snd) := by
    have published : (run Sample.overlapping).published.map Prod.snd = [.createWallet ⟨2⟩ "",
        .createWallet ⟨1⟩ "", Sample.once Sample.deposit 7, Sample.once Sample.transfer 8] := by
      decide +kernel
    rw [published]
    exact .cons (.same _) (.cons (.same _) (.cons (.carryOut ..) (.cons (.carryOut ..) .nil)))
  exact ⟨repeats, (serve_published Sample.overlapping _ .ofMillis repeats).1⟩

end World

end CurrencyLedger
