import CurrencyLedger.Proofs.World.Publishing

/-! # A ledger used by one task after another

Tasks that are carried out one after another never wait, and what each of them comes to is decided
by the store alone.

* **`Serial`**, **`Serial.carryOut`**, **`Serial.serve`** — tasks one after another, from their
  first call to their answer;
* **`Surroundings.alone`** — around the calls of such a task nothing happens;
* **`Script.Ensures.interpret`** — so what a script ensures then is what it comes to;
* **`Order.Settles.of_unused`**, **`Order.Settles.eq_published`** — an order whose references are
  free is decided by its wallets and the amounts, and is published if these allow it. -/

namespace CurrencyLedger

/-- A store that is used by one task after another, with a count of what takes time. -/
structure Serial where
  /-- What is stored. -/
  store : Store := {}
  /-- How many calls were made and how often the clock was read. -/
  ticks : Nat := 0

namespace Serial

/-- How the steps of a task are carried out when nobody else uses the store. Nobody could give back
a lock that is waited for, so waiting is in vain. -/
def handlers (clock : Nat → Instant) : Script.Handlers (StateM Serial) where
  call c := fun serial =>
    match serial.store.step 0 (clock serial.ticks) c with
    | .answered store answer => (answer, ⟨store, serial.ticks + 1⟩)
    | .blocked =>
      (.error (.lockTimeout ((c.locks?.map Account.text).getD "")),
        ⟨serial.store, serial.ticks + 1⟩)
  sleep _ := pure ()
  advance _ := pure ()
  now := fun serial => (clock serial.ticks, ⟨serial.store, serial.ticks + 1⟩)

section Calls

variable {α : Type} {clock : Nat → Instant} {serial : Serial} {c : Call}
  {next : Except StoreError c.Answer → Script α}

/-- How a call is answered when nothing else runs. -/
theorem run_call (c : Call) : ((handlers clock).call c).run serial =
    match serial.store.step 0 (clock serial.ticks) c with
    | .answered store answer => (answer, ⟨store, serial.ticks + 1⟩)
    | .blocked =>
      (.error (.lockTimeout ((c.locks?.map Account.text).getD "")),
        ⟨serial.store, serial.ticks + 1⟩) := rfl

/-- A script goes on with the answer to its call. -/
theorem interpret_call_of_answered {store : Store} {answer : Except StoreError c.Answer}
    (step : serial.store.step 0 (clock serial.ticks) c = .answered store answer) :
    ((Script.call c next).interpret (handlers clock)).run serial =
      ((next answer).interpret (handlers clock)).run ⟨store, serial.ticks + 1⟩ := by
  rw [Script.interpret, StateT.run_bind, run_call, step]
  rfl

/-- After a call that would have to wait it goes on in the same store. -/
theorem interpret_call_of_blocked
    (step : serial.store.step 0 (clock serial.ticks) c = .blocked) : ∃ error,
    ((Script.call c next).interpret (handlers clock)).run serial =
      ((next (.error error)).interpret (handlers clock)).run
        ⟨serial.store, serial.ticks + 1⟩ := by
  refine ⟨.lockTimeout ((c.locks?.map Account.text).getD ""), ?_⟩
  rw [Script.interpret, StateT.run_bind, run_call, step]
  rfl

end Calls

/-- Carries out a task from its first call to its answer. -/
def carryOut (clock : Nat → Instant) (task : Task) : StateM Serial (Except LedgerError Reply) :=
  task.script.interpret (handlers clock)

/-- Carries out tasks one after another. -/
def serve (clock : Nat → Instant) (tasks : List Task) :
    StateM Serial (List (Except LedgerError Reply)) :=
  tasks.mapM (carryOut clock)

/-- One more task is carried out after the others. -/
theorem serve_append_singleton (clock : Nat → Instant) (tasks : List Task) (task : Task)
    (serial : Serial) :
    (serve clock (tasks ++ [task])).run serial =
      let before := (serve clock tasks).run serial
      let after := (carryOut clock task).run before.2
      (before.1 ++ [after.1], after.2) := by
  rw [serve, List.mapM_append]
  rfl

end Serial

variable {s s' : Store} {t : TransactionId} {clock : Nat → Instant}

/-! ## Nobody else -/

/-- Whether no transaction but one is under way. -/
def Store.Quiet (s : Store) (t : TransactionId) : Prop := ∀ u, u ≠ t → s.live.get? u = none

/-- Where nobody else is, nobody is once the one transaction has ended. -/
theorem Store.Quiet.live (quiet : s.Quiet t) (gone : s.live.get? t = none) (u : TransactionId) :
    s.live.get? u = none := by
  by_cases same : u = t
  · exact same ▸ gone
  · exact quiet u same

/-- Where nobody else is, nobody else holds a lock. -/
theorem Store.Quiet.isHeldByOther_eq_false (quiet : s.Quiet t) (account : Account) :
    s.isHeldByOther t account = false := by
  rw [isHeldByOther_eq_false_iff]
  intro u different
  rw [transaction_eq_of_gone (quiet u different)]
  exact List.not_mem_nil

/-- Where nobody else is, every call is answered. -/
theorem Store.Quiet.step_ne_blocked (quiet : s.Quiet t) (now : Instant) (c : Call) :
    s.step t now c ≠ .blocked := by
  intro blocked
  cases c with
  | lock account => simp [step, lock, quiet.isHeldByOther_eq_false] at blocked
  | create account initial =>
    simp only [step, create, quiet.isHeldByOther_eq_false, Bool.false_eq_true, if_false] at blocked
    split at blocked
    · cases blocked
    · split at blocked <;> cases blocked
  | _ => cases blocked

/-- A call brings nobody else. -/
theorem Store.Quiet.step (quiet : s.Quiet t) (sound : s.Sound) {now : Instant} {c : Call}
    {answer : Except StoreError c.Answer} (step : s.step t now c = .answered s' answer) :
    s'.Quiet t :=
  fun u different => (sound.others_step different step).live.trans (quiet u different)

/-- Around the calls of a task that is alone nothing happens, as long as the books are as they were
when it began, and the clock shows one of its readings. -/
def Surroundings.alone (clock : Nat → Instant) (books : Store.Books) (t : TransactionId) :
    Surroundings t where
  between s s' := s' = s ∧ s.Sound ∧ s.books = books
  expires _ _ := False
  shows now := ∃ ticks, clock ticks = now
  rely := by
    rintro s s' ⟨rfl, sound, -⟩
    exact .refl sound
  trans := by
    rintro s s' s'' ⟨rfl, -, -⟩ more
    exact more
  missing _ expires := expires.elim

/-- What a task that is alone meets. -/
theorem Surroundings.Meets.books {books : Store.Books}
    (meets : (Surroundings.alone clock books t).Meets s) : s.books = books := by
  obtain ⟨_, rfl, -, same⟩ := meets
  exact same

/-- What a script ensures when nothing happens around its calls is what it comes to, if it makes no
call after it has published something. -/
theorem Script.Ensures.interpret {α : Type} {books : Store.Books} (clock : Nat → Instant)
    {P P' : Trail → Call → Store → Prop} {Q Q' : α → Trail → Store → Prop} {script : Script α}
    {trail : Trail} {serial : Serial}
    (ensures : script.Ensures (.alone clock books 0) P Q trail serial.store)
    (dutiful : script.Ensures (.crowd (fun _ => True) 0) P' Q' trail serial.store)
    (unpublished : ∀ trail c s, P' trail c s → trail.published = false)
    (sound : serial.store.Sound) (quiet : serial.store.Quiet 0)
    (before : trail.published = false → serial.store.books = books) :
    ∃ trail', Q ((script.interpret (Serial.handlers clock)).run serial).1 trail'
        ((script.interpret (Serial.handlers clock)).run serial).2.store ∧
      ((script.interpret (Serial.handlers clock)).run serial).2.store.Sound ∧
      ((script.interpret (Serial.handlers clock)).run serial).2.store.Quiet 0 := by
  -- By induction on the script. Up to its publication the books are as they were, and after it no
  -- call is made.
  induction script generalizing trail serial with
  | done a => exact ⟨trail, ensures, sound, quiet⟩
  | call c next ih =>
    obtain ⟨duty, goes_on', -⟩ := dutiful serial.store (.refl sound)
    have silent := unpublished trail c serial.store duty
    obtain ⟨-, goes_on, -⟩ := ensures serial.store ⟨rfl, sound, before silent⟩
    cases step : serial.store.step 0 (clock serial.ticks) c with
    | blocked => exact absurd step (quiet.step_ne_blocked _ c)
    | answered store answer =>
      rw [Serial.interpret_call_of_answered step]
      refine ih answer (goes_on _ store answer step) (goes_on' _ store answer step)
        (sound.step step) (quiet.step sound step) fun more => ?_
      rw [Trail.published_add, silent, Bool.or_false] at more
      exact (Store.books_eq_of_step step more).trans (before silent)
  | sleep ms next ih => exact ih ensures dutiful sound quiet before
  | advance stage next ih => exact ih ensures dutiful sound quiet before
  | now next ih => exact ih _ (ensures _ ⟨_, rfl⟩) (dutiful _ trivial) sound quiet before

/-! ## Orders that are alone -/

namespace Order

variable {order : Order} {context : Context} {receipt : Receipt}

/-- A reference under which an order that is alone has found no entry is free. -/
theorem findEntry_of_missed {reference : String}
    (missed : (Surroundings.alone clock s.books t).Missed reference) :
    Store.findEntry s.entries reference = none := by
  obtain ⟨s₁, meets, none⟩ := missed
  rwa [show s₁.entries = s.entries from congrArg Store.Books.entries meets.books] at none

/-- Whether no entry carries a reference of an order. -/
def Unused (order : Order) (s : Store) : Prop :=
  ∀ r ∈ order.references, Store.findEntry s.entries r = none

/-- The least account of an order that belongs to no wallet. -/
def homeless? (order : Order) (s : Store) : Option Account :=
  (Account.ascending order.accounts).find? fun account => !s.hasWallet account.wallet

/-- All accounts of an order belong to wallets iff there is no least one that does not. -/
theorem homeless?_eq_none :
    order.homeless? s = none ↔ ∀ account ∈ order.accounts, s.hasWallet account.wallet = true := by
  rw [homeless?, List.find?_eq_none]
  simp only [Account.mem_ascending, Bool.not_eq_true', Bool.not_eq_false]

/-- The work of an order that is alone and finds no entries under its references comes to the least
of its accounts without a wallet, or else to what the amounts make of it. -/
theorem Worked.of_unused {x : Store} {result : Except LedgerError (Operation.Progress Receipt)}
    (worked : order.Worked (.alone clock s.books t) context x result) (same : x.books = s.books)
    (unused : order.Unused s) :
    (∃ account, order.homeless? s = some account ∧
      result = .error (.walletNotFound account.wallet)) ∨
    order.homeless? s = none ∧
      ((∃ error, order.evaluate s.amount = .error error ∧ result = .error error) ∨
        ∃ receipt, order.evaluate s.amount = .ok receipt ∧ result = .ok (.applied receipt) ∧
          order.Ready (.alone clock s.books t) context receipt x) := by
  have entries : x.entries = s.entries := congrArg Store.Books.entries same
  -- Nothing has been entered under its references since they were looked up.
  have absent {α : Prop} {r : String} {entry : Entry} (mem : r ∈ order.references)
      (found : Store.findEntry x.entries r = some entry) : α := by
    rw [entries, unused r mem] at found
    cases found
  cases worked with
  | replayed entry receipt begun found reads => exact absent List.mem_cons_self found
  | repeated entry error begun found reads => exact absent List.mem_cons_self found
  | claimed entry reference begun missed side found =>
    exact absent (List.mem_cons_of_mem _ side) found
  | expired account s₁ missed mem meets expires missing => exact expires.elim
  | homeless before account after s₁ missed meets split owned unowned held unbalanced =>
    refine Or.inl ⟨account, ?_, rfl⟩
    rw [homeless?, split, List.find?_eq_some_iff_append]
    refine ⟨?_, before, after, rfl, fun other mem => ?_⟩
    · rw [← Store.hasWallet_congr meets.books, unowned]
      rfl
    · rw [← Store.hasWallet_congr meets.books, owned other mem]
      rfl
  | rejected error missed owned held refused =>
    refine Or.inr ⟨homeless?_eq_none.2 fun account mem => ?_, Or.inl ⟨error, ?_, rfl⟩⟩
    · rw [← Store.hasWallet_congr same, owned account mem]
    · rw [← Store.amount_congr same, refused]
  | taken receipt entry reference missed held _ mem found => exact absent mem found
  | applied receipt missed ready =>
    refine Or.inr ⟨homeless?_eq_none.2 fun account mem => ?_, Or.inr ⟨receipt, ?_, rfl, ready⟩⟩
    · obtain ⟨recorded, -, drafted⟩ := ready.drafted
      rw [← Store.hasWallet_congr same, drafted.owned account mem]
    · rw [← Store.amount_congr same, ready.evaluated]

/-- The last attempt of an order that is alone ends in the books that the first one has found. -/
theorem Settles.exists_ended {result : Except LedgerError (Processed Receipt)} {trail : Trail}
    (settles : order.Settles (.alone clock s.books t) context result trail s')
    (straight : order.isCircular = false) : ∃ exchange, exchange.store.books = s.books ∧
      order.Ended (.alone clock s.books t) context result exchange s' := by
  obtain ⟨before, -, ⟨circular, -⟩ | ⟨-, concluded⟩⟩ := settles
  · rw [straight] at circular
    cases circular
  · obtain ⟨exchange, calls, -, meets, ended⟩ := concluded.ended
    exact ⟨exchange, meets.books, ended⟩

/-- References that are free are those of no entry. -/
theorem unused_of_free (sound : s.Sound) (free : ∀ r ∈ order.references, r ∉ s.references) :
    order.Unused s := by
  intro r mem
  rw [← Option.not_isSome_iff_eq_none, sound.isSome_findEntry]
  exact free r mem

/-- An order that is alone, and whose references are unused, is told the least of its accounts
without a wallet, or else what the amounts make of it. It leaves no trace unless that is a receipt,
which is published. -/
theorem Settles.of_unused {result : Except LedgerError (Processed Receipt)} {trail : Trail}
    (settles : order.Settles (.alone clock s.books t) context result trail s') (sound : s.Sound)
    (straight : order.isCircular = false) (unused : order.Unused s) :
    (∃ account, order.homeless? s = some account ∧
      result = .error (.walletNotFound account.wallet) ∧ s'.books = s.books) ∨
    order.homeless? s = none ∧
      ((∃ error, order.evaluate s.amount = .error error ∧ result = .error error ∧
          s'.books = s.books) ∨
        ∃ receipt, order.evaluate s.amount = .ok receipt ∧ result = .ok ⟨receipt, false⟩ ∧
          ∃ x, x.books = s.books ∧ order.Ready (.alone clock s.books t) context receipt x ∧
            s' = x.publish t) := by
  obtain ⟨exchange, same, ended⟩ := settles.exists_ended straight
  cases ended with
  | replayed x receipt worked =>
    rcases worked.of_unused same unused with ⟨_, -, is⟩ | ⟨-, ⟨_, -, is⟩ | ⟨_, -, is, -⟩⟩
    · cases is
    · cases is
    · cases is
  | failed x error worked =>
    rcases worked.of_unused same unused with
      ⟨account, least, is⟩ | ⟨housed, ⟨_, refused, is⟩ | ⟨_, -, is, -⟩⟩
    · cases is
      exact Or.inl ⟨account, least, rfl, same⟩
    · cases is
      exact Or.inr ⟨housed, Or.inl ⟨error, refused, rfl, same⟩⟩
    · cases is
  | collided x receipt reference worked own taken =>
    rcases worked.of_unused same unused with ⟨_, -, is⟩ | ⟨-, ⟨_, -, is⟩ | ⟨_, -, is, ready⟩⟩
    · cases is
    · cases is
    · -- Its references are those of no entry, so none of them can have been taken.
      rw [ready.ownReferences_eq, List.mem_append, List.mem_singleton] at own
      rw [show x.references = s.references from congrArg Store.Books.references same,
        ← sound.isSome_findEntry, unused reference (List.mem_cons.2 own.symm)] at taken
      cases taken
  | published x receipt worked free =>
    rcases worked.of_unused same unused with
      ⟨_, -, is⟩ | ⟨housed, ⟨_, -, is⟩ | ⟨other, allowed, is, ready⟩⟩
    · cases is
    · cases is
    · cases is
      exact Or.inr ⟨housed, Or.inr ⟨receipt, allowed, rfl, x, same, ready, rfl⟩⟩

/-- An order that nothing hinders, and that is alone, is published. -/
theorem Settles.eq_published {result : Except LedgerError (Processed Receipt)} {trail : Trail}
    (settles : order.Settles (.alone clock s.books t) context result trail s') (sound : s.Sound)
    (straight : order.isCircular = false) (free : ∀ r ∈ order.references, r ∉ s.references)
    (owned : ∀ account ∈ order.accounts, s.hasWallet account.wallet = true)
    (evaluated : order.evaluate s.amount = .ok receipt) :
    result = .ok ⟨receipt, false⟩ ∧ ∃ x, x.books = s.books ∧
      order.Ready (.alone clock s.books t) context receipt x ∧ s' = x.publish t := by
  rcases settles.of_unused sound straight (unused_of_free sound free) with
    ⟨account, unowned, -⟩ | ⟨-, ⟨error, refused, -⟩ | ⟨other, allowed, is, published⟩⟩
  · cases (homeless?_eq_none.2 owned).symm.trans unowned
  · cases evaluated.symm.trans refused
  · obtain rfl := Except.ok.inj (evaluated.symm.trans allowed)
    exact ⟨is, published⟩

end Order

end CurrencyLedger
