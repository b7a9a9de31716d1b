import CurrencyLedger.Proofs.Units.Updates
import Mathlib.Data.List.Nodup

/-! # The ledger only grows

* **`Store.entriesAt`**, **`Store.Writes`**, **`Store.writes_of_step`** — where entries are, and
  what an answered call does to them;
* **`Store.Numbered`** — no two entries have one number, wherever they are;
* **`Units.appended`**, **`Units.Recorded`**, **`Units.recorded_run`** — a unit of work under way is
  about to publish the entries that it was answered, one after another;
* **`Units.Commits`**, **`Units.ledger_append_only`** — entries are added by nothing but a commit,
  which adds all entries of its unit of work or none. -/

namespace CurrencyLedger

/-- The entry that a unit of work was answered when it wrote one. -/
def Units.Deed.entry? (t : TransactionId) : Units.Deed → Option Entry
  | ⟨some u, .append _, .ok entry⟩ => if u = t then some entry else none
  | _ => none

namespace Store

variable {s s' : Store} {t : TransactionId} {place : Option TransactionId}

/-! ## Where entries are -/

/-- The entries in one place: the published ones, or those that a transaction is about to
publish. -/
def entriesAt (s : Store) : Option TransactionId → List Entry
  | none => s.entries
  | some t => (s.transaction t).entries

@[simp] theorem entriesAt_none (s : Store) : s.entriesAt none = s.entries := rfl

@[simp] theorem entriesAt_some (s : Store) (t : TransactionId) :
    s.entriesAt (some t) = (s.transaction t).entries := rfl

/-- The entries of a transaction are those of its new state. -/
theorem entriesAt_update_self (s : Store) (t : TransactionId) (x : Transaction) :
    (s.update t x).entriesAt (some t) = x.entries := by
  rw [entriesAt_some, transaction_update_self]

/-- The entries elsewhere stay when a transaction moves. -/
theorem entriesAt_update_of_ne (s : Store) (x : Transaction) (other : place ≠ some t) :
    (s.update t x).entriesAt place = s.entriesAt place := by
  cases place with
  | none => rfl
  | some u =>
    rw [entriesAt_some, entriesAt_some,
      transaction_update_of_ne s x fun same => other (congrArg some same)]

/-- The entries stay everywhere when a transaction moves and has the same ones as before. -/
theorem entriesAt_update (s : Store) {x : Transaction}
    (same : x.entries = (s.transaction t).entries) (place : Option TransactionId) :
    (s.update t x).entriesAt place = s.entriesAt place := by
  by_cases own : place = some t
  · rw [own, entriesAt_update_self, same, entriesAt_some]
  · exact entriesAt_update_of_ne s x own

/-- The entries elsewhere stay when a transaction ends. -/
theorem entriesAt_drop_of_ne (s : Store) (other : place ≠ some t) :
    (s.drop t).entriesAt place = s.entriesAt place := by
  cases place with
  | none => rfl
  | some u =>
    rw [entriesAt_some, entriesAt_some,
      transaction_drop_of_ne s fun same => other (congrArg some same)]

/-- A transaction that is over has no entries. -/
theorem entriesAt_of_gone (gone : s.live.get? t = none) : s.entriesAt (some t) = [] := by
  rw [entriesAt_some, transaction_eq_of_gone gone]

/-- What an answered call of a transaction does to the entries, and the entry that it is answered
if it has written one. -/
inductive Writes (t : TransactionId) (s s' : Store) : Option Entry → Prop
  /-- It does nothing to them. -/
  | nothing (same : ∀ place, s'.entriesAt place = s.entriesAt place)
    (next : s'.nextEntry = s.nextEntry) : Writes t s s' none
  /-- It writes an entry with the next number, after those that the transaction has written. -/
  | entry (entry : Entry) (numbered : entry.id = s.nextEntry)
    (next : s'.nextEntry = s.nextEntry + 1)
    (own : s'.entriesAt (some t) = s.entriesAt (some t) ++ [entry])
    (others : ∀ place, place ≠ some t → s'.entriesAt place = s.entriesAt place) :
    Writes t s s' (some entry)
  /-- It ends the transaction without a trace. -/
  | ended (gone : s'.live.get? t = none) (next : s'.nextEntry = s.nextEntry)
    (others : ∀ place, place ≠ some t → s'.entriesAt place = s.entriesAt place) :
    Writes t s s' none
  /-- It publishes the transaction, whose entries come after those published before. -/
  | published (gone : s'.live.get? t = none) (next : s'.nextEntry = s.nextEntry)
    (entries : s'.entries = s.entries ++ (s.transaction t).entries)
    (others : ∀ u, u ≠ t → s'.entriesAt (some u) = s.entriesAt (some u)) :
    Writes t s s' none

/-- Every answered call of a transaction under way does one of these to the entries. -/
theorem writes_of_step {now : Instant} {c : Call} {answer : Except StoreError c.Answer}
    (own : c.isOwn = true) (step : s.step t now c = .answered s' answer) :
    Writes t s s' (Units.Deed.entry? t ⟨some t, c, answer⟩) := by
  cases c with
  | lock account =>
    obtain ⟨-, rfl, -⟩ := lock_eq_answered step
    exact .nothing (entriesAt_update s (Transaction.entries_hold _ _)) rfl
  | create account initial =>
    rcases create_eq_answered step with ⟨-, rfl, -⟩ | ⟨-, -, ⟨-, rfl, -⟩ | ⟨-, rfl, -⟩⟩
    · exact .nothing (fun _ => rfl) rfl
    · exact .nothing (entriesAt_update s (Transaction.entries_hold _ _)) rfl
    · exact .nothing (entriesAt_update s (Transaction.entries_hold _ _)) rfl
  | apply account delta =>
    cases step
    rcases apply_cases s t account delta with ⟨e, h⟩ | ⟨available, balance, -, -, -, h⟩
    · rw [h]
      exact .nothing (fun _ => rfl) rfl
    · rw [h]
      exact .nothing (entriesAt_update s rfl) rfl
  | find reference =>
    cases step
    exact .nothing (fun _ => rfl) rfl
  | append posting =>
    cases step
    rcases append_cases s t now posting with ⟨-, h⟩ | ⟨reference, -, -, h⟩ | ⟨-, h⟩
    · rw [h]
      exact .nothing (fun _ => rfl) rfl
    · rw [h]
      exact .nothing (fun _ => rfl) rfl
    · rw [h, Units.Deed.entry?, if_pos rfl]
      exact .entry _ rfl rfl (entriesAt_update_self _ _ _)
        fun _ other => entriesAt_update_of_ne _ _ other
  | commit =>
    cases step
    have gone : (s.drop t).live.get? t = none := Table.get?_erase_self _ t
    rcases commit_cases s t with ⟨reference, -, -, h⟩ | ⟨-, h⟩
    · rw [h]
      exact .ended gone rfl fun _ other => entriesAt_drop_of_ne s other
    · rw [h]
      exact .published gone rfl rfl fun u other =>
        entriesAt_drop_of_ne s fun same => other (Option.some.inj same)
  | rollback =>
    cases step
    exact .ended (Table.get?_erase_self _ t) rfl fun _ other => entriesAt_drop_of_ne s other
  | _ => cases own

/-! ## The numbers of entries -/

/-- Every entry has a number of its own, wherever it is. -/
structure Numbered (s : Store) : Prop where
  /-- The number of an entry was given out. -/
  given : ∀ {place entry}, entry ∈ s.entriesAt place → entry.id < s.nextEntry
  /-- No two entries in one place have the same number. -/
  once : ∀ place, ((s.entriesAt place).map (·.id)).Nodup
  /-- No two entries in different places have the same number. -/
  apart : ∀ {place other a b}, a ∈ s.entriesAt place → b ∈ s.entriesAt other → a.id = b.id →
    place = other

/-- In the store in which nothing has happened there are no entries. -/
theorem Numbered.empty : Numbered {} := by
  have none : ∀ place, ({} : Store).entriesAt place = [] := by
    intro place
    cases place <;> rfl
  constructor <;> simp [none]

/-- Every entry has a number of its own after some places were emptied. -/
theorem Numbered.of_emptied (numbered : s.Numbered) (next : s'.nextEntry = s.nextEntry)
    (emptied : ∀ place, s'.entriesAt place = [] ∨ s'.entriesAt place = s.entriesAt place) :
    s'.Numbered := by
  have old {place : Option TransactionId} {entry : Entry} (mem : entry ∈ s'.entriesAt place) :
      entry ∈ s.entriesAt place := by
    rcases emptied place with h | h
    · rw [h] at mem
      cases mem
    · rwa [h] at mem
  refine ⟨fun mem => next ▸ numbered.given (old mem), fun place => ?_,
    fun first second => numbered.apart (old first) (old second)⟩
  rcases emptied place with h | h
  · rw [h]
    exact List.nodup_nil
  · rw [h]
    exact numbered.once place

/-- Every entry has a number of its own after one more is written, with the next number. -/
theorem Numbered.entry (numbered : s.Numbered) {entry : Entry} (number : entry.id = s.nextEntry)
    (next : s'.nextEntry = s.nextEntry + 1)
    (own : s'.entriesAt (some t) = s.entriesAt (some t) ++ [entry])
    (others : ∀ place, place ≠ some t → s'.entriesAt place = s.entriesAt place) :
    s'.Numbered := by
  -- An entry is an old one, or the new one, whose number no old one has.
  have source {place : Option TransactionId} {e : Entry} (mem : e ∈ s'.entriesAt place) :
      e ∈ s.entriesAt place ∨ (place = some t ∧ e = entry) := by
    by_cases same : place = some t
    · rw [same, own, List.mem_append, List.mem_singleton] at mem
      exact mem.imp (same ▸ ·) (⟨same, ·⟩)
    · exact Or.inl (others place same ▸ mem)
  have fresh {place : Option TransactionId} {e : Entry} (mem : e ∈ s.entriesAt place) :
      e.id ≠ entry.id := fun same => Int.lt_irrefl _ (number ▸ same ▸ numbered.given mem)
  refine ⟨fun mem => ?_, fun place => ?_, fun first second same => ?_⟩
  · rcases source mem with old | ⟨-, rfl⟩
    · have := numbered.given old
      omega
    · omega
  · by_cases same : place = some t
    · rw [same, own, List.map_append, List.nodup_append]
      refine ⟨numbered.once _, List.nodup_singleton _, fun a old b new => ?_⟩
      obtain ⟨e, mem, rfl⟩ := List.mem_map.1 old
      rw [List.map_singleton, List.mem_singleton] at new
      exact new ▸ fresh mem
    · rw [others place same]
      exact numbered.once place
  · rcases source first with old | ⟨rfl, rfl⟩ <;> rcases source second with old' | ⟨rfl, rfl⟩
    · exact numbered.apart old old' same
    · exact absurd same (fresh old)
    · exact absurd same.symm (fresh old')
    · rfl

/-- Every entry has a number of its own after a transaction is published. -/
theorem Numbered.published (numbered : s.Numbered) (gone : s'.live.get? t = none)
    (next : s'.nextEntry = s.nextEntry)
    (entries : s'.entries = s.entries ++ (s.transaction t).entries)
    (others : ∀ u, u ≠ t → s'.entriesAt (some u) = s.entriesAt (some u)) : s'.Numbered := by
  -- An entry was where it is now, or is published now and was the transaction's.
  have source {place : Option TransactionId} {e : Entry} (mem : e ∈ s'.entriesAt place) :
      (place ≠ some t ∧ e ∈ s.entriesAt place) ∨ (place = none ∧ e ∈ s.entriesAt (some t)) := by
    cases place with
    | none =>
      rw [entriesAt_none, entries, List.mem_append] at mem
      exact mem.imp (⟨by simp, ·⟩) (⟨rfl, ·⟩)
    | some u =>
      by_cases same : u = t
      · rw [same, entriesAt_of_gone gone] at mem
        cases mem
      · exact Or.inl ⟨fun h => same (Option.some.inj h), others u same ▸ mem⟩
  refine ⟨fun mem => ?_, fun place => ?_, fun first second same => ?_⟩
  · rw [next]
    rcases source mem with ⟨-, old⟩ | ⟨-, old⟩
    · exact numbered.given old
    · exact numbered.given old
  · cases place with
    | none =>
      rw [entriesAt_none, entries, List.map_append, List.nodup_append]
      refine ⟨numbered.once none, numbered.once (some t), fun a old b own same => ?_⟩
      obtain ⟨e, mem, rfl⟩ := List.mem_map.1 old
      obtain ⟨e', mem', rfl⟩ := List.mem_map.1 own
      have committed : e ∈ s.entriesAt none := mem
      have impossible : none = some t := numbered.apart committed mem' same
      cases impossible
    | some u =>
      by_cases same : u = t
      · rw [same, entriesAt_of_gone gone]
        exact List.nodup_nil
      · rw [others u same]
        exact numbered.once _
  · rcases source first with ⟨apart, old⟩ | ⟨rfl, old⟩ <;>
      rcases source second with ⟨apart', old'⟩ | ⟨rfl, old'⟩
    · exact numbered.apart old old' same
    · exact absurd (numbered.apart old old' same) apart
    · exact absurd (numbered.apart old old' same).symm apart'
    · rfl

/-- Every entry has a number of its own after an answered call. -/
theorem Numbered.writes (numbered : s.Numbered) {entry : Option Entry}
    (writes : Writes t s s' entry) : s'.Numbered := by
  cases writes with
  | nothing same next => exact numbered.of_emptied next fun place => Or.inr (same place)
  | entry e number next own others => exact numbered.entry number next own others
  | ended gone next others =>
    refine numbered.of_emptied next fun place => ?_
    by_cases same : place = some t
    · exact Or.inl (same ▸ entriesAt_of_gone gone)
    · exact Or.inr (others place same)
  | published gone next entries others => exact numbered.published gone next entries others

end Store

namespace Units

variable {w w' : Units} {s : Store} {t : TransactionId}

/-! ## The entries of a unit of work -/

/-- The entries that a unit of work was answered, the first one first. -/
def appended (w : Units) (t : TransactionId) : List Entry := w.deeds.filterMap (Deed.entry? t)

@[simp] theorem appended_note (w : Units) (store : Store) (deed : Deed) (t : TransactionId) :
    (w.note store deed).appended t = w.appended t ++ (deed.entry? t).toList := by
  rw [appended, note, List.filterMap_append]
  cases h : deed.entry? t <;> simp [appended, h]

/-- An entry that one unit of work writes is none that another one writes. -/
theorem Deed.entry?_of_ne {deed : Deed} (other : deed.unit ≠ some t) : deed.entry? t = none := by
  unfold Deed.entry?
  split
  case h_1 u _ _ => exact if_neg fun same => other (congrArg some same)
  case h_2 => rfl

/-- A call of which nothing came writes no entry. -/
theorem Deed.entry?_error (unit : Option TransactionId) (c : Call) (e : StoreError) :
    Deed.entry? t ⟨unit, c, .error e⟩ = none := by
  cases unit <;> cases c <;> rfl

/-- The store is sound, every entry has a number of its own, and every unit of work under way is
about to publish the entries that it was answered. -/
structure Recorded (w : Units) : Prop extends w.Accounted where
  /-- Every entry has a number of its own. -/
  numbered : w.store.Numbered
  /-- The entries of a unit of work are those that it was answered. -/
  own : ∀ {t}, w.isLive t = true → (w.store.transaction t).entries = w.appended t

/-- A unit of work has the entries that it was answered, while others are asked. -/
theorem Recorded.own_of_others (recorded : w.Recorded) {deed : Deed}
    (others : Store.Others t w.store s) (other : deed.unit ≠ some t)
    (live : (w.note s deed).isLive t = true) :
    ((w.note s deed).store.transaction t).entries = (w.note s deed).appended t := by
  have stays : (w.note s deed).isLive t = w.isLive t := isLive_of_others others
  rw [stays] at live
  rw [appended_note, Deed.entry?_of_ne other, Option.toList_none, List.append_nil]
  exact (congrArg Transaction.entries others.transaction).trans (recorded.own live)

/-- A unit of work that makes a call and goes on has the entries that it was answered. -/
theorem Recorded.own_of_writes (recorded : w.Recorded) {deed : Deed} (live : w.isLive t = true)
    (writes : Store.Writes t w.store s (deed.entry? t))
    (goes_on : (w.note s deed).isLive t = true) :
    ((w.note s deed).store.transaction t).entries = (w.note s deed).appended t := by
  have own := recorded.own live
  rw [appended_note, ← own]
  show s.entriesAt (some t) = w.store.entriesAt (some t) ++ (deed.entry? t).toList
  replace goes_on : (s.live.get? t).isSome = true := goes_on
  generalize written : deed.entry? t = entry at writes
  cases writes with
  | nothing same => rw [same, Option.toList_none, List.append_nil]
  | entry e _ _ added => rw [added, Option.toList_some]
  | ended gone =>
    rw [gone] at goes_on
    cases goes_on
  | published gone =>
    rw [gone] at goes_on
    cases goes_on

/-- Units of work have the entries that they were answered, after every move. -/
theorem Recorded.acts {move : Move} (recorded : w.Recorded) (acts : w.Acts move w') :
    w'.Recorded := by
  have accounted := recorded.toAccounted
  have sound := accounted.sound
  have accounted' := accounted.acts acts
  cases acts with
  | idle => exact recorded
  | begin =>
    refine ⟨accounted', recorded.numbered.of_emptied rfl fun place => ?_, fun {t} live => ?_⟩
    · by_cases same : place = some w.next
      · exact Or.inl (same ▸ Store.entriesAt_update_self _ _ _)
      · exact Or.inr (Store.entriesAt_update_of_ne _ _ same)
    · by_cases same : t = w.next
      · -- No call was made yet under a number that was not given out.
        subst same
        have none : w.appended w.next = [] :=
          List.filterMap_eq_nil_iff.2 fun deed mem => Deed.entry?_of_ne fun unit =>
            Nat.lt_irrefl _ (accounted.known deed mem _ unit)
        exact (Store.entriesAt_update_self _ _ _).trans none.symm
      · have others := sound.others_step same (w.store.step_begin w.next)
        rw [isLive_of_others others] at live
        exact (congrArg Transaction.entries others.transaction).trans (recorded.own live)
  | @ask t c now store answer live own step =>
    have writes := Store.writes_of_step own step
    refine ⟨accounted', recorded.numbered.writes writes, fun {u} goes_on => ?_⟩
    by_cases same : u = t
    · subst same
      exact recorded.own_of_writes live writes goes_on
    · exact recorded.own_of_others (sound.others_step same step)
        (fun h => same (Option.some.inj h).symm) goes_on
  | expire account live =>
    refine ⟨accounted', recorded.numbered, fun {u} goes_on => ?_⟩
    rw [appended_note, Deed.entry?_error, Option.toList_none, List.append_nil]
    exact recorded.own goes_on
  | drop t =>
    have gone : (w.store.drop t).live.get? t = none := Table.get?_erase_self _ t
    have ended : Store.Writes t w.store (w.store.drop t) none :=
      .ended gone rfl fun _ other => Store.entriesAt_drop_of_ne _ other
    refine ⟨accounted', recorded.numbered.writes ended, fun {u} live => ?_⟩
    have different : u ≠ t := by
      rintro rfl
      rw [isLive, show (w.store.drop u).live.get? u = none from gone] at live
      cases live
    have others := sound.others_drop different
    rw [isLive_of_others others] at live
    exact (congrArg Transaction.entries others.transaction).trans (recorded.own live)
  | @request c now store answer common step =>
    obtain ⟨live, -, entries⟩ := eq_of_isCommon common step
    have next : store.nextEntry = w.store.nextEntry := by
      cases c <;> cases common <;> cases step <;> rfl
    refine ⟨accounted', recorded.numbered.of_emptied next fun place => Or.inr ?_,
      fun {u} goes_on => ?_⟩
    · cases place with
      | none => exact entries
      | some u =>
        exact congrArg Transaction.entries
          (Store.transaction_eq_of_get?_eq (congrArg (·.get? u) live))
    · have older : u ≠ w.next := Nat.ne_of_lt (accounted'.given goes_on)
      exact recorded.own_of_others (sound.others_step older step) (by simp) goes_on

/-- Units of work have the entries that they were answered, whatever calls are made in whatever
order. -/
theorem recorded_run (moves : List Move) : (run moves).Recorded := by
  induction moves using List.reverseRecOn with
  | nil =>
    refine ⟨accounted_run [], .empty, fun {t} live => ?_⟩
    rw [show (run []).isLive t = false from rfl] at live
    cases live
  | append_singleton moves move ih =>
    rw [run, List.foldl_append]
    exact ih.acts (acts_act _ move)

/-! ## Commits -/

/-- The references of the entries that a unit of work was answered. -/
def named (w : Units) (t : TransactionId) : List String :=
  (w.appended t).filterMap (·.reference)

/-- What becomes of the ledger when a unit of work asks for its commit, which ends it. -/
inductive Commits (w w' : Units) (t : TransactionId) : Prop
  /-- None of its references is taken: everything it has written is published, in a row after what
  was there, with the balances that it has collected. -/
  | published (free : ∀ reference ∈ w.named t, reference ∉ w.store.references)
    (answer : w'.deeds = w.deeds ++ [⟨some t, .commit, .ok ()⟩])
    (entries : w'.store.entries = w.store.entries ++ w.appended t)
    (references : w'.store.references = w.named t ++ w.store.references)
    (balances : ∀ account, w'.store.balances.get? account =
      (w.staged? t account).or (w.store.balances.get? account))
    (ended : w'.isLive t = false)
  /-- One of its references is taken, which the answer tells: nothing of it is published. -/
  | refused (reference : String) (own : reference ∈ w.named t)
    (taken : reference ∈ w.store.references)
    (answer : w'.deeds =
      w.deeds ++ [⟨some t, .commit, .error (.duplicateReference reference)⟩])
    (entries : w'.store.entries = w.store.entries)
    (references : w'.store.references = w.store.references)
    (balances : w'.store.balances = w.store.balances)
    (ended : w'.isLive t = false)

/-- A unit of work under way that asks for its commit is published or refused. -/
theorem Recorded.commits (recorded : w.Recorded) (live : w.isLive t = true) (now : Instant) :
    Commits w (w.act (.ask t .commit now)) t := by
  have named : w.store.ownReferences t = w.named t := by
    rw [Store.ownReferences, recorded.own live, Units.named]
  have asked : w.act (.ask t .commit now) =
      w.note (w.store.commit t).1 ⟨some t, .commit, (w.store.commit t).2⟩ := by
    rw [act, live]
    rfl
  have gone : (w.store.drop t).live.get? t = none := Table.get?_erase_self _ t
  rw [asked]
  rcases Store.commit_cases w.store t with ⟨reference, own, taken, h⟩ | ⟨free, h⟩
  · rw [h]
    exact .refused reference (named ▸ own) taken rfl rfl rfl rfl
      (Option.isSome_eq_false_iff.2 (Option.isNone_iff_eq_none.2 gone))
  · rw [h]
    refine .published (named ▸ free) rfl (congrArg (w.store.entries ++ ·) (recorded.own live))
      (congrArg (· ++ w.store.references) named)
      (fun account => Store.get?_balances_publish w.store t account)
      (Option.isSome_eq_false_iff.2 (Option.isNone_iff_eq_none.2 gone))

/-- Whatever calls any number of units of work make, in whatever order, no reference is that of two
published entries; the references that the store keeps apart are those of the published entries; no
two published entries have one number; no move takes a published entry away or puts one before it,
and none but a commit of a unit of work under way adds one; and such a commit adds all entries that
the unit of work was answered, in that order and with its balances, or tells which reference of them
is taken and adds nothing and changes no balance. -/
theorem ledger_append_only (moves : List Move) :
    let w := run moves
    Entry.Distinct w.store.entries ∧
    (∀ reference, reference ∈ w.store.references ↔
      ∃ e ∈ w.store.entries, e.reference = some reference) ∧
    (w.store.entries.map (·.id)).Nodup ∧
    (∀ move, w.store.entries <+: (w.act move).store.entries) ∧
    (∀ move, (w.act move).store.entries = w.store.entries ∨
      ∃ t now, move = .ask t .commit now ∧ w.isLive t = true) ∧
    ∀ t now, w.isLive t = true → Commits w (w.act (.ask t .commit now)) t := by
  intro w
  have recorded := recorded_run moves
  have added (move : Move) : (w.act move).store.entries = w.store.entries ∨
      ∃ t now, move = .ask t .commit now ∧ w.isLive t = true :=
    (recorded.published_acts (acts_act w move)).imp (·.2) fun ⟨t, now, ask, live, _⟩ =>
      ⟨t, now, ask, live⟩
  refine ⟨recorded.sound.distinct, recorded.sound.indexed, recorded.numbered.once none, ?_, added,
    fun t now live => recorded.commits live now⟩
  intro move
  rcases added move with same | ⟨t, now, rfl, live⟩
  · exact same ▸ List.prefix_refl _
  · cases recorded.commits live now with
    | published _ _ entries => exact entries ▸ List.prefix_append _ _
    | refused _ _ _ _ entries => exact entries ▸ List.prefix_refl _

namespace Sample

/-- A deposit of ten francs under a reference, if it has one. -/
def deposit (reference : Option String) : Posting := ⟨account, .deposit, 10, reference, none⟩

/-- Two units of work write an entry under one reference, and one of them another entry and, in
vain, the first one again; the other one has made a balance. -/
def colliding : List Move :=
  [.request (.createWallet ⟨1⟩ "main") (.ofMillis 0), .begin, .begin,
    .ask 0 (.append (deposit (some "salary"))) (.ofMillis 1),
    .ask 1 (.append (deposit (some "salary"))) (.ofMillis 2),
    .ask 1 (.create account 10) (.ofMillis 3),
    .ask 0 (.append (deposit none)) (.ofMillis 4),
    .ask 0 (.append (deposit (some "salary"))) (.ofMillis 5)]

end Sample

/-- The first unit of work has published its two entries; the second one, which has written an entry
under the same reference, publishes neither that entry nor the balance that it has made. -/
theorem ledger_append_only_colliding :
    let first := run (Sample.colliding ++ [.ask 0 .commit (.ofMillis 6)])
    let second := first.act (.ask 1 .commit (.ofMillis 7))
    first.store.entries.map (·.id) = [1, 3] ∧ (first.appended 1).map (·.id) = [2] ∧
    first.staged? 1 Sample.account = some 10 ∧
    second.store.entries = first.store.entries ∧ second.store.balances = first.store.balances := by
  intro first second
  obtain ⟨-, -, -, -, -, commits⟩ :=
    ledger_append_only (Sample.colliding ++ [.ask 0 .commit (.ofMillis 6)])
  refine ⟨by decide +kernel, by decide +kernel, by decide +kernel, ?_⟩
  cases commits 1 (.ofMillis 7) (by decide +kernel) with
  | published free =>
    have own : "salary" ∈ first.named 1 := by decide +kernel
    have taken : "salary" ∈ first.store.references := by decide +kernel
    exact absurd taken (free "salary" own)
  | refused _ _ _ _ entries _ balances => exact ⟨entries, balances⟩

end Units

end CurrencyLedger
