import CurrencyLedger.Proofs.World.Basic
import Mathlib.Data.List.Induction

/-! # What every action keeps

* **`World.Sane`** — the store is sound and numbers are used once;
* **`World.Moves`** — what an action can do;
* **`World.Proceeds`**, **`World.Moves.running_cases`**, **`World.Moves.finished_cases`** — what a task
  goes on with;
* **`World.Sane.moves`**, **`World.sane_run`** — so it is in every world that can be reached;
* **`World.Keeps`** — a task under way does its duty and will keep its promise, or has kept it;
* **`World.Keeps.moves`** — so it stays whatever happens, unless the task is given up. -/

namespace CurrencyLedger

variable {α : Type} {t u : TransactionId} {shows : Instant → Prop} {trail : Trail} {s : Store}

/-- Around the calls of a transaction others may do anything that is no concern of it, and waiting
for a lock that it does not hold may always be in vain. -/
def Surroundings.crowd (shows : Instant → Prop) (t : TransactionId) : Surroundings t where
  between := Store.Others t
  expires s account := account ∉ (s.transaction t).held
  shows := shows
  rely := id
  trans := Store.Others.trans
  missing _ missing := missing

/-! ## Scripts up to their next call -/

/-- A script settles in a result or at a call. -/
theorem Script.settle_cases (now : Instant) (script : Script α) (trail : Trail) :
    (∃ a, (script.settle now trail).1 = .done a) ∨
      ∃ c next, (script.settle now trail).1 = .call c next := by
  induction script generalizing trail with
  | done a => exact Or.inl ⟨a, rfl⟩
  | call c next => exact Or.inr ⟨c, next, rfl⟩
  | sleep ms next ih => exact ih trail
  | advance stage next ih => exact ih (trail.reach stage)
  | now next ih => exact ih now trail

/-- What a script does by itself changes nothing about what it ensures. -/
theorem Script.Ensures.settle {e : Surroundings t} {P : Trail → Call → Store → Prop}
    {Q : α → Trail → Store → Prop} {script : Script α} (h : script.Ensures e P Q trail s)
    (now : Instant) (shown : e.shows now) :
    (script.settle now trail).1.Ensures e P Q (script.settle now trail).2 s := by
  induction script generalizing trail with
  | done a => exact h
  | call c next => exact h
  | sleep ms next ih => exact ih h
  | advance stage next ih => exact ih h
  | now next ih => exact ih now (h now shown)

namespace World

variable {w : World} {task : Task} {now : Instant} {rest : Script (Except LedgerError Reply)}
  {a : Action}

/-! ## Going on -/

/-- A task that goes on is answered, or comes to its next call. -/
theorem resume_cases (w : World) (t : TransactionId) (task : Task) (now : Instant)
    (rest : Script (Except LedgerError Reply)) (trail : Trail) :
    (∃ result, (rest.settle now trail).1 = .done result ∧
      w.resume t task now rest trail = { w with
        running := w.running.erase t
        finished := w.finished.insert t ⟨task, (rest.settle now trail).2, result⟩ }) ∨
    ∃ c next, (rest.settle now trail).1 = .call c next ∧
      w.resume t task now rest trail = { w with
        running := w.running.insert t ⟨task, (rest.settle now trail).2, .call c next⟩ } := by
  -- A script that settles has come to its end or to its next call.
  rcases rest.settle_cases now trail with ⟨result, h⟩ | ⟨c, next, h⟩
  · refine Or.inl ⟨result, h, ?_⟩
    rw [resume, ← Prod.mk.eta (p := rest.settle now trail), h]
  · refine Or.inr ⟨c, next, h, ?_⟩
    rw [resume, ← Prod.mk.eta (p := rest.settle now trail), h]

@[simp] theorem store_resume : (w.resume t task now rest trail).store = w.store := by
  rcases w.resume_cases t task now rest trail with ⟨_, -, h⟩ | ⟨_, _, -, h⟩ <;> rw [h]

@[simp] theorem next_resume : (w.resume t task now rest trail).next = w.next := by
  rcases w.resume_cases t task now rest trail with ⟨_, -, h⟩ | ⟨_, _, -, h⟩ <;> rw [h]

@[simp] theorem published_resume : (w.resume t task now rest trail).published = w.published := by
  rcases w.resume_cases t task now rest trail with ⟨_, -, h⟩ | ⟨_, _, -, h⟩ <;> rw [h]

/-- A task that goes on leaves the other tasks under way. -/
theorem running_resume_of_ne (different : u ≠ t) :
    (w.resume t task now rest trail).running.get? u = w.running.get? u := by
  rcases w.resume_cases t task now rest trail with ⟨_, -, h⟩ | ⟨_, _, -, h⟩ <;> rw [h]
  · exact Table.get?_erase_of_ne _ different
  · exact Table.get?_insert_of_ne _ _ different

/-- A task that goes on leaves the answers of other tasks. -/
theorem finished_resume_of_ne (different : u ≠ t) :
    (w.resume t task now rest trail).finished.get? u = w.finished.get? u := by
  rcases w.resume_cases t task now rest trail with ⟨_, -, h⟩ | ⟨_, _, -, h⟩ <;> rw [h]
  exact Table.get?_insert_of_ne _ _ different

/-- A task that is under way after one has gone on was so before, or it is that one at its next
call. -/
theorem running_resume_cases {task' : Task} {trail' : Trail}
    {rest' : Script (Except LedgerError Reply)}
    (running : (w.resume u task now rest trail).running.get? t = some ⟨task', trail', rest'⟩) :
    w.running.get? t = some ⟨task', trail', rest'⟩ ∨
      t = u ∧ task' = task ∧ (rest.settle now trail).1 = rest' ∧ ∃ c next, rest' = .call c next := by
  by_cases same : t = u
  · subst same
    rcases w.resume_cases t task now rest trail with ⟨result, -, eq⟩ | ⟨c, next, settled, eq⟩
    · rw [eq] at running
      simp at running
    · rw [eq, Table.get?_insert_self] at running
      obtain ⟨rfl, -, rfl⟩ := Process.mk.inj (Option.some.inj running)
      exact Or.inr ⟨rfl, rfl, settled, c, next, rfl⟩
  · rw [running_resume_of_ne same] at running
    exact Or.inl running

/-- A task that is answered after one has gone on was so before, or it is that one at its end. -/
theorem finished_resume_cases {task' : Task} {trail' : Trail}
    {result : Except LedgerError Reply}
    (finished : (w.resume u task now rest trail).finished.get? t = some ⟨task', trail', result⟩) :
    w.finished.get? t = some ⟨task', trail', result⟩ ∨
      t = u ∧ task' = task ∧ (rest.settle now trail).1 = .done result := by
  by_cases same : t = u
  · subst same
    rcases w.resume_cases t task now rest trail with ⟨result', settled, eq⟩ | ⟨c, next, -, eq⟩
    · rw [eq, Table.get?_insert_self] at finished
      obtain ⟨rfl, -, rfl⟩ := Ending.mk.inj (Option.some.inj finished)
      exact Or.inr ⟨rfl, rfl, settled⟩
    · rw [eq] at finished
      exact Or.inl finished
  · rw [finished_resume_of_ne same] at finished
    exact Or.inl finished

/-! ## One action -/

/-- What an action does: nothing, a beginning, an answered call, a timeout, or an end. -/
inductive Moves (w : World) : Action → World → Prop where
  /-- Nothing. -/
  | idle (a : Action) : Moves w a w
  /-- A task begins. -/
  | launch (task : Task) (now : Instant) :
      Moves w (.launch task now)
        (({ w with next := w.next + 1 } : World).resume w.next task now task.script {})
  /-- A call is answered. -/
  | answer {t : TransactionId} {now : Instant} {task : Task} {trail : Trail} {c : Call}
      {next : Except StoreError c.Answer → Script (Except LedgerError Reply)} {store : Store}
      {answer : Except StoreError c.Answer}
      (running : w.running.get? t = some ⟨task, trail, .call c next⟩)
      (step : w.store.step t now c = .answered store answer) :
      Moves w (.step t now) (({ w with
        store := store
        published :=
          if Exchange.publishes ⟨c, answer, w.store⟩ then w.published ++ [(t, task)]
          else w.published } : World).resume t task now (next answer) (trail.add c answer w.store))
  /-- Waiting was in vain. -/
  | expire {t : TransactionId} {now : Instant} {task : Task} {trail : Trail} {c : Call}
      {next : Except StoreError c.Answer → Script (Except LedgerError Reply)} {account : Account}
      (running : w.running.get? t = some ⟨task, trail, .call c next⟩)
      (locks : c.locks? = some account) (missing : account ∉ (w.store.transaction t).held) :
      Moves w (.expire t now)
        (w.resume t task now (next (.error (.lockTimeout account.text)))
          (trail.add c (.error (.lockTimeout account.text)) w.store))
  /-- A task is given up. -/
  | abandon (t : TransactionId) :
      Moves w (.abandon t) { w with store := w.store.drop t, running := w.running.erase t }

/-- Every action does one of these. -/
theorem moves_act (w : World) (a : Action) : w.Moves a (w.act a) := by
  cases a with
  | launch task now => exact .launch task now
  | step t now =>
    rw [act]
    split
    case h_1 task trail c next running =>
      split
      case h_1 => exact .idle _
      case h_2 store answer step => exact .answer running step
    case h_2 => exact .idle _
  | expire t now =>
    rw [act]
    split
    case h_1 task trail c next running =>
      split
      case h_1 account locks =>
        split
        case isTrue => exact .idle _
        case isFalse missing => exact .expire running locks missing
      case h_2 => exact .idle _
    case h_2 => exact .idle _
  | abandon t => exact .abandon t

/-- What a task goes on with after an action that concerns it. -/
inductive Proceeds (w : World) (t : TransactionId) :
    Action → Task → Script (Except LedgerError Reply) → Prop
  /-- The task begins. -/
  | launched (task : Task) (now : Instant) (begins : t = w.next) :
      Proceeds w t (.launch task now) task task.script
  /-- Its call is answered. -/
  | answered {task : Task} {trail : Trail} {c : Call}
      {next : Except StoreError c.Answer → Script (Except LedgerError Reply)} {store : Store}
      {answer : Except StoreError c.Answer} (now : Instant)
      (running : w.running.get? t = some ⟨task, trail, .call c next⟩)
      (step : w.store.step t now c = .answered store answer) :
      Proceeds w t (.step t now) task (next answer)
  /-- It has waited in vain. -/
  | expired {task : Task} {trail : Trail} {c : Call}
      {next : Except StoreError c.Answer → Script (Except LedgerError Reply)} {account : Account}
      (now : Instant) (running : w.running.get? t = some ⟨task, trail, .call c next⟩)
      (locks : c.locks? = some account) :
      Proceeds w t (.expire t now) task (next (.error (.lockTimeout account.text)))

/-- A task that is under way after an action was so before, or is at the next call of what it goes on
with. -/
theorem Moves.running_cases {w' : World} (moves : w.Moves a w')
    (running : w'.running.get? t = some ⟨task, trail, rest⟩) :
    w.running.get? t = some ⟨task, trail, rest⟩ ∨
      ∃ more now before, w.Proceeds t a task more ∧ (more.settle now before).1 = rest ∧
        ∃ c next, rest = .call c next := by
  cases moves with
  | idle => exact Or.inl running
  | launch task now =>
    rcases running_resume_cases running with old | ⟨rfl, rfl, settled, called⟩
    · exact Or.inl old
    · exact Or.inr ⟨_, _, _, .launched _ now rfl, settled, called⟩
  | answer under_way step =>
    rcases running_resume_cases running with old | ⟨rfl, rfl, settled, called⟩
    · exact Or.inl old
    · exact Or.inr ⟨_, _, _, .answered _ under_way step, settled, called⟩
  | expire under_way locks missing =>
    rcases running_resume_cases running with old | ⟨rfl, rfl, settled, called⟩
    · exact Or.inl old
    · exact Or.inr ⟨_, _, _, .expired _ under_way locks, settled, called⟩
  | abandon u =>
    have left : (w.running.erase u).get? t = some ⟨task, trail, rest⟩ := running
    rw [Table.get?_erase] at left
    split at left
    · cases left
    · exact Or.inl left

/-- A task that is answered after an action was so before, or is at the end of what it goes on
with. -/
theorem Moves.finished_cases {w' : World} {result : Except LedgerError Reply}
    (moves : w.Moves a w')
    (finished : w'.finished.get? t = some ⟨task, trail, result⟩) :
    w.finished.get? t = some ⟨task, trail, result⟩ ∨
      ∃ more now before, w.Proceeds t a task more ∧ (more.settle now before).1 = .done result := by
  cases moves with
  | idle => exact Or.inl finished
  | launch task now =>
    rcases finished_resume_cases finished with old | ⟨rfl, rfl, settled⟩
    · exact Or.inl old
    · exact Or.inr ⟨_, _, _, .launched _ now rfl, settled⟩
  | answer under_way step =>
    rcases finished_resume_cases finished with old | ⟨rfl, rfl, settled⟩
    · exact Or.inl old
    · exact Or.inr ⟨_, _, _, .answered _ under_way step, settled⟩
  | expire under_way locks missing =>
    rcases finished_resume_cases finished with old | ⟨rfl, rfl, settled⟩
    · exact Or.inl old
    · exact Or.inr ⟨_, _, _, .expired _ under_way locks, settled⟩
  | abandon u => exact Or.inl finished

/-! ## Sane worlds -/

/-- The store is sound, numbers that were not given out stand for nothing, and a task that is
answered is not under way. -/
structure Sane (w : World) : Prop where
  /-- The store is sound. -/
  sound : w.store.Sound
  /-- No task has a number that was not given out. -/
  fresh : ∀ t, w.next ≤ t → w.running.get? t = none ∧ w.finished.get? t = none ∧
    w.store.live.get? t = none
  /-- A task under way is not answered. -/
  apart : ∀ t, (w.running.get? t).isSome = true → w.finished.get? t = none

/-- A world in which nothing has happened is sane. -/
theorem sane_empty : Sane {} := by
  refine ⟨Store.Sound.empty, fun t _ => ⟨rfl, rfl, rfl⟩, fun t h => ?_⟩
  simp at h

/-- The number of a task under way was given out. -/
theorem Sane.lt_next {p : Process} (sane : w.Sane) (running : w.running.get? t = some p) :
    t < w.next := by
  by_contra h
  have none := (sane.fresh t (Nat.le_of_not_lt h)).1
  simp [running] at none

/-- A world stays sane when a task of a given number goes on. -/
theorem Sane.resume (sane : w.Sane) (given : t < w.next) (vacant : w.finished.get? t = none) :
    (w.resume t task now rest trail).Sane := by
  refine ⟨by rw [store_resume]; exact sane.sound, fun u le => ?_, fun u h => ?_⟩
  · rw [next_resume] at le
    have different : u ≠ t := Nat.ne_of_gt (Nat.lt_of_lt_of_le given le)
    rw [running_resume_of_ne different, finished_resume_of_ne different, store_resume]
    exact sane.fresh u le
  · by_cases same : u = t
    · subst same
      rcases w.resume_cases u task now rest trail with ⟨_, -, eq⟩ | ⟨_, _, -, eq⟩
      · rw [eq] at h
        simp at h
      · rw [eq]
        exact vacant
    · rw [running_resume_of_ne same] at h
      rw [finished_resume_of_ne same]
      exact sane.apart u h

/-- A world stays sane whatever happens. -/
theorem Sane.moves {w' : World} (sane : w.Sane) (moves : w.Moves a w') : w'.Sane := by
  cases moves with
  | idle => exact sane
  | launch task now =>
    refine Sane.resume ⟨sane.sound, fun u le => sane.fresh u (Nat.le_of_succ_le le), sane.apart⟩
      (Nat.lt_succ_self _) (sane.fresh _ (Nat.le_refl _)).2.1
  | @answer t now task trail c next store answer running step =>
    have given := sane.lt_next running
    refine Sane.resume ⟨sane.sound.step step, fun u le => ?_, sane.apart⟩ given
      (sane.apart t (by rw [running]; rfl))
    obtain ⟨idle, vacant, dead⟩ := sane.fresh u le
    have different : u ≠ t := Nat.ne_of_gt (Nat.lt_of_lt_of_le given le)
    exact ⟨idle, vacant, (sane.sound.others_step different step).live.trans dead⟩
  | @expire t now task trail c next account running locks missing =>
    exact sane.resume (sane.lt_next running) (sane.apart t (by rw [running]; rfl))
  | abandon t =>
    refine ⟨sane.sound.drop t, fun u le => ?_, fun u h => sane.apart u ?_⟩
    · obtain ⟨idle, vacant, dead⟩ := sane.fresh u le
      refine ⟨?_, vacant, ?_⟩
      · show (w.running.erase t).get? u = none
        rw [Table.get?_erase, idle, ite_self]
      · show (w.store.live.erase t).get? u = none
        rw [Table.get?_erase, dead, ite_self]
    · have there : ((w.running.erase t).get? u).isSome = true := h
      rw [Table.get?_erase] at there
      split at there
      · simp at there
      · exact there

/-- Every world that can be reached is sane. -/
theorem sane_run (actions : List Action) : (run actions).Sane := by
  induction actions using List.reverseRecOn with
  | nil => exact sane_empty
  | append_singleton actions a ih =>
    rw [run_append_singleton]
    exact ih.moves (moves_act _ a)

/-! ## What a task keeps -/

/-- A task under way does its duty and will keep its promise, or it is answered and has kept it. -/
def Keeps (w : World) (shows : Instant → Prop) (t : TransactionId) (task : Task)
    (P : Trail → Call → Store → Prop) (Q : Except LedgerError Reply → Trail → Store → Prop) : Prop :=
  (∃ trail c next, w.running.get? t = some ⟨task, trail, .call c next⟩ ∧
    (Script.call c next).Ensures (.crowd shows t) P Q trail w.store) ∨
  ∃ trail result s, w.running.get? t = none ∧ w.finished.get? t = some ⟨task, trail, result⟩ ∧
    Q result trail s

section Keeps

variable {P : Trail → Call → Store → Prop} {Q : Except LedgerError Reply → Trail → Store → Prop}

/-- A task that goes on with what ensures its promise keeps it. -/
theorem keeps_resume (ensures : rest.Ensures (.crowd shows t) P Q trail w.store)
    (shown : shows now) : (w.resume t task now rest trail).Keeps shows t task P Q := by
  have settled := ensures.settle now shown
  rcases w.resume_cases t task now rest trail with ⟨result, h, eq⟩ | ⟨c, next, h, eq⟩
  · rw [h] at settled
    rw [eq]
    exact Or.inr ⟨_, _, _, Table.get?_erase_self _ t, Table.get?_insert_self _ t _, settled⟩
  · rw [h] at settled
    rw [eq]
    exact Or.inl ⟨_, _, _, Table.get?_insert_self _ t _, settled⟩

/-- What other tasks do is no concern of what a task keeps. -/
theorem Keeps.of_others {w' : World} (keeps : w.Keeps shows t task P Q)
    (running : w'.running.get? t = w.running.get? t)
    (finished : w'.finished.get? t = w.finished.get? t)
    (others : Store.Others t w.store w'.store) : w'.Keeps shows t task P Q := by
  rcases keeps with ⟨trail, c, next, here, ensures⟩ | ⟨trail, result, s, here, done, kept⟩
  · exact Or.inl ⟨trail, c, next, running.trans here, ensures.between others⟩
  · exact Or.inr ⟨trail, result, s, running.trans here, finished.trans done, kept⟩

/-- A task that keeps something was given a number. -/
theorem Keeps.lt_next (sane : w.Sane) (keeps : w.Keeps shows t task P Q) : t < w.next := by
  by_contra h
  obtain ⟨idle, vacant, -⟩ := sane.fresh t (Nat.le_of_not_lt h)
  rcases keeps with ⟨trail, c, next, here, -⟩ | ⟨trail, result, s, -, done, -⟩
  · simp [idle] at here
  · simp [vacant] at done

/-- A task keeps what it keeps whatever happens, unless it is given up. -/
theorem Keeps.moves {w' : World} (sane : w.Sane) (keeps : w.Keeps shows t task P Q)
    (moves : w.Moves a w') (shown : ∀ now ∈ a.time?, shows now) :
    w'.Keeps shows t task P Q ∨
      (a = .abandon t ∧ w'.running.get? t = none ∧ w'.finished.get? t = none) := by
  -- An action of another task only changes what is around; an action of the task itself is one of
  -- those that its script is ensured for.
  have given := keeps.lt_next sane
  cases moves with
  | idle => exact Or.inl keeps
  | launch other now =>
    have different : t ≠ w.next := Nat.ne_of_lt given
    refine Or.inl (keeps.of_others (running_resume_of_ne different)
      (finished_resume_of_ne different) ?_)
    rw [store_resume]
    exact .refl sane.sound
  | @answer u now other trail c next store answer running step =>
    have told : shows now := shown now rfl
    refine Or.inl ?_
    by_cases same : t = u
    · subst same
      rcases keeps with ⟨trail', c', next', here, ensures⟩ | ⟨_, _, _, here, -, -⟩
      · cases running.symm.trans here
        obtain ⟨-, answered, -⟩ := ensures w.store (.refl sane.sound)
        exact keeps_resume (answered now store answer step) told
      · simp [running] at here
    · refine keeps.of_others (running_resume_of_ne same) (finished_resume_of_ne same) ?_
      rw [store_resume]
      exact sane.sound.others_step same step
  | @expire u now other trail c next account running locks missing =>
    have told : shows now := shown now rfl
    refine Or.inl ?_
    by_cases same : t = u
    · subst same
      rcases keeps with ⟨trail', c', next', here, ensures⟩ | ⟨_, _, _, here, -, -⟩
      · cases running.symm.trans here
        obtain ⟨-, -, expired⟩ := ensures w.store (.refl sane.sound)
        exact keeps_resume (expired account locks missing) told
      · simp [running] at here
    · refine keeps.of_others (running_resume_of_ne same) (finished_resume_of_ne same) ?_
      rw [store_resume]
      exact .refl sane.sound
  | abandon u =>
    by_cases same : t = u
    · subst same
      have none : (w.running.erase t).get? t = none := Table.get?_erase_self _ t
      rcases keeps with ⟨trail, c, next, here, -⟩ | ⟨trail, result, s, -, done, kept⟩
      · exact Or.inr ⟨rfl, none, sane.apart t (by rw [here]; rfl)⟩
      · exact Or.inl (Or.inr ⟨trail, result, s, none, done, kept⟩)
    · exact Or.inl (keeps.of_others (Table.get?_erase_of_ne _ same) rfl
        (sane.sound.others_drop same))

/-- A task that keeps something is the task of its number. -/
theorem Keeps.running_eq (keeps : w.Keeps shows t task P Q) {p : Process}
    (here : w.running.get? t = some p) :
    ∃ c next, p = ⟨task, p.trail, .call c next⟩ ∧
      (Script.call c next).Ensures (.crowd shows t) P Q p.trail w.store := by
  rcases keeps with ⟨trail, c, next, there, ensures⟩ | ⟨trail, result, s, none, -, -⟩
  · cases there.symm.trans here
    exact ⟨c, next, rfl, ensures⟩
  · simp [here] at none

/-- A task that is answered has kept its promise. -/
theorem Keeps.finished_eq (sane : w.Sane) (keeps : w.Keeps shows t task P Q) {f : Ending}
    (done : w.finished.get? t = some f) :
    w.running.get? t = none ∧ f.task = task ∧ ∃ s, Q f.result f.trail s := by
  rcases keeps with ⟨trail, c, next, there, ensures⟩ | ⟨trail, result, s, none, there, kept⟩
  · have vacant := sane.apart t (by rw [there]; rfl)
    simp [done] at vacant
  · cases there.symm.trans done
    exact ⟨none, rfl, s, kept⟩

end Keeps

end World

end CurrencyLedger
