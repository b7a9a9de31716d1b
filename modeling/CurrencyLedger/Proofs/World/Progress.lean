import CurrencyLedger.Proofs.World.Publishing

/-! # Tasks that do not have to wait

A task that needs no locks but those it holds is answered whenever it takes a step, whatever others
do meanwhile. If it makes no more than so many calls, it has ended after as many steps.

* **`World.Prompt`** — a duty that asks for no locks but those held, in fewer calls than a limit;
* **`World.Made`** — a task has made so many calls, or is answered;
* **`World.Keeps.made_act`** — one action takes a prompt task one call further, if it is its turn;
* **`World.Keeps.ends`** — a prompt task that is not given up ends in time;
* **`World.keeps_foldl`**, **`World.books_act_of_keeps`** — a task that may be given up, and what
  its actions do to the books. -/

namespace CurrencyLedger

variable {t : TransactionId} {s : Store}

/-- A call that needs no lock but those held is answered. -/
theorem Store.Sound.answered (sound : s.Sound) (now : Instant) {c : Call}
    (locked : ∀ account, c.locks? = some account → account ∈ (s.transaction t).held) :
    ∃ s' answer, s.step t now c = .answered s' answer := by
  have free {account : Account} (h : c.locks? = some account) :
      s.isHeldByOther t account = false :=
    isHeldByOther_eq_false_iff.2 (sound.free_of_mem_held (locked account h))
  cases c with
  | lock account =>
    cases h : s.lock t account with
    | answered s' answer => exact ⟨s', answer, h⟩
    | blocked =>
      rw [lock, free rfl] at h
      cases h
  | create account initial =>
    cases h : s.create t account initial with
    | answered s' answer => exact ⟨s', answer, h⟩
    | blocked =>
      rw [create, free rfl] at h
      split at h
      · cases h
      · simp only [Bool.false_eq_true, if_false] at h
        split at h <;> cases h
  | _ => exact ⟨_, _, rfl⟩

/-- Whether an action is a step of a task. -/
def Action.isStep (t : TransactionId) : Action → Bool
  | .step u _ => u == t
  | _ => false

/-- Whether an action moves or ends a task that has begun. -/
def Action.isOf (t : TransactionId) : Action → Bool
  | .launch .. => false
  | .step u _ => u == t
  | .expire u _ => u == t
  | .abandon u => u == t

namespace World

variable {w w' : World} {shows : Instant → Prop} {a : Action} {task : Task} {limit made : Nat}
  {P : Trail → Call → Store → Prop} {Q : Except LedgerError Reply → Trail → Store → Prop}

/-- A task that asks for no locks but those it holds, in fewer calls than a limit. -/
structure Prompt (t : TransactionId) (limit : Nat) (P : Trail → Call → Store → Prop) : Prop where
  /-- It does not have to wait. -/
  locked : ∀ {trail c s}, P trail c s → ∀ account, c.locks? = some account →
    account ∈ (s.transaction t).held
  /-- It makes few calls. -/
  few : ∀ {trail c s}, P trail c s → trail.calls.length < limit

/-- A task has made so many calls, or is answered. -/
def Made (w : World) (t : TransactionId) (made : Nat) : Prop :=
  (w.finished.get? t).isSome = true ∨
    ∃ p, w.running.get? t = some p ∧ p.trail.calls.length = made

/-- A task that goes on has made the calls of its trail. -/
theorem made_resume (w : World) (t : TransactionId) (task : Task) (now : Instant)
    (rest : Script (Except LedgerError Reply)) (trail : Trail) :
    (w.resume t task now rest trail).Made t trail.calls.length := by
  rcases w.resume_cases t task now rest trail with ⟨result, -, eq⟩ | ⟨c, next, -, eq⟩
  · rw [eq]
    exact Or.inl (by rw [Table.get?_insert_self]; rfl)
  · rw [eq]
    exact Or.inr ⟨_, Table.get?_insert_self _ t _, by rw [Script.calls_settle]⟩

/-- One action takes a prompt task one call further if it is its turn, and changes nothing about it
otherwise, unless it is given up. -/
theorem Keeps.made_act (sane : w.Sane) (keeps : w.Keeps shows t task P Q) (prompt : Prompt t limit P)
    (before : w.Made t made) (a : Action) (goes_on : a ≠ .abandon t) :
    (w.act a).Made t (made + if a.isStep t then 1 else 0) := by
  rcases before with done | ⟨p, running, count⟩
  · obtain ⟨f, done⟩ := Option.isSome_iff_exists.1 done
    exact Or.inl (by rw [sane.finished_moves (moves_act w a) done]; rfl)
  · obtain ⟨c, next, eq, ensures⟩ := keeps.running_eq running
    have duty := (ensures w.store (.refl sane.sound)).1
    have stays {w' : World} (same : w'.running.get? t = w.running.get? t) : w'.Made t made :=
      Or.inr ⟨p, same.trans running, count⟩
    cases a with
    | launch other now =>
      exact stays (running_resume_of_ne (Nat.ne_of_lt (sane.lt_next running)))
    | step u now =>
      by_cases same : u = t
      · subst same
        -- It is its turn, and its call is answered, for it has every lock that it needs.
        obtain ⟨s', answer, step⟩ := sane.sound.answered now (prompt.locked duty)
        rw [eq] at running
        rw [act, running]
        simp only [step]
        have turn : (Action.step u now).isStep u = true := beq_self_eq_true u
        rw [turn, if_pos rfl, ← count]
        exact made_resume _ u task now (next answer) (p.trail.add c answer w.store)
      · have other : (Action.step u now).isStep t = false := beq_eq_false_iff_ne.2 same
        rw [other]
        have moves := moves_act w (.step u now)
        refine stays ?_
        generalize w.act (.step u now) = w' at moves
        cases moves with
        | idle => rfl
        | answer => exact running_resume_of_ne (Ne.symm same)
    | expire u now =>
      have moves := moves_act w (.expire u now)
      refine stays ?_
      generalize w.act (.expire u now) = w' at moves
      cases moves with
      | idle => rfl
      | @expire _ _ other trail c' next' account here locks missing =>
        by_cases same : u = t
        · -- A prompt task holds every lock that its calls need.
          subst same
          rw [running, eq] at here
          cases here
          exact absurd (prompt.locked duty account locks) missing
        · exact running_resume_of_ne (Ne.symm same)
    | abandon u =>
      have different : t ≠ u := fun same => goes_on (by rw [same])
      exact stays (Table.get?_erase_of_ne _ different)

/-- A prompt task that is not given up has kept its promise once it has taken enough steps. -/
theorem Keeps.ends (sane : w.Sane) (keeps : w.Keeps shows t task P Q) (prompt : Prompt t limit P)
    (before : w.Made t made) {actions : List Action}
    (shown : ∀ a ∈ actions, ∀ now ∈ a.time?, shows now) (goes_on : ∀ a ∈ actions, a ≠ .abandon t)
    (enough : limit ≤ made + actions.countP (·.isStep t)) :
    ∃ trail result s, (actions.foldl act w).finished.get? t = some ⟨task, trail, result⟩ ∧
      Q result trail s := by
  -- By induction on the actions, with the calls that were made so far.
  induction actions generalizing w made with
  | nil =>
    rcases keeps with ⟨trail, c, next, running, ensures⟩ | ⟨trail, result, s, -, done, kept⟩
    · -- The task would have to make one more call than it may.
      have few := prompt.few (ensures w.store (.refl sane.sound)).1
      rcases before with done | ⟨p, here, count⟩
      · rw [sane.apart t (by rw [running]; rfl)] at done
        cases done
      · rw [running] at here
        cases here
        have same : trail.calls.length = made := count
        rw [List.countP_nil] at enough
        omega
    · exact ⟨trail, result, s, done, kept⟩
  | cons a actions ih =>
    have goes := goes_on a List.mem_cons_self
    have moves := moves_act w a
    have keeps' : (w.act a).Keeps shows t task P Q := by
      rcases keeps.moves sane moves (shown a List.mem_cons_self) with kept | ⟨given_up, -, -⟩
      · exact kept
      · exact absurd given_up goes
    refine ih (sane.moves moves) keeps' (keeps.made_act sane prompt before a goes)
      (fun b mem => shown b (List.mem_cons_of_mem _ mem))
      (fun b mem => goes_on b (List.mem_cons_of_mem _ mem)) ?_
    rw [List.countP_cons] at enough
    omega

/-! ## Tasks that may be given up -/

/-- Numbers are only given out. -/
theorem Moves.next_le (moves : w.Moves a w') : w.next ≤ w'.next := by
  cases moves with
  | idle => exact Nat.le_refl _
  | launch task now =>
    rw [next_resume]
    exact Nat.le_succ _
  | answer running step => rw [next_resume]
  | expire running locks missing => rw [next_resume]
  | abandon u => exact Nat.le_refl _

/-- Whatever happens, a task keeps what it keeps or is no longer known. -/
theorem keeps_foldl (sane : w.Sane) (given : t < w.next)
    (keeps : w.Keeps shows t task P Q ∨ ¬ w.Knows t) {actions : List Action}
    (shown : ∀ a ∈ actions, ∀ now ∈ a.time?, shows now) :
    (actions.foldl act w).Sane ∧
      ((actions.foldl act w).Keeps shows t task P Q ∨ ¬ (actions.foldl act w).Knows t) := by
  -- By induction on the actions: a task that was given up does not come back.
  induction actions generalizing w with
  | nil => exact ⟨sane, keeps⟩
  | cons a actions ih =>
    have moves := moves_act w a
    refine ih (sane.moves moves) (Nat.lt_of_lt_of_le given moves.next_le) ?_
      fun b mem => shown b (List.mem_cons_of_mem _ mem)
    rcases keeps with keeps | unknown
    · rcases keeps.moves sane moves (shown a List.mem_cons_self) with kept | ⟨-, idle, vacant⟩
      · exact Or.inl kept
      · exact Or.inr (by simp [Knows, idle, vacant])
    · refine Or.inr fun known => ?_
      rcases moves.knows known with before | ⟨_, _, -, rfl⟩
      · exact unknown before
      · exact Nat.lt_irrefl _ given

/-- The actions of a task that asks for nothing to be published leave the books alone. -/
theorem books_act_of_keeps (sane : w.Sane) (keeps : w.Keeps shows t task P Q ∨ ¬ w.Knows t)
    (silent : ∀ {trail c s}, P trail c s →
      ∀ answer, Exchange.publishes ⟨c, answer, s⟩ = false)
    (own : a.isOf t = true) : (w.act a).store.books = w.store.books := by
  have moves := moves_act w a
  generalize w.act a = w' at moves
  cases moves with
  | idle => rfl
  | launch => cases own
  | @answer u now task' trail c next store answer running step =>
    obtain rfl : u = t := eq_of_beq own
    rcases keeps with keeps | unknown
    · obtain ⟨c', next', eq, ensures⟩ := keeps.running_eq running
      cases eq
      rw [store_resume]
      exact Store.books_eq_of_step step (silent (ensures w.store (.refl sane.sound)).1 answer)
    · exact absurd (Or.inl (by rw [running]; rfl)) unknown
  | expire running locks missing => rw [store_resume]
  | abandon u => rfl

end World

end CurrencyLedger
