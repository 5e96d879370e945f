import Mailroom.Proofs.Processor
import Mailroom.Proofs.Serving

/-!
# What is left half done

Mailbox and task have a life each, and an operation that concerns both changes one after the other. What such an operation has begun and
not finished is a debt, and the thread that is at it stands at the section that pays it (`Possible.debt`). So where no thread stands at
such a section (`AtRest`) there is no debt: the mailbox is at least as far as the task, and whatever was reported has closed both.
-/

namespace Mailroom

variable {σ ν : Type}

/-! ## The life of the mailbox -/

/-- How far the life of a mailbox has come. -/
def Mailbox.Status.rank : Mailbox.Status → Nat
  | accepting => 0
  | quiesced => 1
  | closed => 2

namespace Mailbox.Status

theorem rank_le_closed (s : Mailbox.Status) : s.rank ≤ closed.rank := by cases s <;> decide

/-- A mailbox that has come as far as closed is closed. -/
theorem eq_closed_of_rank_le {s : Mailbox.Status} (h : closed.rank ≤ s.rank) : s = .closed := by
  cases s with
  | closed => rfl
  | accepting | quiesced => exact absurd h (by decide)

/-- A mailbox that has come no further than accepting accepts mail. -/
theorem eq_accepting_of_rank_le {s : Mailbox.Status} (h : s.rank ≤ accepting.rank) : s = .accepting := by
  cases s with
  | accepting => rfl
  | quiesced | closed => exact absurd h (by decide)

end Mailbox.Status

/-- No traffic takes the life of a mailbox back. -/
theorem Traffic.forward {me : ThreadId} {a b : Task σ ν} {s s' : Stage σ ν} (h : Traffic me a s b s') :
    a.mailbox.status.rank ≤ b.mailbox.status.rank := by
  cases h with
  | quiesced was mailbox => rw [Mailbox.status_of_wakeAll mailbox, was]; exact Nat.zero_le 1
  | emptied was mailbox => rw [Mailbox.status_of_wakeAll mailbox]; exact a.mailbox.status.rank_le_closed
  | quiet mailbox | begun _ mailbox | refused _ mailbox | entered _ _ _ mailbox | left _ _ _ _ _ _ mailbox =>
    rw [Mailbox.status_of_wakeAll mailbox]
    exact Nat.le_refl _

/-- The life of a mailbox only moves forward. -/
theorem World.Reach.mailbox_forward {a b : World σ ν} (h : Reach a b) : a.task.mailbox.status.rank ≤ b.task.mailbox.status.rank :=
  h.invariant (P := fun w => a.task.mailbox.status.rank ≤ w.task.mailbox.status.rank) (Nat.le_refl _)
    (fun _ ih hs => Nat.le_trans ih hs.traffic.forward) fun _ ih => ih

/-! ## Debts -/

/-- What an operation in several sections leaves to be done after a first section. -/
inductive Debt where
  /-- The task is quiescing, and the mailbox still accepts mail. -/
  | quiesceMailbox
  /-- The task is closed, and the mailbox is not. -/
  | closeMailbox
  /-- A failure is reported, and the task is not closed. -/
  | closeTask
  /-- The lock of the report is held. -/
  | unlock
deriving DecidableEq

/-- The debt has not been paid. -/
def Debt.Stands (w : Task σ ν) : Debt → Prop
  | quiesceMailbox => w.processor.status = .quiescing ∧ w.mailbox.status = .accepting
  | closeMailbox => w.processor.status = .closed ∧ w.mailbox.status ≠ .closed
  | closeTask => w.processor.report ≠ none ∧ w.processor.status ≠ .closed
  | unlock => w.processor.reportLock ≠ none

namespace Stage

/-- The debt that the stage pays. -/
def debt? : Stage σ ν → Option Debt
  | quiesceMailbox => some .quiesceMailbox
  | surrender => some .closeMailbox
  | shut _ => some .closeMailbox
  | markClosed _ => some .closeTask
  | fileReport _ => some .unlock
  | _ => none

/-- The stage comes at its time. The main loop collects what was reported after mailbox and task are closed, and the handler is called
after that too; and when the task is about to be closed, the mailbox is closed or is the next thing to be closed. `mailbox` and `task`
say which of the two is closed. -/
def isTimely : Stage σ ν → (mailbox task : Bool) → Bool
  | collect, mailbox, task => mailbox && task
  | alarm _, mailbox, task => mailbox && task
  | shut next, _, task => next.isTimely true task
  | wakeAll next, mailbox, task => next.isTimely mailbox task
  | drop _ next, mailbox, task => next.isTimely mailbox task
  | markClosed next, mailbox, _ => (mailbox || next.debt? = some .closeMailbox) && next.isTimely mailbox true
  | _, _, _ => true

/-- A stage that comes at its time does so when more is closed. -/
theorem isTimely_mono {s : Stage σ ν} {mailbox mailbox' task task' : Bool} (hm : mailbox = true → mailbox' = true)
    (ht : task = true → task' = true) (h : s.isTimely mailbox task = true) : s.isTimely mailbox' task' = true := by
  induction s generalizing mailbox mailbox' task task' with
  | collect | alarm e =>
    obtain ⟨h1, h2⟩ : mailbox = true ∧ task = true := by simpa [isTimely] using h
    simp [isTimely, hm h1, ht h2]
  | shut next ih => exact ih id ht h
  | wakeAll next ih => exact ih hm ht h
  | drop ms next ih => exact ih hm ht h
  | markClosed next ih =>
    obtain ⟨h1, h2⟩ : (mailbox = true ∨ next.debt? = some .closeMailbox) ∧ next.isTimely mailbox true = true := by
      simpa [isTimely] using h
    simpa [isTimely] using ⟨h1.imp_left hm, ih hm id h2⟩
  | _ => rfl

end Stage

/-- The stage comes at its time, the task being as it is. -/
def Task.isTimely (w : Task σ ν) (s : Stage σ ν) : Bool :=
  s.isTimely (w.mailbox.status = .closed) (w.processor.status = .closed)

namespace Thread

variable {w : Task σ ν} {me : ThreadId} {pick : Nat} {stack : List (Frame σ ν)} {stage : Stage σ ν} {n : Next σ ν}

/-- A call can fail at any time. -/
theorem isTimely_abort (w : Task σ ν) (e : Failure) : w.isTimely (.abort e) = true := by
  simp [Task.isTimely, Stage.abort, Stage.isTimely, Stage.debt?]

/-- The end of a body leads to a stage that is in time, since the main loop begins with what is to be done first. -/
theorem Ended.timely {e : Ending ν} (h : Ended w e stack n) : n.1.isTimely n.2.stage = true := by
  cases h with
  | default e =>
    cases e with
    | returned => rfl
    | failed | panicked => exact isTimely_abort _ _
  | handler why e =>
    cases e with
    | returned | failed | panicked => rfl
  | _ => rfl

/-- Every turn leads to a stage at its time. -/
theorem Turn.timely (h : Turn w me pick stack stage n) (timely : w.isTimely stage = true) : n.1.isTimely n.2.stage = true := by
  cases h with
  | ended h | broken h => exact h.timely
  | called guarded q k h =>
    cases h with
    | closing => simp [Task.isTimely, Stage.isTimely, Stage.debt?]
    | _ => rfl
  | aborted | collected => exact isTimely_abort _ _
  | taken _ _ _ purpose => cases purpose <;> rfl
  | shutOut choice patient purpose stack was =>
    cases purpose with
    | loop => simp [Task.isTimely, foundClosed, Stage.windUp, Stage.isTimely, was]
    | hold | yield | step => rfl
  | missed _ purpose => cases purpose <;> rfl
  | drained choice purpose =>
    cases choice with
    | oldest => cases purpose <;> rfl
    | eligible p => rfl
  | shut next stack was => exact timely
  | shutBefore next stack was => simpa [Task.isTimely, Stage.isTimely, was] using timely
  | woke next => exact timely
  | dropped m ms next => simpa [Task.isTimely, Stage.isTimely] using timely
  | disposed next => exact timely
  | filed | ignored => simp [Task.isTimely, Stage.isTimely, Stage.debt?]
  | marked next =>
    obtain ⟨-, h⟩ : _ ∧ next.isTimely (decide (w.mailbox.status = .closed)) true = true := by
      simpa only [Task.isTimely, Stage.isTimely, Bool.and_eq_true] using timely
    exact h
  | _ => rfl

/-- A stage pays its debt. -/
theorem Turn.pays {d : Debt} (h : Turn w me pick stack stage n) (hd : stage.debt? = some d) : ¬d.Stands n.1 := by
  cases stage with
  | quiesceMailbox =>
    cases hd
    cases h with
    | quiesced => rintro ⟨-, hm⟩; cases hm
    | quiescedBefore _ was => exact fun hstands => was hstands.2
  | surrender =>
    cases hd
    cases h with
    | surrendered => exact fun hstands => hstands.2 rfl
    | surrenderedBefore _ was => exact fun hstands => hstands.2 was
  | shut next =>
    cases hd
    cases h with
    | shut => exact fun hstands => hstands.2 rfl
    | shutBefore _ _ was => exact fun hstands => hstands.2 was
  | markClosed next =>
    cases hd
    cases h
    exact fun hstands => hstands.2 rfl
  | fileReport e =>
    cases hd
    cases h with
    | filed | ignored => exact fun hstands => hstands rfl
  | _ => cases hd

end Thread

/-- A step that leaves a debt behind leads to the stage that pays it, or the debt is an old one. -/
theorem Tended.debt {w : Task σ ν} {me : ThreadId} {th : Thread σ ν} {n : Next σ ν} {d : Debt} (h : Tended w me th n)
    (forward : w.mailbox.status.rank ≤ n.1.mailbox.status.rank) (timely : w.isTimely th.stage = true) (stands : d.Stands n.1) :
    n.2.stage.debt? = some d ∨ d.Stands w := by
  cases d with
  | quiesceMailbox =>
    obtain ⟨quiescing, accepting⟩ := stands
    rcases h.status_cases with same | ⟨-, -, after⟩ | ⟨-, closed⟩
    · rw [accepting] at forward
      exact .inr ⟨same.symm.trans quiescing, Mailbox.Status.eq_accepting_of_rank_le forward⟩
    · exact .inl (by rw [after]; rfl)
    · rw [closed] at quiescing
      cases quiescing
  | closeMailbox =>
    obtain ⟨closed, hopen⟩ := stands
    have before : w.mailbox.status ≠ .closed := fun hw => hopen (Mailbox.Status.eq_closed_of_rank_le (hw ▸ forward))
    rcases h.status_cases with same | ⟨-, quiescing, -⟩ | ⟨stage, -⟩
    · exact .inr ⟨same.symm.trans closed, before⟩
    · rw [quiescing] at closed
      cases closed
    · rw [stage] at timely
      simp only [Task.isTimely, Stage.isTimely, before, decide_false, Bool.false_or, Bool.and_eq_true, decide_eq_true_eq] at timely
      exact .inl timely.1
  | closeTask =>
    obtain ⟨reported, hopen⟩ := stands
    have before : w.processor.status ≠ .closed := fun hw => hopen (Processor.Status.eq_closed_of_rank_le (hw ▸ h.forward))
    rcases h.report_cases with same | ⟨e, -, after⟩ | ⟨-, nothing⟩
    · exact .inr ⟨same ▸ reported, before⟩
    · exact .inl (by rw [after]; rfl)
    · exact absurd nothing reported
  | unlock =>
    rcases h.lock_cases with same | ⟨e, after⟩ | free
    · exact .inr fun free => stands (same.trans free)
    · exact .inl (by rw [after]; rfl)
    · exact absurd free stands

namespace World

variable {a b w : World σ ν} {t i : ThreadId} {pick : Nat} {th : Thread σ ν} {n : Next σ ν}

/-- Every thread stands at a stage that comes at its time. -/
theorem Possible.timely (h : w.Possible) : ∀ (i : ThreadId) th, w.threads[i]? = some th → w.task.isTimely th.stage = true := by
  refine h.invariant (P := fun w => ∀ (i : ThreadId) th, w.threads[i]? = some th → w.task.isTimely th.stage = true) ?_ ?_
    fun _ ih => ih
  · intro config owner defaultAction handler client programs i th hi
    obtain ⟨program, rfl⟩ := thread_of_start hi
    rfl
  · intro a t pick th n b _ ih hs i x hx
    rcases hs.thread_cases hx with ⟨rfl, rfl⟩ | ⟨-, hx⟩ | ⟨program, rfl⟩
    · rw [hs.task]
      exact hs.turn.timely (ih i th hs.thread)
    · have hab : a.Reach b := Reach.here.step hs.step?_eq
      refine Stage.isTimely_mono ?_ ?_ (ih i x hx)
      · simpa using hab.closed
      · simpa using hab.processor_closed
    · rfl

/-- A debt that has not been paid is owed by a thread that stands at the section that pays it. -/
theorem Possible.debt {d : Debt} (h : w.Possible) : d.Stands w.task →
    ∃ (i : ThreadId) (th : Thread σ ν), w.threads[i]? = some th ∧ th.stage.debt? = some d := by
  refine h.somebody (D := d.Stands) (S := fun s => s.debt? = some d) ?_ ?_ ?_
  · intro config owner defaultAction handler client stands
    cases d with
    | quiesceMailbox => cases stands.1
    | closeMailbox => cases stands.1
    | closeTask => exact absurd rfl stands.1
    | unlock => exact absurd rfl stands
  · intro a t pick th n b possible hs stands
    have forward := hs.traffic.forward
    rw [hs.task] at forward
    refine (hs.tended.debt forward (possible.timely t th hs.thread) stands).imp_right fun hbefore => ⟨hbefore, fun hd => ?_⟩
    exact hs.turn.pays hd stands
  · intro a t stands
    cases d <;> exact stands

/-- No thread stands at a section that an operation which ends the mailbox or the task has still to do. So it is at the start, and after
every operation as long as they are carried out one at a time (`AtRest.alone`). -/
def AtRest (w : World σ ν) : Prop := ∀ (i : ThreadId) th, w.threads[i]? = some th → th.stage.debt? = none

/-- Before the first move there is nothing that anybody has begun. -/
theorem atRest_start (task : Task σ ν) (programs : List (Body σ ν)) : (start task programs).AtRest := by
  intro i th hi
  obtain ⟨program, rfl⟩ := thread_of_start hi
  rfl

/-- While a thread alone takes steps no other comes to a section that pays a debt. -/
theorem moves_others (picks : List Nat) : ∀ {w : World σ ν}, w.moves (picks.map (.step t)) = some b →
    (∀ (i : ThreadId) th, i ≠ t → w.threads[i]? = some th → th.stage.debt? = none) →
    ∀ (i : ThreadId) th, i ≠ t → b.threads[i]? = some th → th.stage.debt? = none := by
  induction picks with
  | nil =>
    intro w steps calm
    cases steps
    exact calm
  | cons pick picks ih =>
    intro w steps calm
    rw [List.map_cons, moves, List.foldlM_cons] at steps
    obtain ⟨x, hx, steps⟩ := Option.bind_eq_some_iff.mp steps
    obtain ⟨th, n, hs⟩ := step?_eq_some hx
    refine ih steps fun i y hi hy => ?_
    rcases hs.thread_cases hy with ⟨rfl, -⟩ | ⟨-, hy⟩ | ⟨program, rfl⟩
    · exact absurd rfl hi
    · exact calm i y hi hy
    · rfl

/-- When a thread alone has taken steps and is back with a reply or a panic, the world is at rest again. -/
theorem AtRest.alone {base : List (Frame σ ν)} (rest : w.AtRest) (picks : List Nat) (steps : w.moves (picks.map (.step t)) = some b)
    (back : b.IsBack t base) : b.AtRest := by
  intro i th hth
  by_cases hi : i = t
  · subst hi
    rcases back with ⟨r, hr⟩ | ⟨p, hp⟩
    · rw [Option.some.inj (hth.symm.trans hr)]
      rfl
    · rw [Option.some.inj (hth.symm.trans hp)]
      rfl
  · exact moves_others picks steps (fun i x _ => rest i x) i th hi hth

/-- At rest nothing is owed. -/
theorem AtRest.paid (rest : w.AtRest) (possible : w.Possible) (d : Debt) : ¬d.Stands w.task := by
  intro stands
  obtain ⟨i, th, hth, hd⟩ := possible.debt stands
  rw [rest i th hth] at hd
  cases hd

end World

end Mailroom
