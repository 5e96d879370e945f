import Mailroom.Proofs.Traffic

/-!
# What a step does to the processor

Every turn leaves the processor's side of the task as it is, or changes one thing in it, and only at the stage that is there for that
(`Tended`). So the life of a task only moves forward (`Reach.processor_forward`), and a thread other than the mailbox thread makes the
default action available only by resuming it, and then goes on to send the mail that wakes the mailbox thread (`Tended.available`).
-/

namespace Mailroom

variable {σ ν : Type}

/-- What a step of thread `me`, which stood at `th`, does to the processor. -/
inductive Tended (w : Task σ ν) (me : ThreadId) (th : Thread σ ν) (n : Next σ ν) : Prop where
  | same (processor : n.1.processor = w.processor)
  | counted (processor : n.1.processor = { w.processor with processed := w.processor.processed + 1 })
  | signalled (raised : Bool) (processor : n.1.processor = { w.processor with interrupted := raised })
  | suspended (processor : n.1.processor = { w.processor with suspended := true })
  /-- A resumption that changes the flag goes on to send the mail that wakes the mailbox thread, unless that thread made it. -/
  | resumed (guarded : Bool) (s : SuspensionId) (k : Reply ν → Body σ ν)
    (processor : n.1.processor = { w.processor with suspended := false })
    (rouses : w.processor.suspended = true → me ≠ w.mailbox.owner →
      ∃ m : Letter σ ν, m.toEnvelope = Thread.wakeUp ∧ n.2 = ⟨.offer m false .silent, .caller guarded (.resume s) k :: th.stack⟩)
  | calmed (was : w.processor.status = .running) (processor : n.1.processor = { w.processor with status := .quiescing })
    (after : n.2.stage = .quiesceMailbox)
  | closed (before : th.stage = .markClosed n.2.stage) (processor : n.1.processor = { w.processor with status := .closed })
  | locked (processor : n.1.processor = { w.processor with reportLock := some me }) (e : Failure) (after : n.2.stage = .fileReport e)
  | filed (e : Failure) (before : th.stage = .fileReport e) (was : w.processor.status ≠ .closed) (first : w.processor.report = none)
    (processor : n.1.processor = { w.processor with
      reportLock := none
      report := some e })
    (after : n.2.stage = .markClosed (.shut (.answer .done)))
  | ignored (e : Failure) (before : th.stage = .fileReport e) (was : w.processor.status = .closed ∨ w.processor.report ≠ none)
    (processor : n.1.processor = { w.processor with reportLock := none })
  | collected (before : th.stage = .collect) (processor : n.1.processor = { w.processor with report := none })

namespace Thread

variable {w : Task σ ν} {me : ThreadId} {pick : Nat} {stack : List (Frame σ ν)} {stage : Stage σ ν} {n : Next σ ν}

/-- The end of a body changes nothing in the processor. -/
theorem Ended.processor {e : Ending ν} (h : Ended w e stack n) : n.1.processor = w.processor := by
  cases h with
  | captured h t d e =>
    cases e with
    | returned | failed | panicked => rfl
  | _ => rfl

/-- Every step does one thing to the processor, or nothing. -/
theorem tended_stepStage (h : stepStage w me pick stack stage = some n) : Tended w me ⟨stage, stack⟩ n := by
  have turn := turn_stepStage h
  cases turn with
  | ended he | broken he => exact .same he.processor
  | called guarded q k hc =>
    cases hc with
    | discarding t m => exact .same (by simp)
    | suspending => exact .suspended rfl
    | rousing s => exact .resumed guarded s k rfl fun _ _ => ⟨_, rfl, rfl⟩
    | resuming s =>
      refine .resumed guarded s k rfl fun suspended other => ?_
      simp [stepStage, stepBody, call, callResume, suspended, other] at h
    | interrupting q raised => exact .signalled raised rfl
    | _ => exact .same rfl
  | accepted | refused | skipped | dropped => exact .same (by simp)
  | taken m choice patient purpose =>
    cases purpose with
    | hold | yield | step | loop => exact .same rfl
  | served => exact .counted rfl
  | calmed stack was => exact .calmed was rfl rfl
  | marked => exact .closed rfl rfl
  | locked e => exact .locked rfl e rfl
  | filed e stack was first => exact .filed e rfl was first rfl rfl
  | ignored e stack was => exact .ignored e rfl was rfl
  | collected => exact .collected rfl rfl
  | _ => exact .same rfl

end Thread

/-! ## The life of the task -/

/-- How far the life of a task has come. -/
def Processor.Status.rank : Processor.Status → Nat
  | running => 0
  | quiescing => 1
  | closed => 2

namespace Processor.Status

/-- Nothing comes after closed. -/
theorem rank_le_closed (s : Processor.Status) : s.rank ≤ closed.rank := by cases s <;> decide

/-- A task that has come as far as closed is closed. -/
theorem eq_closed_of_rank_le {s : Processor.Status} (h : closed.rank ≤ s.rank) : s = .closed := by
  cases s with
  | closed => rfl
  | running | quiescing => exact absurd h (by decide)

end Processor.Status

namespace Tended

variable {w : Task σ ν} {me : ThreadId} {th : Thread σ ν} {n : Next σ ν}

/-- The life of the task goes on where a thread begins to end the task in good order, and where one closes it. -/
theorem status_cases (h : Tended w me th n) : n.1.processor.status = w.processor.status ∨
    (w.processor.status = .running ∧ n.1.processor.status = .quiescing ∧ n.2.stage = .quiesceMailbox) ∨
    (th.stage = .markClosed n.2.stage ∧ n.1.processor.status = .closed) := by
  cases h with
  | calmed was processor after => exact .inr (.inl ⟨was, by rw [processor], after⟩)
  | closed before processor => exact .inr (.inr ⟨before, by rw [processor]⟩)
  | same processor | counted processor | signalled _ processor | suspended processor | resumed _ _ _ processor | locked processor
  | filed _ _ _ _ processor | ignored _ _ _ processor | collected _ processor => exact .inl (by rw [processor])

/-- A report is filed where a thread looks at it, and is collected by the main loop. -/
theorem report_cases (h : Tended w me th n) : n.1.processor.report = w.processor.report ∨
    (∃ e, th.stage = .fileReport e ∧ n.2.stage = .markClosed (.shut (.answer .done))) ∨
    (th.stage = .collect ∧ n.1.processor.report = none) := by
  cases h with
  | filed e before _ _ _ after => exact .inr (.inl ⟨e, before, after⟩)
  | collected before processor => exact .inr (.inr ⟨before, by rw [processor]⟩)
  | same processor | counted processor | signalled _ processor | suspended processor | resumed _ _ _ processor | calmed _ processor
  | closed _ processor | locked processor | ignored _ _ _ processor => exact .inl (by rw [processor])

/-- A thread that gets the lock of the report goes on to look at its report. -/
theorem lock_cases (h : Tended w me th n) : n.1.processor.reportLock = w.processor.reportLock ∨
    (∃ e, n.2.stage = .fileReport e) ∨ n.1.processor.reportLock = none := by
  cases h with
  | locked _ e after => exact .inr (.inl ⟨e, after⟩)
  | filed _ _ _ _ processor | ignored _ _ _ processor => exact .inr (.inr (by rw [processor]))
  | same processor | counted processor | signalled _ processor | suspended processor | resumed _ _ _ processor | calmed _ processor
  | closed _ processor | collected _ processor => exact .inl (by rw [processor])

/-- No step takes the life of a task back. -/
theorem forward (h : Tended w me th n) : w.processor.status.rank ≤ n.1.processor.status.rank := by
  rcases h.status_cases with same | ⟨was, -, -⟩ | ⟨-, closed⟩
  · rw [same]
  · rw [was]
    exact Nat.zero_le _
  · rw [closed]
    exact w.processor.status.rank_le_closed

/-- The default action becomes available by a step of another thread only if that thread goes on to wake the mailbox thread. -/
theorem available (h : Tended w me th n) (other : me ≠ w.mailbox.owner) (now : n.1.processor.isAvailable = true) :
    w.processor.isAvailable = true ∨ ∃ (m : Letter σ ν) (guarded : Bool) (s : SuspensionId) (k : Reply ν → Body σ ν),
      m.toEnvelope = Thread.wakeUp ∧ n.2 = ⟨.offer m false .silent, .caller guarded (.resume s) k :: th.stack⟩ := by
  cases h with
  | suspended processor => simp [processor, Processor.isAvailable] at now
  | calmed was processor => simp [processor, Processor.isAvailable] at now
  | closed before processor => simp [processor, Processor.isAvailable] at now
  | resumed guarded s k processor rouses =>
    cases hsuspended : w.processor.suspended with
    | true =>
      obtain ⟨m, hm⟩ := rouses hsuspended other
      exact .inr ⟨m, guarded, s, k, hm⟩
    | false =>
      rw [processor] at now
      simp only [Processor.isAvailable, hsuspended] at now ⊢
      exact .inl now
  | same processor | counted processor | signalled _ processor | locked processor | filed _ _ _ _ processor
  | ignored _ _ _ processor | collected _ processor =>
    rw [processor] at now
    exact .inl now

end Tended

namespace World

variable {a b : World σ ν}

/-- A step of a world changes one thing in the processor, or nothing. -/
theorem Stepped.tended {t : ThreadId} {pick : Nat} {th : Thread σ ν} {n : Next σ ν} (h : Stepped a t pick th n b) :
    Tended a.task t th n :=
  Thread.tended_stepStage h.step

/-- The life of a task only moves forward. -/
theorem Reach.processor_forward (h : Reach a b) : a.task.processor.status.rank ≤ b.task.processor.status.rank := by
  refine h.invariant (P := fun w => a.task.processor.status.rank ≤ w.task.processor.status.rank) (Nat.le_refl _) ?_ fun _ ih => ih
  intro x t pick th n y _ ih hs
  rw [hs.task]
  exact Nat.le_trans ih hs.tended.forward

end World

end Mailroom
