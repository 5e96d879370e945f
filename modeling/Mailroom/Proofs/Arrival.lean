import Mailroom.Proofs.Debt
import Mailroom.Proofs.Waiting

/-!
# Coming to a point whatever others do

Between two steps of a thread the other threads may take any number of steps of theirs (`Meanwhile`). `Arrives` says that a thread comes
to a point all the same: after finitely many steps of its own, and with nothing in the way of any of them. A thread that arrives does so
when it is left alone, too (`Arrives.alone`).
-/

namespace Mailroom

variable {σ ν : Type}

namespace World

/-- What can become of a world while thread `t` takes no step. -/
inductive Meanwhile (t : ThreadId) (w : World σ ν) : World σ ν → Prop where
  | here : Meanwhile t w w
  | next {a b : World σ ν} (m : Move) (before : Meanwhile t w a) (other : ∀ pick, m ≠ .step t pick) (h : a.move m = some b) :
    Meanwhile t w b

/-- Thread `t` can take its next step, whatever sleeper that wakes. -/
def Able (w : World σ ν) (t : ThreadId) : Prop := ∀ pick, (w.step? t pick).isSome = true

/-- Another thread than `t` holds the lock of the report, and can take the step that frees it. -/
def Locked (w : World σ ν) (t : ThreadId) : Prop :=
  w.task.processor.reportLock ≠ none ∧ ∃ i e stack b, i ≠ t ∧ w.threads[i]? = some ⟨.fileReport e, stack⟩ ∧
    w.step? i 0 = some b ∧ b.task.processor.reportLock = none

/-- Thread `t` can step, or only the lock of the report is in the way. -/
def Ready (w : World σ ν) (t : ThreadId) : Prop := w.Able t ∨ w.Locked t

/-- Thread `t` comes to a point that `P` describes by finitely many steps of its own, whatever other threads do before each of them. Before
each of them, all the time, it is `ready` to take it, and each of them does what `own` says. -/
inductive Arrives (t : ThreadId) (ready : World σ ν → Prop) (own : World σ ν → World σ ν → Prop) (P : World σ ν → Prop) :
    World σ ν → Prop where
  | here {w : World σ ν} (h : P w) : Arrives t ready own P w
  | step {w : World σ ν} (calm : ∀ a, w.Meanwhile t a → ready a)
    (fine : ∀ a pick b, w.Meanwhile t a → a.step? t pick = some b → own a b)
    (rest : ∀ a pick b, w.Meanwhile t a → a.step? t pick = some b → Arrives t ready own P b) : Arrives t ready own P w

/-- A step of which nothing is asked. -/
def Anyhow (_ _ : World σ ν) : Prop := True

variable {t : ThreadId} {w a b : World σ ν}

namespace Meanwhile

theorem reach (h : w.Meanwhile t a) : w.Reach a := by
  induction h with
  | here => exact .here
  | next m _ _ hm ih => exact ih.next m hm

/-- What holds at the start and is kept by every step of another thread and by every stirring holds all the time. -/
theorem invariant {P : World σ ν → Prop} (h : w.Meanwhile t b) (zero : P w)
    (step : ∀ {a i pick th n b}, i ≠ t → P a → Stepped a i pick th n b → P b) (stir : ∀ {a i}, P a → P (a.stirred i)) : P b := by
  induction h with
  | here => exact zero
  | next m _ other hm ih =>
    cases m with
    | step i pick =>
      obtain ⟨th, n, hs⟩ := step?_eq_some hm
      exact step (fun hi => other pick (congrArg (Move.step · pick) hi)) ih hs
    | stir i =>
      cases hm
      exact stir ih

/-- The thread itself stays where it stands. -/
theorem thread {th : Thread σ ν} (h : w.Meanwhile t a) (hx : w.threads[t]? = some th) : a.threads[t]? = some th :=
  h.invariant (P := fun x => x.threads[t]? = some th) hx (fun hi ih hs => hs.other (Ne.symm hi) ih) fun ih => ih

end Meanwhile

/-- A thread that is awake, at a stage with a step, can take it. -/
theorem able_of_stepStage {th : Thread σ ν} (hx : w.threads[t]? = some th) (awake : w.task.mailbox.isAsleep t = false)
    (step : ∀ pick, (Thread.stepStage w.task t pick th.stack th.stage).isSome = true) : w.Able t := by
  intro pick
  obtain ⟨n, hn⟩ := Option.isSome_iff_exists.mp (step pick)
  have hs : Stepped w t pick th n _ := ⟨hx, awake, hn, rfl⟩
  rw [hs.step?_eq]
  rfl

namespace Arrives

variable {ready P Q : World σ ν → Prop} {own : World σ ν → World σ ν → Prop}

/-- Who comes to one point, and from there to another, comes to that. -/
theorem trans (h : w.Arrives t ready own P) (h' : ∀ x, w.Reach x → P x → x.Arrives t ready own Q) : w.Arrives t ready own Q := by
  induction h with
  | here h => exact h' _ .here h
  | step calm fine rest ih =>
    exact .step calm fine fun a pick b ha hstep => ih a pick b ha hstep fun x hx => h' x ((ha.reach.step hstep).trans hx)

theorem imp (h : w.Arrives t ready own P) (h' : ∀ x, w.Reach x → P x → Q x) : w.Arrives t ready own Q :=
  h.trans fun x hx hP => .here (h' x hx hP)

/-- Who can take all its steps, and does so in a certain way, arrives. -/
theorem anyhow (h : w.Arrives t (·.Able t) own P) : w.Arrives t (·.Ready t) Anyhow P := by
  induction h with
  | here h => exact .here h
  | step calm _ _ ih => exact .step (fun a ha => .inl (calm a ha)) (fun _ _ _ _ _ => trivial) ih

/-- The next step of a thread that stands neither at a put nor at a take. -/
theorem of_stepped {stage : Stage σ ν} {stack : List (Frame σ ν)} (possible : w.Possible) (hx : w.threads[t]? = some ⟨stage, stack⟩)
    (take : stage.isTake = false) (retrying : stage.isRetrying = false)
    (always : ∀ task pick, (Thread.stepStage task t pick stack stage).isSome = true)
    (rest : ∀ a pick n b, w.Reach a → a.Stepped t pick ⟨stage, stack⟩ n b → own a b ∧ b.Arrives t (·.Able t) own P) :
    w.Arrives t (·.Able t) own P := by
  have stepped : ∀ {a pick b}, w.Meanwhile t a → a.step? t pick = some b → own a b ∧ b.Arrives t (·.Able t) own P := by
    intro a pick b ha hstep
    obtain ⟨th, n, hs⟩ := step?_eq_some hstep
    obtain rfl : th = ⟨stage, stack⟩ := Option.some.inj (hs.thread.symm.trans (ha.thread hx))
    exact rest a pick n b ha.reach hs
  refine .step (fun a ha => ?_) (fun a pick b ha hstep => (stepped ha hstep).1) fun a pick b ha hstep => (stepped ha hstep).2
  have awake := (possible.reach ha.reach).awake (ha.thread hx) take fun hr => by rw [retrying] at hr; cases hr
  exact able_of_stepStage (ha.thread hx) awake fun pick => always a.task pick

/-- The same, where what the step leads to does not depend on the other threads: the task becomes what `f` makes of it, and the thread
stands at `th` then. -/
theorem next {stage : Stage σ ν} {stack : List (Frame σ ν)} (f : Task σ ν → Task σ ν) {th : Thread σ ν} (possible : w.Possible)
    (hx : w.threads[t]? = some ⟨stage, stack⟩) (take : stage.isTake = false) (retrying : stage.isRetrying = false)
    (step : ∀ task pick, Thread.stepStage task t pick stack stage = some (f task, th))
    (fine : ∀ a b : World σ ν, b.task = f a.task → own a b)
    (rest : ∀ a b : World σ ν, w.Reach b → b.task = f a.task → b.threads[t]? = some th → b.Arrives t (·.Able t) own P) :
    w.Arrives t (·.Able t) own P := by
  refine of_stepped possible hx take retrying (fun task pick => by rw [step]; rfl) fun a pick n b ha hs => ?_
  have hn := hs.step
  rw [step] at hn
  cases hn
  exact ⟨fine a b hs.task, rest a b (ha.step hs.step?_eq) hs.task hs.own⟩

end Arrives

/-- Who arrives while nothing but the lock of the report may be in the way arrives when it is left alone, if no other thread holds that
lock. -/
theorem Arrives.alone {own : World σ ν → World σ ν → Prop} {P : World σ ν → Prop} (h : w.Arrives t (·.Ready t) own P)
    (free : ∀ (i : ThreadId) th, i ≠ t → w.threads[i]? = some th → th.stage.debt? = none) :
    ∃ n b, w.moves (List.replicate n (.step t 0)) = some b ∧ P b := by
  induction h with
  | @here w h => exact ⟨0, w, rfl, h⟩
  | @step w calm fine rest ih =>
    rcases calm w .here with able | ⟨-, i, e, stack, -, hi, hx, -⟩
    · obtain ⟨x, hx⟩ := Option.isSome_iff_exists.mp (able 0)
      have still : w.moves ([0].map (.step t)) = some x := by rw [List.map_singleton, moves, List.foldlM_cons, move, hx]; rfl
      obtain ⟨n, b, hb, hP⟩ := ih w 0 x .here hx (moves_others [0] still free)
      refine ⟨n + 1, b, ?_, hP⟩
      rw [List.replicate_succ, moves, List.foldlM_cons, move, hx]
      exact hb
    · cases free i _ hi hx

end World

end Mailroom
