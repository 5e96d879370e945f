import Mailroom.Proofs.Lifecycle

/-!
# A thread left alone

What comes of a call while no other thread takes a step: the thread goes on from where it stands until it is back with a reply
(`Comes`). Where its next step is known, so is what comes of the rest (`comes_step_iff`), and a run through a mail is a run up to the reply
to the frame below the mail and a run from there (`comes_through_iff`). In the terms of a world this is a call that returns
(`World.returns_iff`).
-/

namespace Mailroom

variable {σ ν : Type}

namespace Thread

/-- The thread is not back at frames of this number. -/
def isAway (th : Thread σ ν) (depth : Nat) : Bool :=
  match th with
  | ⟨.answer _, stack⟩ => stack.length ≠ depth
  | ⟨.unwind _, stack⟩ => stack.length ≠ depth
  | _ => true

/-- Thread `me`, standing at `th` and left alone, comes back at the frames `base` with the reply `r`; the task `w` has become `w'`, and the
programs are those of the threads that it has started. -/
inductive Comes (me : ThreadId) (base : List (Frame σ ν)) :
    Task σ ν → Thread σ ν → List (Body σ ν) → Reply ν → Task σ ν → Prop where
  | back (w : Task σ ν) (r : Reply ν) : Comes me base w ⟨.answer r, base⟩ [] r w
  | step {w w' : Task σ ν} {th : Thread σ ν} {n : Next σ ν} {programs : List (Body σ ν)} {r : Reply ν}
    (away : th.isAway base.length = true) (h : th.step w me 0 = some n) (rest : Comes me base n.1 n.2 programs r w') :
    Comes me base w th (th.offspring ++ programs) r w'

variable {me : ThreadId} {base : List (Frame σ ν)} {w w' : Task σ ν} {th : Thread σ ν} {n : Next σ ν} {programs : List (Body σ ν)}
  {r : Reply ν}

/-- Who is asleep does not step. -/
theorem step_eq_some_iff {pick : Nat} :
    th.step w me pick = some n ↔ w.mailbox.isAsleep me = false ∧ stepStage w me pick th.stack th.stage = some n := by
  cases hawake : w.mailbox.isAsleep me <;> simp [step, hawake]

/-- With another number of frames the thread is not back. -/
theorem isAway_of_ne {stage : Stage σ ν} {stack : List (Frame σ ν)} {depth : Nat} (h : stack.length ≠ depth) :
    (⟨stage, stack⟩ : Thread σ ν).isAway depth = true := by
  cases stage <;> first | rfl | exact decide_eq_true h

/-- Who stands at a reply that is for the frames `base` has come back. -/
theorem comes_back_iff {r' : Reply ν} : Comes me base w ⟨.answer r, base⟩ programs r' w' ↔ programs = [] ∧ r' = r ∧ w' = w := by
  constructor
  · intro h
    cases h with
    | back => exact ⟨rfl, rfl, rfl⟩
    | step away => simp [isAway] at away
  · rintro ⟨rfl, rfl, rfl⟩
    exact .back ..

/-- A panic that is for the frames `base` is no reply. -/
theorem not_comes_unwind {p : Payload} : ¬Comes me base w ⟨.unwind p, base⟩ programs r w' := by
  intro h
  cases h with
  | step away => simp [isAway] at away

/-- Whoever is away takes its next step. -/
theorem comes_iff (away : th.isAway base.length = true) (h : th.step w me 0 = some n) :
    Comes me base w th programs r w' ↔ ∃ later, programs = th.offspring ++ later ∧ Comes me base n.1 n.2 later r w' := by
  constructor
  · intro hc
    cases hc with
    | back => simp [isAway] at away
    | step _ h' rest =>
      cases h.symm.trans h'
      exact ⟨_, rfl, rest⟩
  · rintro ⟨later, rfl, rest⟩
    exact .step away h rest

/-- The next step of a thread that is awake, where it starts no other thread. -/
theorem comes_step_iff {stage : Stage σ ν} {stack : List (Frame σ ν)} (away : (⟨stage, stack⟩ : Thread σ ν).isAway base.length = true)
    (awake : w.mailbox.isAsleep me = false) (h : stepStage w me 0 stack stage = some n)
    (still : (⟨stage, stack⟩ : Thread σ ν).offspring = []) :
    Comes me base w ⟨stage, stack⟩ programs r w' ↔ Comes me base n.1 n.2 programs r w' := by
  rw [comes_iff away (step_eq_some_iff.mpr ⟨awake, h⟩), still]
  simp

/-! ## Through a mail -/

section

variable {whole : Bool}

/-- Above the frame of a mail that runs, a step stays above it, unless the reply or the panic for that frame is there. -/
theorem step_above_serve {stage : Stage σ ν} {above : List (Frame σ ν)}
    (away : (⟨stage, above ++ .serve whole :: base⟩ : Thread σ ν).isAway (base.length + 1) = true)
    (h : (⟨stage, above ++ .serve whole :: base⟩ : Thread σ ν).step w me 0 = some n) :
    ∃ above', n.2.stack = above' ++ .serve whole :: base := by
  have hstep := (step_eq_some_iff.mp h).2
  rcases (turn_stepStage hstep).stack_above with kept | ⟨rfl, returning⟩
  · exact kept
  · cases stage with
    | answer | unwind => simp [isAway] at away
    | run b =>
      cases b with
      | finish e => cases hstep
      | _ => cases returning
    | _ => cases returning

/-- A run through a mail comes to the reply for the frame of the mail first. -/
theorem Comes.up_to_serve (h : Comes me base w th programs r w') (hth : ∃ above, th.stack = above ++ .serve whole :: base) :
    ∃ before r₁ w₁ after, Comes me (.serve whole :: base) w th before r₁ w₁ ∧
      Comes me base w₁ ⟨.answer r₁, .serve whole :: base⟩ after r w' ∧ programs = before ++ after := by
  induction h with
  | back w r =>
    obtain ⟨above, habove⟩ := hth
    exact absurd habove ne_append_cons
  | @step w w' th n programs r away hstep rest ih =>
    obtain ⟨stage, stack⟩ := th
    obtain ⟨above, rfl⟩ : ∃ above, stack = above ++ .serve whole :: base := hth
    cases hinner : (⟨stage, above ++ .serve whole :: base⟩ : Thread σ ν).isAway (base.length + 1) with
    | true =>
      obtain ⟨before, r₁, w₁, after, inner, outer, rfl⟩ := ih (step_above_serve hinner hstep)
      exact ⟨_, r₁, w₁, after, .step hinner hstep inner, outer, (List.append_assoc ..).symm⟩
    | false =>
      obtain rfl : above = [] := by
        rcases above with _ | ⟨f, above⟩
        · rfl
        · rw [isAway_of_ne (by simp; omega)] at hinner
          cases hinner
      cases stage with
      | answer r₁ => exact ⟨[], r₁, w, _, .back w r₁, .step away hstep rest, rfl⟩
      | unwind p =>
        cases (step_eq_some_iff.mp hstep).2
        exact absurd rest not_comes_unwind
      | _ => cases hinner

/-- And a run up to that reply goes on from there. -/
theorem Comes.from_serve {before after : List (Body σ ν)} {r₁ : Reply ν} {w₁ : Task σ ν}
    (h : Comes me (.serve whole :: base) w th before r₁ w₁) (hth : ∃ above, th.stack = above ++ .serve whole :: base)
    (rest : Comes me base w₁ ⟨.answer r₁, .serve whole :: base⟩ after r w') : Comes me base w th (before ++ after) r w' := by
  induction h with
  | back => exact rest
  | @step w w₁ th n programs r₁ away hstep inner ih =>
    obtain ⟨stage, stack⟩ := th
    obtain ⟨above, rfl⟩ : ∃ above, stack = above ++ .serve whole :: base := hth
    rw [List.append_assoc]
    exact .step (isAway_of_ne (by simp; omega)) hstep (ih (step_above_serve away hstep) rest)

/-- What runs above the frame of a mail comes back to that frame, and then from there. -/
theorem comes_through_iff {stage : Stage σ ν} (above : List (Frame σ ν)) :
    Comes me base w ⟨stage, above ++ .serve whole :: base⟩ programs r w' ↔ ∃ before r₁ w₁ after,
      Comes me (.serve whole :: base) w ⟨stage, above ++ .serve whole :: base⟩ before r₁ w₁ ∧
      Comes me base w₁ ⟨.answer r₁, .serve whole :: base⟩ after r w' ∧ programs = before ++ after := by
  constructor
  · exact fun h => h.up_to_serve ⟨above, rfl⟩
  · rintro ⟨before, r₁, w₁, after, inner, outer, rfl⟩
    exact inner.from_serve ⟨above, rfl⟩ outer

end

end Thread

/-! ## In a world -/

namespace World

variable {w b : World σ ν} {t : ThreadId} {base : List (Frame σ ν)} {th : Thread σ ν} {r : Reply ν}

/-- Whether a thread of a world is back is seen from where it stands. -/
theorem isAway_eq (hx : w.threads[t]? = some th) (depth : Nat) : w.isAway t depth = th.isAway depth := by
  rw [isAway, hx]
  obtain ⟨stage, stack⟩ := th
  cases stage <;> rfl

/-- The world after a call that thread `t` was left alone with. -/
def after (w : World σ ν) (t : ThreadId) (task : Task σ ν) (th : Thread σ ν) (programs : List (Body σ ν)) : World σ ν :=
  ⟨task, w.threads.set t th ++ programs.map .start⟩

/-- The world after one step of the thread is of this form. -/
theorem Stepped.eq_after {a : World σ ν} {pick : Nat} {n : Next σ ν} (hs : Stepped a t pick th n b) :
    b = a.after t n.1 n.2 th.offspring := hs.result

/-- What the thread does later covers what it did before; the threads it started add up. -/
theorem after_after {a : World σ ν} (ht : t < a.threads.length) (task task' : Task σ ν) (th th' : Thread σ ν)
    (programs programs' : List (Body σ ν)) :
    (a.after t task th programs).after t task' th' programs' = a.after t task' th' (programs ++ programs') := by
  simp only [after, List.map_append, ← List.append_assoc]
  rw [List.set_append_left _ _ (by simpa using ht), List.set_set]

/-- As long as the thread does nothing, nothing changes. -/
theorem after_self (hx : w.threads[t]? = some th) : w.after t w.task th [] = w := by
  obtain ⟨ht, rfl⟩ := List.getElem?_eq_some_iff.mp hx
  simp [after]

/-- What comes of a thread that is left alone comes of it in the world. -/
theorem returns_of_comes {task task' : Task σ ν} {programs : List (Body σ ν)} (h : Thread.Comes t base task th programs r task')
    (hx : w.threads[t]? = some th) (htask : w.task = task) : w.Returns t base r (w.after t task' ⟨.answer r, base⟩ programs) := by
  induction h generalizing w with
  | back task r =>
    subst htask
    rw [after_self hx]
    exact ⟨hx, 0, rfl⟩
  | @step task task' th n programs r away hstep rest ih =>
    subst htask
    obtain ⟨awake, hstep⟩ := Thread.step_eq_some_iff.mp hstep
    have hs : Stepped w t 0 th n (w.after t n.1 n.2 th.offspring) := ⟨hx, awake, hstep, rfl⟩
    obtain ⟨back, k, hk⟩ := ih hs.own rfl
    rw [after_after hs.lt] at back hk
    refine ⟨back, k + 1, ?_⟩
    rw [List.replicate_succ, movesAway, List.foldlM_cons, isAway_eq hx, away, if_pos rfl, move, hs.step?_eq]
    exact hk

/-- What comes of a thread in the world while it is left alone is what comes of the thread. -/
theorem comes_of_returns (h : w.Returns t base r b) (hx : w.threads[t]? = some th) :
    ∃ programs task, Thread.Comes t base w.task th programs r task ∧ b = w.after t task ⟨.answer r, base⟩ programs := by
  obtain ⟨back, k, hk⟩ := h
  induction k generalizing w th with
  | zero =>
    cases hk
    obtain rfl : th = _ := Option.some.inj (hx.symm.trans back)
    exact ⟨[], b.task, .back .., (after_self hx).symm⟩
  | succ k ih =>
    rw [List.replicate_succ, movesAway, List.foldlM_cons, isAway_eq hx] at hk
    cases away : th.isAway base.length with
    | false => simp [away] at hk
    | true =>
      rw [away, if_pos rfl] at hk
      obtain ⟨x, hmove, hk⟩ := Option.bind_eq_some_iff.mp hk
      obtain ⟨th', n, hs⟩ := step?_eq_some hmove
      obtain rfl : th' = th := Option.some.inj (hs.thread.symm.trans hx)
      obtain ⟨programs, task, comes, rfl⟩ := ih hs.own hk
      rw [hs.task] at comes
      refine ⟨_, task, .step away (Thread.step_eq_some_iff.mpr ⟨hs.awake, hs.step⟩) comes, ?_⟩
      rw [hs.eq_after, after_after hs.lt]

/-- A call that a thread is left alone with, in the world and by itself. -/
theorem returns_iff (hx : w.threads[t]? = some th) : w.Returns t base r b ↔
    ∃ programs task, Thread.Comes t base w.task th programs r task ∧ b = w.after t task ⟨.answer r, base⟩ programs := by
  constructor
  · exact fun h => comes_of_returns h hx
  · rintro ⟨programs, task, comes, rfl⟩
    exact returns_of_comes comes hx rfl

end World

end Mailroom
